import Mathlib.Data.List.Basic
import PromptRegistry.Proofs.Except
import PromptRegistry.Proofs.Text.Numeral
import PromptRegistry.Proofs.Text.Trim
import PromptRegistry.Uri

/-!
# Addresses of versions

`Reference.Spelled` lists the texts that may stand behind a name. A text reads as an address just
when it is the scheme, a name and one of these (`Uri.parse_eq_ok`), since neither a name nor what
stands behind it has the characters that part an address. So a text that was put together of a name
and a reference is read as those parts or not at all (`Uri.parse_joined`), whatever the parts hold.
The written form of an address is one of its texts, so that it reads back as itself
(`Uri.parse_render`).
-/

namespace PromptRegistry

-- ---------------------------------------------------------------------------
-- Names, aliases and version numbers
-- ---------------------------------------------------------------------------

namespace Rules

theorem all_isNameChar_of_checkName (h : checkName name = .ok ()) :
    ∀ c ∈ name.toList, isNameChar c = true := by
  simp only [checkName, ite_error_eq_ok] at h
  simpa using h.2.2.1

theorem isLatest_of_checkAlias (h : checkAlias a = .ok ()) : isLatest a = false := by
  simp only [checkAlias, ite_error_eq_ok] at h
  simpa using h.2.2.2.1

theorem readVersion_render {n : UInt32} (h : n ≠ 0) :
    readVersion (Text.Decimal.render n.toNat) = .ok n := by
  have htrim : Text.trim (Text.Decimal.digits n.toNat) = Text.Decimal.digits n.toNat :=
    Text.trim_of_not_blank fun c hc => Text.isBlank_of_isAsciiDigit (Text.Decimal.all_digits _ c hc)
  have hread : Text.Decimal.readNat? UInt32.size (Text.Decimal.digits n.toNat) = some n.toNat :=
    Text.Decimal.readNat?_digits n.toNat_lt_size
  have hpos : n.toNat ≠ 0 := fun h0 => h (UInt32.toNat_inj.1 h0)
  obtain ⟨m, hm⟩ := Nat.exists_eq_add_one_of_ne_zero hpos
  rw [readVersion, Text.Decimal.render, String.toList_ofList, htrim, hread, hm]
  show Except.ok (UInt32.ofNat (m + 1)) = .ok n
  rw [← hm, UInt32.ofNat_toNat]

theorem readVersion_eq_ok (h : readVersion s = .ok n) :
    n ≠ 0 ∧ ∀ c ∈ s.toList, Text.isBlank c = true ∨ c = '+' ∨ Text.isAsciiDigit c = true := by
  unfold readVersion at h
  split at h
  · next m hm =>
    cases h
    obtain ⟨hchars, hbound⟩ := Text.Decimal.readNat?_eq_some hm
    constructor
    · intro h0
      have hmod := congrArg UInt32.toNat h0
      rw [UInt32.toNat_ofNat_of_lt' hbound] at hmod
      cases hmod
    · intro c hc
      cases hblank : Text.isBlank c with
      | true => exact .inl rfl
      | false => exact .inr (hchars c (Text.mem_trim hc hblank))
  · cases h

end Rules

inductive Reference.Spelled : Reference → String → Prop
  | version (h : Rules.readVersion s = .ok n) : Spelled (.version n) ("/" ++ s)
  | byAlias (h : Rules.checkAlias a = .ok ()) : Spelled (.byAlias a) ("@" ++ a)
  | latest (h : Rules.isLatest a = true) : Spelled .latest ("@" ++ a)

/-- A reference that can be written: a positive number, an alias that may be assigned, or the
highest version. -/
def Reference.Valid : Reference → Prop
  | .version n => n ≠ 0
  | .byAlias a => Rules.checkAlias a = .ok ()
  | .latest => True

theorem Reference.Spelled.valid {r : Reference} (h : r.Spelled s) : r.Valid := by
  cases h with
  | version h => exact (Rules.readVersion_eq_ok h).1
  | byAlias h => exact h
  | latest h => trivial

namespace Uri

-- ---------------------------------------------------------------------------
-- Cutting a text
-- ---------------------------------------------------------------------------

theorem dropScheme?_eq_some {scheme cs rest : List Char} :
    dropScheme? scheme cs = some rest ↔ cs = scheme ++ rest := by
  induction scheme generalizing cs with
  | nil => simp [dropScheme?]
  | cons s scheme ih =>
    cases cs with
    | nil => simp [dropScheme?]
    | cons c cs =>
      by_cases hc : s = c
      · simp [dropScheme?, hc, ih]
      · simp [dropScheme?, hc, Ne.symm hc]

theorem splitOnce?_eq_none {separator : Char} {cs : List Char} :
    splitOnce? separator cs = none ↔ separator ∉ cs := by
  induction cs with
  | nil => simp [splitOnce?]
  | cons c cs ih =>
    by_cases hc : c = separator
    · simp [splitOnce?, hc]
    · simp [splitOnce?, hc, Ne.symm hc, ih]

theorem splitOnce?_eq_some {separator : Char} {cs before after : List Char} :
    splitOnce? separator cs = some (before, after) ↔
      separator ∉ before ∧ cs = before ++ separator :: after := by
  induction cs generalizing before with
  | nil => simp [splitOnce?]
  | cons c cs ih =>
    cases before with
    | nil =>
      by_cases hc : c = separator
      · simp [splitOnce?, hc]
      · simp [splitOnce?, hc]
    | cons b before =>
      by_cases hc : c = separator
      · have hb : ¬(separator ≠ b ∧ c = b) := fun h => h.1 (hc ▸ h.2)
        simp only [splitOnce?, if_pos hc, Option.some.injEq, Prod.mk.injEq, List.mem_cons, not_or,
          List.cons_append, List.cons.injEq]
        exact ⟨nofun, fun h => (hb ⟨h.1.1, h.2.1⟩).elim⟩
      · have hb : c = b → separator ≠ b := fun h => h ▸ Ne.symm hc
        simp only [splitOnce?, if_neg hc, Option.map_eq_some_iff, Prod.exists, Prod.mk.injEq,
          List.mem_cons, not_or, List.cons_append, List.cons.injEq]
        constructor
        · rintro ⟨_, _, h, ⟨rfl, rfl⟩, rfl⟩
          exact ⟨⟨hb rfl, (ih.1 h).1⟩, rfl, (ih.1 h).2⟩
        · rintro ⟨⟨-, hbefore⟩, rfl, hcs⟩
          exact ⟨before, after, ih.2 ⟨hbefore, hcs⟩, ⟨rfl, rfl⟩, rfl⟩

-- ---------------------------------------------------------------------------
-- Reading
-- ---------------------------------------------------------------------------

theorem readAlias_eq_ok : readAlias a = .ok r ↔
    Rules.isLatest a = true ∧ r = .latest ∨ Rules.checkAlias a = .ok () ∧ r = .byAlias a := by
  unfold readAlias
  split
  · next hlatest =>
    have hcheck : Rules.checkAlias a ≠ .ok () := fun h => by
      rw [Rules.isLatest_of_checkAlias h] at hlatest
      cases hlatest
    simp only [Except.ok.injEq, hlatest, true_and, hcheck, false_and, or_false]
    exact eq_comm
  · next hlatest =>
    rw [or_iff_right fun h => hlatest h.1]
    simp only [bind_eq_ok, Except.ok.injEq]
    constructor
    · rintro ⟨_, h, hr⟩
      exact ⟨h, hr.symm⟩
    · rintro ⟨h, hr⟩
      exact ⟨(), h, hr.symm⟩

theorem assemble_eq_ok {before : List Char} {r : Except Violation Reference} :
    assemble before r = .ok u ↔
      r = .ok u.reference ∧ Rules.checkName u.name = .ok () ∧ String.ofList before = u.name := by
  simp only [assemble, bind_eq_ok, Except.ok.injEq]
  constructor
  · rintro ⟨_, hr, _, hname, rfl⟩
    exact ⟨hr, hname, rfl⟩
  · rintro ⟨hr, hname, heq⟩
    exact ⟨_, hr, (), heq ▸ hname, by rw [heq]⟩

theorem parse_at {before after : List Char} (hbefore : '@' ∉ before)
    (htext : text.toList = scheme.toList ++ (before ++ '@' :: after)) :
    parse text = .ok u ↔ assemble before (readAlias (String.ofList after)) = .ok u := by
  unfold parse
  rw [dropScheme?_eq_some.2 htext]
  simp only [splitOnce?_eq_some.2 ⟨hbefore, rfl⟩, mapError_eq_ok]

theorem parse_slash {before after : List Char} (hat : '@' ∉ before ++ '/' :: after)
    (hbefore : '/' ∉ before) (htext : text.toList = scheme.toList ++ (before ++ '/' :: after)) :
    parse text = .ok u ↔
      assemble before ((Rules.readVersion (String.ofList after)).map .version) = .ok u := by
  unfold parse
  rw [dropScheme?_eq_some.2 htext]
  simp only [splitOnce?_eq_none.2 hat, splitOnce?_eq_some.2 ⟨hbefore, rfl⟩, mapError_eq_ok]

theorem parse_cases (h : parse text = .ok u) : ∃ before after,
    '@' ∉ before ∧ text.toList = scheme.toList ++ (before ++ '@' :: after) ∨
      '@' ∉ before ++ '/' :: after ∧ '/' ∉ before ∧
        text.toList = scheme.toList ++ (before ++ '/' :: after) := by
  unfold parse at h
  split at h
  · cases h
  · next rest hrest =>
    rw [dropScheme?_eq_some] at hrest
    split at h
    · next before after hat =>
      obtain ⟨hbefore, rfl⟩ := splitOnce?_eq_some.1 hat
      exact ⟨before, after, .inl ⟨hbefore, hrest⟩⟩
    · next hat =>
      split at h
      · next before after hslash =>
        obtain ⟨hbefore, rfl⟩ := splitOnce?_eq_some.1 hslash
        exact ⟨before, after, .inr ⟨splitOnce?_eq_none.1 hat, hbefore, hrest⟩⟩
      · cases h

theorem not_mem_of_checkName {s : String} (h : Rules.checkName s = .ok ()) {c : Char}
    (hc : Rules.isNameChar c = false) : c ∉ s.toList := fun hmem => by
  rw [Rules.all_isNameChar_of_checkName h c hmem] at hc
  cases hc

theorem at_not_mem_of_readVersion (h : Rules.readVersion s = .ok n) : '@' ∉ s.toList := by
  intro hmem
  rcases (Rules.readVersion_eq_ok h).2 _ hmem with hc | hc | hc <;> exact absurd hc (by decide)

/-- A text reads as an address just when it is the scheme, a name and a text for the reference. -/
theorem parse_eq_ok : parse text = .ok u ↔
    Rules.checkName u.name = .ok () ∧
      ∃ s, u.reference.Spelled s ∧ text = scheme ++ u.name ++ s := by
  constructor
  · intro h
    obtain ⟨before, after, ⟨hbefore, htext⟩ | ⟨hat, hbefore, htext⟩⟩ := parse_cases h
    · rw [parse_at hbefore htext, assemble_eq_ok] at h
      obtain ⟨href, hname, hu⟩ := h
      refine ⟨hname, "@" ++ String.ofList after, ?_, String.toList_inj.1 (by simp [htext, ← hu])⟩
      rcases readAlias_eq_ok.1 href with ⟨hlatest, hr⟩ | ⟨hcheck, hr⟩
      · exact hr ▸ .latest hlatest
      · exact hr ▸ .byAlias hcheck
    · rw [parse_slash hat hbefore htext, assemble_eq_ok] at h
      obtain ⟨href, hname, hu⟩ := h
      refine ⟨hname, "/" ++ String.ofList after, ?_, String.toList_inj.1 (by simp [htext, ← hu])⟩
      obtain ⟨n, hn, hr⟩ := map_eq_ok.1 href
      exact hr ▸ .version hn
  · rintro ⟨hname, s, hs, rfl⟩
    obtain ⟨name, reference⟩ := u
    have hbefore {c : Char} (hc : Rules.isNameChar c = false) := not_mem_of_checkName hname hc
    have hat (a : String) : (scheme ++ name ++ ("@" ++ a)).toList =
        scheme.toList ++ (name.toList ++ '@' :: a.toList) := by simp
    cases hs with
    | @version s n hn =>
      have hat : '@' ∉ name.toList ++ '/' :: s.toList := by
        simp only [List.mem_append, List.mem_cons, not_or]
        exact ⟨hbefore (by decide), by decide, at_not_mem_of_readVersion hn⟩
      rw [parse_slash hat (hbefore (by decide)) (by simp), assemble_eq_ok]
      exact ⟨map_eq_ok.2 ⟨n, by simpa using hn, rfl⟩, hname, String.ofList_toList⟩
    | @byAlias a ha =>
      rw [parse_at (hbefore (by decide)) (hat a), assemble_eq_ok]
      exact ⟨readAlias_eq_ok.2 (.inr (by simpa using ha)), hname, String.ofList_toList⟩
    | @latest a ha =>
      rw [parse_at (hbefore (by decide)) (hat a), assemble_eq_ok]
      exact ⟨readAlias_eq_ok.2 (.inl (by simpa using ha)), hname, String.ofList_toList⟩

-- ---------------------------------------------------------------------------
-- Joined parts
-- ---------------------------------------------------------------------------

theorem not_mem_of_spelled {r : Reference} (h : r.Spelled s) :
    ∃ mark rest, s.toList = mark :: rest ∧ '@' ∉ rest ∧ '/' ∉ rest := by
  cases h with
  | @version s n h =>
    refine ⟨'/', s.toList, by simp, at_not_mem_of_readVersion h, fun hmem => ?_⟩
    rcases (Rules.readVersion_eq_ok h).2 _ hmem with hc | hc | hc <;> exact absurd hc (by decide)
  | @byAlias a h =>
    simp only [Rules.checkAlias, ite_error_eq_ok] at h
    have hchars : ∀ c ∈ a.toList, Rules.isAliasChar c = true := by simpa using h.2.2.1
    exact ⟨'@', a.toList, by simp, fun hmem => absurd (hchars _ hmem) (by decide),
      fun hmem => absurd (hchars _ hmem) (by decide)⟩
  | @latest a h =>
    have hword : a.toList.map Text.lowerAscii = Rules.latestAlias.toList.map Text.lowerAscii := by
      simpa [Rules.isLatest, Text.sameIgnoringCase] using h
    have hchars {c : Char} (hc : Text.lowerAscii c ∉ Rules.latestAlias.toList.map Text.lowerAscii) :
        c ∉ a.toList := fun hmem => hc (hword ▸ List.mem_map_of_mem hmem)
    exact ⟨'@', a.toList, by simp, hchars (by decide), hchars (by decide)⟩

/-- A name and a reference that were put together are taken apart at the mark between them, or
nowhere. -/
theorem parse_joined {name s : String} {mark : Char} {rest : List Char}
    (hmark : mark = '@' ∨ mark = '/') (hs : s.toList = mark :: rest) :
    parse (scheme ++ name ++ s) = .ok u ↔
      Rules.checkName name = .ok () ∧ u.name = name ∧ u.reference.Spelled s := by
  rw [parse_eq_ok]
  constructor
  · rintro ⟨hname, s', hs', htext⟩
    obtain ⟨mark', rest', htoList, hat, hslash⟩ := not_mem_of_spelled hs'
    have hmark' : Rules.isNameChar mark = false ∧ mark ∉ rest' := by
      rcases hmark with rfl | rfl
      · exact ⟨by decide, hat⟩
      · exact ⟨by decide, hslash⟩
    have hlists : u.name.toList ++ mark' :: rest' = name.toList ++ mark :: rest := by
      have h := congrArg String.toList htext
      simp only [String.toList_append, List.append_assoc, List.append_cancel_left_eq, hs,
        htoList] at h
      exact h.symm
    rw [List.append_cons_inj_of_notMem (not_mem_of_checkName hname hmark'.1) hmark'.2] at hlists
    obtain ⟨hnames, rfl, rfl⟩ := hlists
    have hname' : u.name = name := String.toList_inj.1 hnames
    exact ⟨hname' ▸ hname, hname', String.toList_inj.1 (htoList.trans hs.symm) ▸ hs'⟩
  · rintro ⟨hname, rfl, h⟩
    exact ⟨hname, s, h, rfl⟩

theorem spelled_slash {r : Reference} : r.Spelled ("/" ++ s) ↔
    ∃ n, Rules.readVersion s = .ok n ∧ r = .version n := by
  constructor
  · intro h
    generalize htext : "/" ++ s = text at h
    have htoList := congrArg String.toList htext
    cases h with
    | version h =>
      obtain rfl := String.toList_inj.1 (by simpa using htoList)
      exact ⟨_, h, rfl⟩
    | byAlias | latest => simp at htoList
  · rintro ⟨n, hn, rfl⟩
    exact .version hn

theorem spelled_at {r : Reference} : r.Spelled ("@" ++ a) ↔ readAlias a = .ok r := by
  rw [readAlias_eq_ok]
  constructor
  · intro h
    generalize htext : "@" ++ a = text at h
    have htoList := congrArg String.toList htext
    cases h with
    | version => simp at htoList
    | byAlias h =>
      obtain rfl := String.toList_inj.1 (by simpa using htoList)
      exact .inr ⟨h, rfl⟩
    | latest h =>
      obtain rfl := String.toList_inj.1 (by simpa using htoList)
      exact .inl ⟨h, rfl⟩
  · rintro (⟨h, rfl⟩ | ⟨h, rfl⟩)
    · exact .latest h
    · exact .byAlias h

theorem parse_joinedVersion {name s : String} : parse (scheme ++ name ++ "/" ++ s) = .ok u ↔
    Rules.checkName name = .ok () ∧
      ∃ n, Rules.readVersion s = .ok n ∧ u = ⟨name, .version n⟩ := by
  have hs : ("/" ++ s).toList = '/' :: s.toList := by simp
  rw [String.append_assoc, parse_joined (.inr rfl) hs, spelled_slash]
  refine and_congr_right fun _ => ⟨?_, ?_⟩
  · rintro ⟨hname, n, hn, hr⟩
    exact ⟨n, hn, by rw [← hname, ← hr]⟩
  · rintro ⟨n, hn, rfl⟩
    exact ⟨rfl, n, hn, rfl⟩

theorem parse_joinedAlias {name a : String} : parse (scheme ++ name ++ "@" ++ a) = .ok u ↔
    Rules.checkName name = .ok () ∧ ∃ r, readAlias a = .ok r ∧ u = ⟨name, r⟩ := by
  have hs : ("@" ++ a).toList = '@' :: a.toList := by simp
  rw [String.append_assoc, parse_joined (.inl rfl) hs, spelled_at]
  refine and_congr_right fun _ => ⟨?_, ?_⟩
  · rintro ⟨hname, hr⟩
    exact ⟨_, hr, by rw [← hname]⟩
  · rintro ⟨r, hr, rfl⟩
    exact ⟨rfl, hr⟩

-- ---------------------------------------------------------------------------
-- Writing
-- ---------------------------------------------------------------------------

theorem render_eq (u : Uri) (h : u.reference.Valid) :
    ∃ s, u.reference.Spelled s ∧ u.render = scheme ++ u.name ++ s := by
  obtain ⟨name, reference⟩ := u
  cases reference with
  | version n =>
    exact ⟨_, .version (Rules.readVersion_render h), by simp [render, String.append_assoc]⟩
  | byAlias a => exact ⟨_, .byAlias h, by simp [render, String.append_assoc]⟩
  | latest =>
    exact ⟨_, .latest (Text.sameIgnoringCase_refl _), by simp [render, String.append_assoc]⟩

theorem parse_render {u : Uri} (hname : Rules.checkName u.name = .ok ()) (h : u.reference.Valid) :
    parse u.render = .ok u :=
  parse_eq_ok.2 ⟨hname, u.render_eq h⟩

theorem parse_version (name : PromptName) {n : UInt32} (hn : n ≠ 0) :
    parse (render ⟨name.text, .version n⟩) = .ok ⟨name.text, .version n⟩ :=
  parse_render name.valid hn

/-- Reading and writing addresses agree. An address with a good name and a reference that can be
written reads back from its written form; the texts that read as an address are those that spell
it; so an address that was read once is read again from its written form. -/
theorem parse_render_agree (text : String) (u : Uri) :
    (Rules.checkName u.name = .ok () → u.reference.Valid → parse u.render = .ok u) ∧
    (parse text = .ok u ↔ Rules.checkName u.name = .ok () ∧
      ∃ s, u.reference.Spelled s ∧ text = scheme ++ u.name ++ s) ∧
    (parse text = .ok u → parse u.render = .ok u) := by
  refine ⟨parse_render, parse_eq_ok, fun h => ?_⟩
  obtain ⟨hname, _, hs, -⟩ := parse_eq_ok.1 h
  exact parse_render hname hs.valid

theorem parse_render_agree_seven :
    parse "prompts:/greeting/ +07" = .ok ⟨"greeting", .version 7⟩ ∧
      parse "prompts:/greeting/7" = .ok ⟨"greeting", .version 7⟩ := by
  have h := parse_render_agree "prompts:/greeting/ +07" ⟨"greeting", .version 7⟩
  have hseven : Reference.Spelled (.version 7) ("/" ++ " +07") := .version rfl
  have hread := h.2.1.2 ⟨rfl, "/ +07", hseven, by decide⟩
  have hrender : render ⟨"greeting", .version 7⟩ = "prompts:/greeting/7" := by
    simp [render, scheme, Text.Decimal.render, Text.Decimal.digits, Text.Decimal.digitChar]
  exact ⟨hread, hrender ▸ h.1 rfl (by decide : (7 : UInt32) ≠ 0)⟩

end Uri

end PromptRegistry
