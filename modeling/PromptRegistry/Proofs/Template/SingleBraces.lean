import PromptRegistry.Proofs.Template.Missing
import PromptRegistry.Proofs.Template.Variables

/-!
# Single braces

The single-brace form of a template is the template with each of its names in braces filled in. A
placeholder is left in it where one was wrapped in a further pair of braces, and nowhere else
(`toSingleBraces_variables`).
-/

namespace PromptRegistry

open Text (isBlank isBlankText)

-- ---------------------------------------------------------------------------
-- Reduced pieces
-- ---------------------------------------------------------------------------

namespace Piece

variable {ps xs ys xs' ys' : List Piece}

def reduced : Piece → List Char
  | .literal cs => cs
  | .placeholder p => '\x7b' :: p.name ++ ['\x7d']

theorem head?_reduced (ps : List Piece) : (ps.flatMap reduced).head? = (text ps).head? := by
  have hpiece (piece : Piece) : piece.reduced.head? = piece.chars.head? := by
    cases piece <;> simp [chars, reduced, Placeholder.chars]
  induction ps with
  | nil => rfl
  | cons piece ps ih => simp [List.head?_append, hpiece, ih]

theorem getLast?_reduced (ps : List Piece) :
    (ps.flatMap reduced).getLast? = (text ps).getLast? := by
  have hpiece (piece : Piece) : piece.reduced.getLast? = piece.chars.getLast? := by
    cases piece with
    | literal cs => rfl
    | placeholder p =>
      have hreduced : reduced (.placeholder p) = '\x7b' :: p.name ++ ['\x7d'] := rfl
      have hchars : p.chars = '\x7b' :: '\x7b' :: (p.before ++ p.name ++ p.after) ++ ['\x7d'] ++
          ['\x7d'] := by simp [Placeholder.chars]
      rw [hreduced, chars, hchars, List.getLast?_concat, List.getLast?_concat]
  induction ps with
  | nil => rfl
  | cons piece ps ih => simp [List.getLast?_append, hpiece, ih]

theorem flatMap_eq_append_cons {f : Piece → List Char} (h : ps.flatMap f = cs ++ c :: ds) :
    ∃ xs piece ys us vs, ps = xs ++ piece :: ys ∧ f piece = us ++ c :: vs ∧
      cs = xs.flatMap f ++ us ∧ ds = vs ++ ys.flatMap f := by
  induction ps generalizing cs with
  | nil => simp at h
  | cons piece ps ih =>
    rw [List.flatMap_cons] at h
    rcases List.append_eq_append_iff.1 h with ⟨us, rfl, hrest⟩ | ⟨vs, hpiece, hrest⟩
    · obtain ⟨xs, other, ys, us, vs, rfl, hother, rfl, rfl⟩ := ih hrest
      exact ⟨piece :: xs, other, ys, us, vs, rfl, hother, by simp, rfl⟩
    · cases vs with
      | nil =>
        rw [List.append_nil] at hpiece
        obtain ⟨xs, other, ys, us, vs, rfl, hother, hus, rfl⟩ :=
          ih (show ps.flatMap f = [] ++ c :: ds from hrest.symm)
        refine ⟨piece :: xs, other, ys, us, vs, rfl, hother, ?_, rfl⟩
        rw [List.flatMap_cons, List.append_assoc, ← hus, hpiece, List.append_nil]
      | cons d vs =>
        obtain ⟨rfl, rfl⟩ := List.cons.inj hrest
        exact ⟨[], piece, ps, cs, vs, rfl, hpiece, rfl, rfl⟩

theorem eq_of_overlap (h : xs ++ a :: ys = xs' ++ b :: ys') (hi : i < a.chars.length)
    (hj : j < b.chars.length) (hplace : (text xs).length + i = (text xs').length + j) : a = b := by
  rcases List.append_eq_append_iff.1 h with ⟨zs, rfl, htail⟩ | ⟨zs, rfl, htail⟩
  · cases zs with
    | nil => exact (List.cons.inj htail).1
    | cons z zs =>
      obtain ⟨rfl, -⟩ := List.cons.inj htail
      simp only [text_append, text_cons, List.length_append] at hplace
      omega
  · cases zs with
    | nil => exact (List.cons.inj htail).1.symm
    | cons z zs =>
      obtain ⟨rfl, -⟩ := List.cons.inj htail
      simp only [text_append, text_cons, List.length_append] at hplace
      omega

end Piece

-- ---------------------------------------------------------------------------
-- Placeholders in the single-brace form
-- ---------------------------------------------------------------------------

variable {p q : Placeholder} {ps : List Piece}

/-- A name in single braces that is the inside of a placeholder leaves no room for blanks. -/
theorem Placeholder.Proper.name_of_inner (hp : p.Proper) (hq : q.Proper)
    (h : q.inner ++ back = p.name ++ '\x7d' :: rest) : p.name = q.name ∧ rest = '\x7d' :: back := by
  have hbefore : q.before = [] := by
    cases hcs : q.before with
    | nil => rfl
    | cons c cs =>
      obtain ⟨d, ds, hds⟩ := List.exists_cons_of_ne_nil hp.named
      rw [inner, hcs, hds] at h
      obtain ⟨rfl, -⟩ := List.cons.inj h
      have hblank := hq.before c (by simp [hcs])
      rw [(hp.name c (by simp [hds])).2.2] at hblank
      cases hblank
  have hpname := Text.takeWhile_stretch (fun c hc => isNameChar_iff.2 (hp.name c hc))
    ('\x7d' :: rest) rfl
  have hqname := Text.takeWhile_stretch (fun c hc => isNameChar_iff.2 (hq.name c hc))
    (q.after ++ '\x7d' :: '\x7d' :: back) (by
      cases hcs : q.after with
      | nil => rfl
      | cons c cs => simp [isNameChar, hq.after c (by simp [hcs])])
  have htext : q.name ++ (q.after ++ '\x7d' :: '\x7d' :: back) = p.name ++ '\x7d' :: rest := by
    simpa [inner, hbefore] using h
  rw [htext] at hqname
  have hname : p.name = q.name := hpname.1.symm.trans hqname.1
  have hrest : '\x7d' :: rest = q.after ++ '\x7d' :: '\x7d' :: back := hpname.2.symm.trans hqname.2
  cases hcs : q.after with
  | nil =>
    rw [hcs] at hrest
    exact ⟨hname, (List.cons.inj hrest).2⟩
  | cons c cs =>
    rw [hcs] at hrest
    have hblank := hq.after c (by simp [hcs])
    rw [← (List.cons.inj hrest).1] at hblank
    exact absurd hblank (by decide)

namespace Segmentation

open Piece (reduced)

/-- No placeholder comes about in a literal piece, not even with a brace in front of the piece: it
would be one of the content already. -/
theorem not_in_literal (h : Segmentation content (xs ++ .literal (us ++ '\x7b' :: vs) :: ys))
    (hq : q.Proper) (hfront : front ++ ['\x7b'] = xs.flatMap reduced ++ us) :
    q.inner ++ back ≠ vs ++ ys.flatMap reduced := by
  intro hback
  -- the rest of the placeholder has no opening brace, with which the next piece would begin
  obtain ⟨vs', rfl⟩ : ∃ vs', vs = q.inner ++ vs' := by
    rcases List.append_eq_append_iff.1 hback with ⟨vs', hvs, -⟩ | ⟨zs, hinner, hys⟩
    · exact ⟨vs', hvs⟩
    cases zs with
    | nil => exact ⟨[], by simpa using hinner.symm⟩
    | cons z zs =>
      have hz : z ≠ '\x7b' := by
        rintro rfl
        exact hq.not_mem_inner (by simp [hinner])
      cases h.alternating.of_append.2 with
      | literal _ hys' _ =>
        match ys with
        | [] => cases hys
        | .literal ds :: ys => exact absurd rfl (hys' ds ys)
        | .placeholder p :: ys => exact absurd (List.cons.inj hys).1.symm hz
  have hlast : (Piece.text xs ++ us).getLast? = some '\x7b' := by
    rw [List.getLast?_append, ← Piece.getLast?_reduced, ← List.getLast?_append, ← hfront,
      List.getLast?_concat]
  obtain ⟨front', hfront'⟩ := List.getLast?_eq_some_iff.1 hlast
  have hcontent : content = front' ++ (q.chars ++ (vs' ++ Piece.text ys)) := by
    calc content
        = (Piece.text xs ++ us) ++ '\x7b' :: (q.inner ++ vs' ++ Piece.text ys) := by
          rw [← h.text]
          simp [Piece.chars]
      _ = front' ++ (q.chars ++ (vs' ++ Piece.text ys)) := by
          rw [hfront', q.chars_eq]
          simp
  obtain ⟨xs', ys', hpieces, htext⟩ := h.complete q front' _ hq hcontent
  have hsame : Piece.literal (us ++ '\x7b' :: (q.inner ++ vs')) = .placeholder q := by
    refine Piece.eq_of_overlap hpieces (i := us.length) (j := 1) ?_ ?_ ?_
    · simp [Piece.chars]
    · simp [Piece.chars, q.chars_eq]
    · have := congrArg List.length hfront'
      simp at this
      rw [htext]
      omega
  cases hsame

/-- A placeholder in the single-brace form is made of what a placeholder was reduced to and of a
brace on either side. -/
theorem of_reduced (h : Segmentation content ps) (hq : q.Proper)
    (hreduced : ps.flatMap reduced = front ++ (q.chars ++ back)) :
    ∃ xs p ys, ps = xs ++ .placeholder p :: ys ∧ p.Proper ∧ p.name = q.name ∧
      xs.flatMap reduced = front ++ ['\x7b'] ∧ ys.flatMap reduced = '\x7d' :: back := by
  have hbrace : ps.flatMap reduced = (front ++ ['\x7b']) ++ '\x7b' :: (q.inner ++ back) := by
    rw [hreduced, q.chars_eq]
    simp
  obtain ⟨xs, piece, ys, us, vs, rfl, hpiece, hfront, hback⟩ :=
    Piece.flatMap_eq_append_cons hbrace
  cases piece with
  | literal cs =>
    obtain rfl : cs = us ++ '\x7b' :: vs := hpiece
    exact absurd hback (h.not_in_literal hq hfront)
  | placeholder p =>
    have hp : p.Proper := by
      cases h.alternating.of_append.2 with
      | placeholder hp _ => exact hp
    obtain ⟨rfl, rfl⟩ : us = [] ∧ vs = p.name ++ ['\x7d'] := by
      cases us with
      | nil => exact ⟨rfl, (List.cons.inj hpiece).2.symm⟩
      | cons u us =>
        have htail : p.name ++ ['\x7d'] = us ++ '\x7b' :: vs := (List.cons.inj hpiece).2
        have hmem : '\x7b' ∈ p.name ++ ['\x7d'] := by simp [htail]
        simp only [List.mem_append, List.mem_singleton] at hmem
        rcases hmem with hmem | hmem
        · exact absurd rfl (hp.name _ hmem).1
        · cases hmem
    obtain ⟨hname, hys⟩ := hp.name_of_inner hq (by simpa using hback)
    exact ⟨xs, p, ys, rfl, hp, hname, by simpa using hfront.symm, hys⟩

theorem placeholder_reduced_iff (h : Segmentation content ps) {name : List Char} :
    (∃ q : Placeholder, q.Proper ∧ q.name = name ∧
      ∃ front back, ps.flatMap reduced = front ++ (q.chars ++ back)) ↔
      ∃ p : Placeholder, p.Proper ∧ p.name = name ∧
        ∃ front back, content = front ++ '\x7b' :: (p.chars ++ '\x7d' :: back) := by
  constructor
  · rintro ⟨q, hq, rfl, front, back, hreduced⟩
    obtain ⟨xs, p, ys, rfl, hp, hname, hxs, hys⟩ := h.of_reduced hq hreduced
    have hlast : (Piece.text xs).getLast? = some '\x7b' := by
      rw [← Piece.getLast?_reduced, hxs, List.getLast?_concat]
    have hhead : (Piece.text ys).head? = some '\x7d' := by
      rw [← Piece.head?_reduced, hys, List.head?_cons]
    obtain ⟨before, hbefore⟩ := List.getLast?_eq_some_iff.1 hlast
    obtain ⟨after, hafter⟩ := List.head?_eq_some_iff.1 hhead
    refine ⟨p, hp, hname, before, after, ?_⟩
    rw [← h.text]
    simp [Piece.chars, hbefore, hafter]
  · rintro ⟨p, hp, rfl, front, back, hcontent⟩
    obtain ⟨xs, ys, rfl, hxs⟩ := h.complete p (front ++ ['\x7b']) ('\x7d' :: back) hp
      (by simpa using hcontent)
    have hys : Piece.text ys = '\x7d' :: back := by
      have htext := h.text
      rw [hcontent] at htext
      simpa [hxs, Piece.chars] using htext
    have hlast : (xs.flatMap reduced).getLast? = some '\x7b' := by
      rw [Piece.getLast?_reduced, hxs, List.getLast?_concat]
    have hhead : (ys.flatMap reduced).head? = some '\x7d' := by
      rw [Piece.head?_reduced, hys, List.head?_cons]
    obtain ⟨before, hbefore⟩ := List.getLast?_eq_some_iff.1 hlast
    obtain ⟨after, hafter⟩ := List.head?_eq_some_iff.1 hhead
    refine ⟨⟨[], p.name, []⟩, ⟨by simp, by simp, hp.name, hp.named⟩, rfl, before, after, ?_⟩
    simp [hbefore, hafter, reduced, Placeholder.chars]

end Segmentation

-- ---------------------------------------------------------------------------
-- Names in the single-brace form
-- ---------------------------------------------------------------------------

/-- The name stands in double braces, with nothing but blanks around it and with one more brace of
each kind around these. -/
def StandsWrapped (name content : String) : Prop :=
  ∃ front before after back, isBlankText before = true ∧ isBlankText after = true ∧
    content = front ++ "\x7b" ++ ("\x7b\x7b" ++ before ++ name ++ after ++ "\x7d\x7d") ++
      "\x7d" ++ back

theorem standsWrapped_iff {name content : String} (hname : IsName name) :
    StandsWrapped name content ↔ ∃ p : Placeholder, p.Proper ∧ p.name = name.toList ∧
      ∃ front back, content.toList = front ++ '\x7b' :: (p.chars ++ '\x7d' :: back) := by
  constructor
  · rintro ⟨front, before, after, back, hbefore, hafter, rfl⟩
    obtain ⟨p, hp, hpname, hchars⟩ :=
      (placeholder_iff hname).1 ⟨before, after, hbefore, hafter, rfl⟩
    refine ⟨p, hp, by simp [hpname], front.toList, back.toList, ?_⟩
    simp [← hchars]
  · rintro ⟨p, hp, hpname, front, back, hcontent⟩
    obtain ⟨before, after, hbefore, hafter, hchars⟩ :=
      (placeholder_iff hname).2 ⟨p, hp, by simp [hpname], rfl⟩
    refine ⟨String.ofList front, before, after, String.ofList back, hbefore, hafter, ?_⟩
    refine String.toList_inj.1 ?_
    simp [hcontent, hchars]

namespace Template

theorem toList_singleBraces (content : String) :
    (singleBraces content).toList = (Piece.cut content).flatMap Piece.reduced := by
  rw [singleBraces, Piece.substitute, String.toList_ofList]
  refine congrArg (List.flatMap · _) (funext fun piece => ?_)
  cases piece <;> rfl

theorem standsBehind_singleBraces {name content : String} (hname : IsName name) :
    (∃ front, StandsBehind front name (singleBraces content)) ↔ StandsWrapped name content := by
  have hcut := Segmentation.pieces content.toList
  rw [standsWrapped_iff hname, ← hcut.placeholder_reduced_iff]
  simp only [standsBehind_iff hname, toList_singleBraces]
  constructor
  · rintro ⟨front, q, hq, rfl, back, hreduced⟩
    exact ⟨q, hq, by simp, front.toList, back, hreduced⟩
  · rintro ⟨q, hq, hqname, front, back, hreduced⟩
    refine ⟨String.ofList front, q, hq, by simp [hqname], back, ?_⟩
    rw [String.toList_ofList]
    exact hreduced

theorem contents_toSingleBraces (t : Template) :
    t.toSingleBraces.contents = t.contents.map singleBraces := by
  cases t with
  | text content => rfl
  | chat ms => simp [toSingleBraces, contents]

variable {t : Template} {values : Dict String}

def inBraces (name : String) : String := "\x7b" ++ name ++ "\x7d"

theorem fill_inBraces {content : String}
    (h : ∀ name ∈ occurrences content, values.get? name = some (inBraces name)) :
    fill values content = singleBraces content := by
  refine congrArg String.ofList (List.flatMap_congr fun piece hpiece => ?_)
  cases piece with
  | literal cs => rfl
  | placeholder p => simp [h _ (mem_occurrences.2 ⟨p, hpiece, rfl⟩), inBraces]

def asFormatted : Template → Formatted
  | .text content => .text content
  | .chat messages => .chat messages

theorem format_inBraces (h : ∀ name ∈ t.variableNames, values.get? name = some (inBraces name))
    (allowPartial : Bool) : t.format values allowPartial = .ok t.toSingleBraces.asFormatted := by
  have hmissing : t.missing values = [] := missing_eq_nil.2 fun name hname => ⟨_, h name hname⟩
  have hfill (content : String) (hcontent : content ∈ t.contents) :
      fill values content = singleBraces content :=
    fill_inBraces fun name hname => h name (mem_variableNames_of_content hcontent hname)
  rw [format_of_missing_nil hmissing]
  cases t with
  | text content =>
    rw [toSingleBraces, ← hfill content (List.mem_singleton_self _)]
    rfl
  | chat ms =>
    have hms : ms.map (fun m => (⟨m.role, singleBraces m.content⟩ : Message)) =
        ms.map fun m => ⟨m.role, fill values m.content⟩ := by
      refine List.map_congr_left fun m hm => ?_
      rw [hfill m.content (List.mem_map_of_mem hm)]
    rw [toSingleBraces, hms]
    rfl

/-- The single-brace form is what comes out when each variable is given its name in braces. Of its
variables there is left what stood in a further pair of braces. -/
theorem toSingleBraces_variables (t : Template) :
    (∀ values : Dict String,
      (∀ name ∈ t.variableNames, values.get? name = some ("\x7b" ++ name ++ "\x7d")) →
      ∀ allowPartial, t.format values allowPartial = .ok t.toSingleBraces.asFormatted) ∧
      ∀ name, name ∈ t.toSingleBraces.variableNames ↔
        IsName name ∧ ∃ content ∈ t.contents, StandsWrapped name content := by
  refine ⟨fun values h => format_inBraces h, fun name => ?_⟩
  rw [mem_variableNames, exists_standsAt, contents_toSingleBraces]
  refine and_congr_right fun hname => ?_
  simp only [List.mem_map, exists_exists_and_eq_and, standsBehind_singleBraces hname]

theorem toSingleBraces_variables_three :
    let t : Template := .text "\x7b\x7b\x7b x \x7d\x7d\x7d \x7b\x7by\x7d\x7d"
    let values : Dict String := .ofList [("x", "\x7bx\x7d"), ("y", "\x7by\x7d")]
    t.format values false = .ok (.text "\x7b\x7bx\x7d\x7d \x7by\x7d") ∧
      "x" ∈ t.toSingleBraces.variableNames ∧ "y" ∉ t.toSingleBraces.variableNames := by
  intro t values
  have hvalues : ∀ name ∈ t.variableNames,
      values.get? name = some ("\x7b" ++ name ++ "\x7d") := by decide +kernel
  have hname : IsName "x" := ⟨by decide, List.forall_mem_singleton.2 (by decide)⟩
  have hwrapped : StandsWrapped "x" "\x7b\x7b\x7b x \x7d\x7d\x7d \x7b\x7by\x7d\x7d" :=
    ⟨"", " ", " ", " \x7b\x7by\x7d\x7d", by decide, by decide, by decide⟩
  obtain ⟨hformat, hleft⟩ := toSingleBraces_variables t
  refine ⟨(hformat values hvalues false).trans ?_, ?_, ?_⟩
  · decide +kernel
  · exact (hleft "x").2 ⟨hname, _, List.mem_singleton_self _, hwrapped⟩
  · decide +kernel

end Template

end PromptRegistry
