import PromptRegistry.Proofs.Template.Segmentation

/-!
# The variables of a template

A placeholder stands at a place: in one of the contents, behind some characters. Cutting a content
finds the names in it with the offsets they stand at (`Piece.mem_names`). So the variables of a
template are the names that stand anywhere in it, in the order of the places they stand at first
(`variableNames_places`).
-/

namespace PromptRegistry

open Text (isBlank isBlankText)

-- ---------------------------------------------------------------------------
-- Names in pieces
-- ---------------------------------------------------------------------------

namespace Piece

/-- The names in pieces that begin at an offset, each with the offset of its placeholder. -/
def names (offset : Nat) : List Piece → List (Nat × String)
  | [] => []
  | .literal cs :: pieces => names (offset + cs.length) pieces
  | .placeholder p :: pieces =>
    (offset, String.ofList p.name) :: names (offset + p.chars.length) pieces

theorem map_names (offset : Nat) (pieces : List Piece) :
    (names offset pieces).map (·.2) = pieces.filterMap name? := by
  induction pieces generalizing offset with
  | nil => rfl
  | cons piece pieces ih =>
    cases piece with
    | literal cs => exact ih _
    | placeholder p => exact congrArg _ (ih _)

theorem mem_names {pieces : List Piece} :
    (i, name) ∈ names offset pieces ↔ ∃ xs p ys, pieces = xs ++ .placeholder p :: ys ∧
      i = offset + (text xs).length ∧ name = String.ofList p.name := by
  constructor
  · intro h
    induction pieces generalizing offset with
    | nil => cases h
    | cons piece pieces ih =>
      cases piece with
      | literal cs =>
        obtain ⟨xs, p, ys, rfl, rfl, rfl⟩ := ih h
        refine ⟨.literal cs :: xs, p, ys, rfl, ?_, rfl⟩
        simp only [text_cons, chars, List.length_append]
        omega
      | placeholder q =>
        rcases List.mem_cons.1 h with h | h
        · cases h
          exact ⟨[], q, pieces, rfl, rfl, rfl⟩
        · obtain ⟨xs, p, ys, rfl, rfl, rfl⟩ := ih h
          refine ⟨.placeholder q :: xs, p, ys, rfl, ?_, rfl⟩
          simp only [text_cons, chars, List.length_append]
          omega
  · rintro ⟨xs, p, ys, rfl, rfl, rfl⟩
    induction xs generalizing offset with
    | nil => exact List.mem_cons_self ..
    | cons piece xs ih =>
      cases piece with
      | literal cs =>
        simp only [text_cons, chars, List.length_append, ← Nat.add_assoc]
        exact ih
      | placeholder q =>
        simp only [text_cons, chars, List.length_append, ← Nat.add_assoc]
        exact List.mem_cons_of_mem _ ih

theorem names_pairwise (offset : Nat) (pieces : List Piece) :
    (names offset pieces).Pairwise fun a b => a.1 < b.1 := by
  induction pieces generalizing offset with
  | nil => exact .nil
  | cons piece pieces ih =>
    cases piece with
    | literal cs => exact ih _
    | placeholder p =>
      refine .cons (fun e he => ?_) (ih _)
      obtain ⟨i, name⟩ := e
      obtain ⟨xs, q, ys, -, rfl, -⟩ := mem_names.1 he
      have hp := List.length_pos_iff.2 p.chars_ne_nil
      show offset < offset + p.chars.length + (text xs).length
      omega

end Piece

-- ---------------------------------------------------------------------------
-- Names in a content
-- ---------------------------------------------------------------------------

structure IsName (name : String) : Prop where
  nonempty : name ≠ ""
  chars : ∀ c ∈ name.toList, c ≠ '\x7b' ∧ c ≠ '\x7d' ∧ isBlank c = false

/-- The name stands in double braces, with nothing but blanks around it, behind a front of the
content. -/
def StandsBehind (front name content : String) : Prop :=
  ∃ before after back, isBlankText before = true ∧ isBlankText after = true ∧
    content = front ++ ("\x7b\x7b" ++ before ++ name ++ after ++ "\x7d\x7d") ++ back

theorem placeholder_iff {name : String} (hname : IsName name) {cs : List Char} :
    (∃ before after, isBlankText before = true ∧ isBlankText after = true ∧
      cs = ("\x7b\x7b" ++ before ++ name ++ after ++ "\x7d\x7d").toList) ↔
      ∃ p : Placeholder, p.Proper ∧ name = String.ofList p.name ∧ cs = p.chars := by
  constructor
  · rintro ⟨before, after, hbefore, hafter, rfl⟩
    refine ⟨⟨before.toList, name.toList, after.toList⟩, ⟨?_, ?_, hname.chars, ?_⟩, ?_, ?_⟩
    · simpa [isBlankText] using hbefore
    · simpa [isBlankText] using hafter
    · simpa using hname.nonempty
    · simp
    · simp [Placeholder.chars]
  · rintro ⟨p, hp, rfl, rfl⟩
    refine ⟨String.ofList p.before, String.ofList p.after, ?_, ?_, ?_⟩
    · simpa [isBlankText] using hp.before
    · simpa [isBlankText] using hp.after
    · simp [Placeholder.chars]

theorem standsBehind_iff {front name content : String} (hname : IsName name) :
    StandsBehind front name content ↔ ∃ p : Placeholder, p.Proper ∧ name = String.ofList p.name ∧
      ∃ back, content.toList = front.toList ++ (p.chars ++ back) := by
  constructor
  · rintro ⟨before, after, back, hbefore, hafter, rfl⟩
    obtain ⟨p, hp, hpname, hchars⟩ :=
      (placeholder_iff hname).1 ⟨before, after, hbefore, hafter, rfl⟩
    exact ⟨p, hp, hpname, back.toList, by simp only [String.toList_append, ← hchars,
      List.append_assoc]⟩
  · rintro ⟨p, hp, hpname, back, hcontent⟩
    obtain ⟨before, after, hbefore, hafter, hchars⟩ :=
      (placeholder_iff hname).2 ⟨p, hp, hpname, rfl⟩
    refine ⟨before, after, String.ofList back, hbefore, hafter, String.toList_inj.1 ?_⟩
    rw [hcontent, String.toList_append, String.toList_append, ← hchars, String.toList_ofList,
      List.append_assoc]

theorem Placeholder.Proper.isName {p : Placeholder} (h : p.Proper) :
    IsName (String.ofList p.name) :=
  ⟨by simpa using h.named, by simpa using h.name⟩

theorem mem_names_cut {content name : String} : (i, name) ∈ Piece.names 0 (Piece.cut content) ↔
    IsName name ∧ ∃ front, front.length = i ∧ StandsBehind front name content := by
  have hcut := Segmentation.pieces content.toList
  rw [Piece.mem_names]
  constructor
  · rintro ⟨xs, p, ys, hpieces, rfl, rfl⟩
    have halternating := hcut.alternating
    have htext := hcut.text
    rw [show Piece.pieces content.toList = _ from hpieces] at halternating htext
    cases halternating.of_append.2 with
    | placeholder hp =>
      refine ⟨hp.isName, String.ofList (Piece.text xs), by simp, ?_⟩
      refine (standsBehind_iff hp.isName).2 ⟨p, hp, rfl, Piece.text ys, ?_⟩
      simp [← htext, Piece.chars]
  · rintro ⟨hname, front, rfl, hstands⟩
    obtain ⟨p, hp, rfl, back, hcontent⟩ := (standsBehind_iff hname).1 hstands
    obtain ⟨xs, ys, hpieces, htext⟩ := hcut.complete p front.toList back hp hcontent
    exact ⟨xs, p, ys, hpieces, by simp [htext, String.length_toList], rfl⟩

-- ---------------------------------------------------------------------------
-- Places
-- ---------------------------------------------------------------------------

structure Place where
  content : Nat
  offset : Nat

def Place.Before (a b : Place) : Prop :=
  a.content < b.content ∨ a.content = b.content ∧ a.offset < b.offset

theorem Place.Before.asymm {a b : Place} (h : a.Before b) : ¬b.Before a := by
  unfold Place.Before at *
  omega

theorem Place.eq_of_not_before {a b : Place} (h : ¬a.Before b) (h' : ¬b.Before a) : a = b := by
  obtain ⟨k, i⟩ := a
  obtain ⟨l, j⟩ := b
  simp only [Place.Before, Place.mk.injEq] at *
  omega

namespace Template

def StandsAt (t : Template) (name : String) (place : Place) : Prop :=
  ∃ content, t.contents[place.content]? = some content ∧
    ∃ front, front.length = place.offset ∧ StandsBehind front name content

def FirstAt (t : Template) (name : String) (place : Place) : Prop :=
  t.StandsAt name place ∧ ∀ other, t.StandsAt name other → ¬other.Before place

theorem FirstAt.unique {t : Template} (h : t.FirstAt name a) (h' : t.FirstAt name b) : a = b :=
  Place.eq_of_not_before (h'.2 a h.1) (h.2 b h'.1)

def placedNames (t : Template) : List (Place × String) :=
  t.contents.zipIdx.flatMap fun (content, k) =>
    (Piece.names 0 (Piece.cut content)).map fun (i, name) => (⟨k, i⟩, name)

theorem map_placedNames (t : Template) :
    t.placedNames.map (·.2) = t.contents.flatMap occurrences := by
  have hcontent (content : String) (k : Nat) : ((Piece.names 0 (Piece.cut content)).map
      fun (i, name) => ((⟨k, i⟩ : Place), name)).map (·.2) = occurrences content := by
    rw [List.map_map, occurrences, ← Piece.map_names 0]
    rfl
  rw [placedNames, List.map_flatMap]
  simp only [hcontent]
  conv => rhs; rw [← List.zipIdx_map_fst 0 t.contents, List.flatMap_map]

theorem mem_placedNames {t : Template} :
    (place, name) ∈ t.placedNames ↔ IsName name ∧ t.StandsAt name place := by
  obtain ⟨k, i⟩ := place
  simp only [placedNames, List.mem_flatMap, List.mem_map, Prod.exists, Prod.mk.injEq,
    Place.mk.injEq, List.mem_zipIdx_iff_getElem?]
  constructor
  · rintro ⟨content, k, hk, i, name, hi, ⟨rfl, rfl⟩, rfl⟩
    obtain ⟨hname, front, hfront, hstands⟩ := mem_names_cut.1 hi
    exact ⟨hname, content, hk, front, hfront, hstands⟩
  · rintro ⟨hname, content, hk, front, hfront, hstands⟩
    exact ⟨content, k, hk, i, name, mem_names_cut.2 ⟨hname, front, hfront, hstands⟩,
      ⟨rfl, rfl⟩, rfl⟩

theorem placedNames_pairwise (t : Template) :
    t.placedNames.Pairwise fun a b => a.1.Before b.1 := by
  rw [placedNames, List.pairwise_flatMap]
  constructor
  · rintro ⟨content, k⟩ -
    refine List.pairwise_map.2 ((Piece.names_pairwise 0 _).imp fun h => ?_)
    exact .inr ⟨rfl, h⟩
  · have hindex : t.contents.zipIdx.Pairwise fun a b => a.2 < b.2 := by
      rw [← List.pairwise_map (f := Prod.snd), List.zipIdx_map_snd]
      exact List.pairwise_lt_range'
    refine hindex.imp fun {a b} h x hx y hy => ?_
    obtain ⟨e, -, rfl⟩ := List.mem_map.1 hx
    obtain ⟨f, -, rfl⟩ := List.mem_map.1 hy
    exact .inl h

end Template

-- ---------------------------------------------------------------------------
-- First places
-- ---------------------------------------------------------------------------

theorem exists_find? {es : List (α × String)} (h : m ∈ es.map (·.2)) :
    ∃ b, (b, m) ∈ es ∧ es.find? (·.2 == m) = some (b, m) := by
  obtain ⟨e, he, rfl⟩ := List.mem_map.1 h
  obtain ⟨f, hf⟩ : ∃ f, es.find? (·.2 == e.2) = some f :=
    Option.isSome_iff_exists.1 (List.find?_isSome.2 ⟨e, he, beq_self_eq_true _⟩)
  have hname : f.2 = e.2 := by simpa using List.find?_some hf
  rw [← hname] at hf ⊢
  exact ⟨f.1, List.mem_of_find?_eq_some hf, hf⟩

theorem find?_filter_other {m n : String} (hm : m ≠ n) (es : List (α × String)) :
    (es.filter ((fun m => !m == n) ∘ (·.2))).find? (·.2 == m) = es.find? (·.2 == m) := by
  rw [List.find?_filter]
  refine congrArg (List.find? · es) (funext fun e => ?_)
  by_cases he : e.2 = m <;> simp [he, hm]

/-- Of each name the first entry is kept, so that names keep the order of their first entries. -/
theorem eraseDups_pairwise {R : α → α → Prop} {es : List (α × String)}
    (hes : es.Pairwise fun d e => R d.1 e.1) :
    (es.map (·.2)).eraseDups.Pairwise fun n m => ∃ a b,
      es.find? (·.2 == n) = some (a, n) ∧ es.find? (·.2 == m) = some (b, m) ∧ R a b := by
  -- on the length, since the entries of the first name are gone from all of the rest
  induction h : es.length using Nat.strongRecOn generalizing es with
  | ind k ih =>
    subst h
    cases es with
    | nil => exact .nil
    | cons e es =>
      obtain ⟨a, n⟩ := e
      obtain ⟨hhead, htail⟩ := List.pairwise_cons.1 hes
      have hskip {m : String} (hm : m ≠ n) :
          ((a, n) :: es).find? (·.2 == m) = es.find? (·.2 == m) :=
        List.find?_cons_of_neg (by simpa using Ne.symm hm)
      rw [List.map_cons, List.eraseDups_cons]
      have hkept {m : String} (h : m ∈ ((es.map (·.2)).filter fun m => !m == n).eraseDups) :
          m ∈ es.map (·.2) ∧ m ≠ n := by
        simpa using List.mem_filter.1 (List.mem_eraseDups.1 h)
      refine .cons (fun m hm => ?_) ?_
      · obtain ⟨b, hb, hfound⟩ := exists_find? (hkept hm).1
        exact ⟨a, b, List.find?_cons_of_pos (beq_self_eq_true n),
          (hskip (hkept hm).2).trans hfound, hhead _ hb⟩
      · have hless : (es.filter ((fun m => !m == n) ∘ (·.2))).length < ((a, n) :: es).length :=
          Nat.lt_succ_of_le (List.length_filter_le ..)
        have hrest := ih _ hless (htail.filter _) rfl
        rw [← List.filter_map] at hrest
        refine hrest.imp_of_mem fun {m l} hm hl h => ?_
        rwa [find?_filter_other (hkept hm).2, find?_filter_other (hkept hl).2,
          ← hskip (hkept hm).2, ← hskip (hkept hl).2] at h

theorem pair_sublist {n m : α} {l : List α} (hn : n ∈ l) (hm : m ∈ l) (hne : n ≠ m) :
    [n, m].Sublist l ∨ [m, n].Sublist l := by
  obtain ⟨xs, ys, rfl⟩ := List.append_of_mem hn
  rcases List.mem_append.1 hm with hm | hm
  · have hn := List.singleton_sublist.2 (List.mem_cons_self (a := n) (l := ys))
    exact .inr ((List.singleton_sublist.2 hm).append hn)
  · have hm := (List.mem_cons.1 hm).resolve_left (Ne.symm hne)
    exact .inl (((List.singleton_sublist.2 hm).cons_cons n).trans (List.sublist_append_right ..))

namespace Template

theorem firstAt_of_find? {t : Template}
    (h : t.placedNames.find? (·.2 == name) = some (a, name)) : t.FirstAt name a := by
  refine ⟨(mem_placedNames.1 (List.mem_of_find?_eq_some h)).2, fun b hb hbefore => ?_⟩
  have hname := (mem_placedNames.1 (List.mem_of_find?_eq_some h)).1
  have hmem := mem_placedNames.2 ⟨hname, hb⟩
  obtain ⟨-, xs, ys, heq, hxs⟩ := List.find?_eq_some_iff_append.1 h
  have hsorted := t.placedNames_pairwise
  rw [heq] at hmem hsorted
  rcases List.mem_append.1 hmem with hmem | hmem
  · simpa using hxs _ hmem
  · rcases List.mem_cons.1 hmem with hmem | hmem
    · cases hmem
      exact hbefore.asymm hbefore
    · have hafter := (List.pairwise_cons.1 (List.pairwise_append.1 hsorted).2.1).1 _ hmem
      exact hafter.asymm hbefore

theorem variableNames_pairwise (t : Template) :
    t.variableNames.Pairwise fun n m => ∃ a b, t.FirstAt n a ∧ t.FirstAt m b ∧ a.Before b := by
  rw [variableNames, ← map_placedNames]
  refine (eraseDups_pairwise t.placedNames_pairwise).imp fun {n m} h => ?_
  obtain ⟨a, b, ha, hb, hbefore⟩ := h
  exact ⟨a, b, firstAt_of_find? ha, firstAt_of_find? hb, hbefore⟩

theorem mem_variableNames {t : Template} :
    name ∈ t.variableNames ↔ IsName name ∧ ∃ place, t.StandsAt name place := by
  rw [variableNames, List.mem_eraseDups, ← map_placedNames, List.mem_map]
  constructor
  · rintro ⟨⟨place, name⟩, h, rfl⟩
    obtain ⟨hname, hstands⟩ := mem_placedNames.1 h
    exact ⟨hname, place, hstands⟩
  · rintro ⟨hname, place, hstands⟩
    exact ⟨(place, name), mem_placedNames.2 ⟨hname, hstands⟩, rfl⟩

theorem exists_standsAt {t : Template} : (∃ place, t.StandsAt name place) ↔
    ∃ content ∈ t.contents, ∃ front, StandsBehind front name content := by
  constructor
  · rintro ⟨place, content, hcontent, front, -, hstands⟩
    exact ⟨content, List.mem_of_getElem? hcontent, front, hstands⟩
  · rintro ⟨content, hcontent, front, hstands⟩
    obtain ⟨k, hk⟩ := List.getElem?_of_mem hcontent
    exact ⟨⟨k, front.length⟩, content, hk, front, rfl, hstands⟩

/-- The variables are the names in double braces, wherever these stand in a content and with
whatever blanks around the name. None is listed twice, and one is listed before another just if the
place where it stands first comes before the place where the other does. -/
theorem variableNames_places (t : Template) :
    (∀ name, name ∈ t.variableNames ↔
      IsName name ∧ ∃ content ∈ t.contents, ∃ front, StandsBehind front name content) ∧
      t.variableNames.Nodup ∧
      ∀ n m, [n, m].Sublist t.variableNames ↔
        IsName n ∧ IsName m ∧ ∃ a b, t.FirstAt n a ∧ t.FirstAt m b ∧ a.Before b := by
  have hordered {n m : String} (h : [n, m].Sublist t.variableNames) :
      ∃ a b, t.FirstAt n a ∧ t.FirstAt m b ∧ a.Before b :=
    List.pairwise_iff_forall_sublist.1 t.variableNames_pairwise h
  refine ⟨fun name => mem_variableNames.trans (and_congr_right' exists_standsAt), ?_, ?_⟩
  · refine t.variableNames_pairwise.imp fun {n m} h heq => ?_
    obtain ⟨a, b, ha, hb, hbefore⟩ := h
    obtain rfl := ha.unique (heq ▸ hb)
    exact hbefore.asymm hbefore
  · intro n m
    constructor
    · intro h
      have hn : n ∈ t.variableNames := h.subset (List.mem_cons_self ..)
      have hm : m ∈ t.variableNames := h.subset (List.mem_cons_of_mem _ (List.mem_cons_self ..))
      exact ⟨(mem_variableNames.1 hn).1, (mem_variableNames.1 hm).1, hordered h⟩
    · rintro ⟨hn, hm, a, b, ha, hb, hbefore⟩
      have hne : n ≠ m := by
        rintro rfl
        exact hb.2 a ha.1 hbefore
      refine (pair_sublist (mem_variableNames.2 ⟨hn, a, ha.1⟩) (mem_variableNames.2 ⟨hm, b, hb.1⟩)
        hne).resolve_right fun h => ?_
      obtain ⟨b', a', hb', ha', hbefore'⟩ := hordered h
      obtain rfl := ha.unique ha'
      obtain rfl := hb.unique hb'
      exact hbefore.asymm hbefore'

end Template

end PromptRegistry
