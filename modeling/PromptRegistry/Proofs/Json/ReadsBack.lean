import PromptRegistry.Proofs.Json.Decode

/-!
# Values that are read back

A value that its own written form is read as has only legible numbers (`legible_of_reread`). What is
read as a record is read field by field: a field that the text has is read from what the text has
there (`Record.Field.readMembers`).
-/

namespace PromptRegistry.Json

-- ---------------------------------------------------------------------------
-- Items and members
-- ---------------------------------------------------------------------------

namespace Decode

variable {decode : Draft → Except Fault α}

theorem prefix_of_items {ds : List Draft} {read as : List α}
    (h : items decode read ds = .ok as) : read.reverse <+: as := by
  induction ds generalizing read with
  | nil =>
    cases h
    exact List.prefix_rfl
  | cons d ds ih =>
    rw [items] at h
    cases ha : decode d with
    | error e => simp [ha] at h
    | ok a =>
      rw [ha] at h
      have hprefix := ih h
      rw [List.reverse_cons] at hprefix
      exact (List.prefix_append _ _).trans hprefix

/-- Items that are read back are read back one by one. -/
theorem items_map {see : α → Draft} {as : List α} (read : List α)
    (h : items decode read (as.map see) = .ok (read.reverse ++ as)) :
    ∀ a ∈ as, decode (see a) = .ok a := by
  induction as generalizing read with
  | nil => nofun
  | cons a as ih =>
    rw [List.map_cons, items] at h
    cases hb : decode (see a) with
    | error e => simp [hb] at h
    | ok b =>
      simp only [hb] at h
      have hprefix := prefix_of_items h
      rw [List.reverse_cons, List.prefix_append_right_inj, List.cons_prefix_cons] at hprefix
      obtain ⟨rfl, -⟩ := hprefix
      refine List.forall_mem_cons.2 ⟨hb, ih (b :: read) ?_⟩
      rw [h, List.reverse_cons, List.append_assoc]
      rfl

theorem members_eq_ok {ds : List (Option String × Draft)} {read es : List (String × α)}
    (h : members decode read ds = .ok es) :
    es.map (fun e => some e.1) = read.reverse.map (fun e => some e.1) ++ ds.map (·.1) ∧
      items decode (read.map (·.2)) (ds.map (·.2)) = .ok (es.map (·.2)) := by
  induction ds generalizing read with
  | nil =>
    cases h
    exact ⟨(List.append_nil _).symm, by simp [items]⟩
  | cons m ds ih =>
    obtain ⟨name, d⟩ := m
    cases name with
    | none => cases h
    | some name =>
      rw [members] at h
      cases ha : decode d with
      | error e => simp [ha] at h
      | ok a =>
        rw [ha] at h
        obtain ⟨hnames, hitems⟩ := ih h
        refine ⟨by simpa using hnames, ?_⟩
        simp only [List.map_cons, items, ha]
        exact hitems

end Decode

theorem Draft.itemsToJson_eq_items (room : Nat) (read : List Json) (ds : List Draft) :
    Draft.itemsToJson room read ds = Decode.items (Draft.toJson room) read ds := by
  induction ds generalizing read with
  | nil => rfl
  | cons d ds ih =>
    rw [Draft.itemsToJson, Decode.items]
    cases Draft.toJson room d with
    | error e => rfl
    | ok v => exact ih (v :: read)

theorem Draft.membersToJson_eq_members (room : Nat) (read : List (String × Json))
    (ds : List (Option String × Draft)) :
    Draft.membersToJson room read ds = Decode.members (Draft.toJson room) read ds := by
  induction ds generalizing read with
  | nil => rfl
  | cons m ds ih =>
    obtain ⟨name, d⟩ := m
    cases name with
    | none => rfl
    | some name =>
      rw [Draft.membersToJson, Decode.members]
      cases Draft.toJson room d with
      | error e => rfl
      | ok v => exact ih ((name, v) :: read)

-- ---------------------------------------------------------------------------
-- Legible values
-- ---------------------------------------------------------------------------

theorem rereadItems_eq_map (vs : List Json) : rereadItems vs = vs.map reread := by
  induction vs with
  | nil => rfl
  | cons v vs ih => rw [rereadItems, ih]; rfl

theorem rereadMembers_eq_map (ms : List (String × Json)) :
    rereadMembers ms = ms.map fun m => (some m.1, m.2.reread) := by
  induction ms with
  | nil => rfl
  | cons m ms ih => rw [rereadMembers, ih]; rfl

theorem mem_rereadMembers {m : String × Json} {ms : List (String × Json)} (h : m ∈ ms) :
    (some m.1, m.2.reread) ∈ rereadMembers ms := by
  rw [rereadMembers_eq_map]
  exact List.mem_map.2 ⟨m, h, rfl⟩

theorem members_of_reread {ms ms' : List (String × Json)} (hordered : Ascending ms)
    (h : Draft.membersToJson room [] (rereadMembers ms) = .ok ms') (hsort : sortEntries ms' = ms) :
    ∀ v ∈ ms.map (·.2), v.reread.toJson room = .ok v := by
  rw [Draft.membersToJson_eq_members, rereadMembers_eq_map] at h
  obtain ⟨hnames, hitems⟩ := Decode.members_eq_ok h
  simp only [List.map_map, List.map_nil, List.reverse_nil, List.nil_append] at hnames hitems
  -- the names were in order, so sorting has moved nothing
  have hkeys : ms'.map (·.1) = ms.map (·.1) := by
    refine (List.map_inj_right fun _ _ => Option.some.inj).1 ?_
    rw [List.map_map, List.map_map]
    exact hnames
  have hascending : Ascending ms' := by
    have hmap := (List.pairwise_map (f := Prod.fst) (R := (· < ·))).2 hordered
    rw [← hkeys] at hmap
    exact List.pairwise_map.1 hmap
  rw [sortEntries_of_ascending hascending] at hsort
  subst hsort
  have hsee : ms'.map ((·.2) ∘ fun m => (some m.1, m.2.reread)) = (ms'.map (·.2)).map reread := by
    rw [List.map_map]
    rfl
  rw [hsee] at hitems
  exact Decode.items_map [] hitems

mutual

theorem legible_of_reread : (room : Nat) → (v : Json) → v.reread.toJson room = .ok v → v.Legible
  | _, .null, _ | _, .bool _, _ | _, .string _, _ => trivial
  | _, .number n, h => by
    refine Number.legible_iff.2 ?_
    cases hn : Number.ofChars? n.render.toList with
    | none => simp [reread, hn, Draft.toJson] at h
    | some m => simpa [reread, hn, Draft.toJson] using h
  | 0, .array _, h | 0, .object _, h => by cases h
  | room + 1, .array vs, h => by
    simp only [reread, Draft.toJson, bind_eq_ok] at h
    obtain ⟨vs', hread, hvs⟩ := h
    cases hvs
    rw [Draft.itemsToJson_eq_items, rereadItems_eq_map] at hread
    exact legibleItems_of_reread room vs (Decode.items_map [] hread)
  | room + 1, .object ms, h => by
    have hordered := (Draft.toJson_eq_ok _ _ h).ordered
    simp only [reread, Draft.toJson, bind_eq_ok] at h
    obtain ⟨ms', hread, hms⟩ := h
    simp only [if_true, Except.ok.injEq, ofMembers, Json.object.injEq] at hms
    exact legibleMembers_of_reread room ms (members_of_reread hordered.1 hread hms)

theorem legibleItems_of_reread (room : Nat) : (vs : List Json) →
    (∀ v ∈ vs, v.reread.toJson room = .ok v) → LegibleItems vs
  | [], _ => trivial
  | v :: vs, h => by
    rw [List.forall_mem_cons] at h
    exact ⟨legible_of_reread room v h.1, legibleItems_of_reread room vs h.2⟩

theorem legibleMembers_of_reread (room : Nat) : (ms : List (String × Json)) →
    (∀ v ∈ ms.map (·.2), v.reread.toJson room = .ok v) → LegibleMembers ms
  | [], _ => trivial
  | (_, v) :: ms, h => by
    rw [List.map_cons, List.forall_mem_cons] at h
    exact ⟨legible_of_reread room v h.1, legibleMembers_of_reread room ms h.2⟩

end

-- ---------------------------------------------------------------------------
-- Fields
-- ---------------------------------------------------------------------------

namespace Decode

theorem list_map {decode : Decode α} {see : α → Draft} {as : List α} {closed : Bool}
    (h : list decode (room + 1) (.array (as.map see) closed) = .ok as) :
    ∀ a ∈ as, decode room (see a) = .ok a := by
  simp only [list, bind_eq_ok] at h
  obtain ⟨bs, hbs, h⟩ := h
  cases closed with
  | false => cases h
  | true =>
    cases h
    exact items_map [] hbs

/-- What is read as a field of a record, and kept by reading the others. -/
structure Record.Field (r : Record σ) (room : Nat) (name : String) (get : σ → β)
    (decode : Decode β) : Prop where
  isField : ∀ st d, r.put st name room d ≠ none
  put : ∀ st field d st', r.put st field room d = some (.ok st') →
    if field = name then decode room d = .ok (get st') else get st' = get st

namespace Record.Field

variable {r : Record σ} {get : σ → β} {decode : Decode β} {st st' : σ} {seen : List String}

theorem readMembers_of_seen (hr : r.Field room name get decode) (hseen : name ∈ seen)
    {ms : List (Option String × Draft)} (h : r.readMembers room seen st ms = .ok st') :
    get st' = get st := by
  induction ms generalizing seen st with
  | nil =>
    cases h
    rfl
  | cons m ms ih =>
    obtain ⟨field, d⟩ := m
    cases field with
    | none => cases h
    | some field =>
      rw [readMembers] at h
      split at h
      · cases h
      next hnew =>
      have hne : field ≠ name := by
        rintro rfl
        exact hnew (List.contains_iff_mem.2 hseen)
      cases hput : r.put st field room d with
      | none =>
        simp only [hput] at h
        split at h
        · exact ih hseen h
        · cases h
      | some o =>
        cases o with
        | error e => simp [hput] at h
        | ok st₁ =>
          simp only [hput] at h
          have hkept := hr.put _ _ _ _ hput
          rw [if_neg hne] at hkept
          exact (ih (List.mem_cons_of_mem _ hseen) h).trans hkept

theorem readMembers (hr : r.Field room name get decode) {ms : List (Option String × Draft)}
    (hd : (some name, d) ∈ ms) (h : r.readMembers room seen st ms = .ok st') :
    decode room d = .ok (get st') := by
  induction ms generalizing seen st with
  | nil => cases hd
  | cons m ms ih =>
    obtain ⟨field, d'⟩ := m
    cases field with
    | none => cases h
    | some field =>
      rw [Record.readMembers] at h
      split at h
      · cases h
      cases hput : r.put st field room d' with
      | none =>
        simp only [hput] at h
        rcases List.mem_cons.1 hd with hd | hd
        · cases hd
          exact absurd hput (hr.isField _ _)
        split at h
        · exact ih hd h
        · cases h
      | some o =>
        cases o with
        | error e => simp [hput] at h
        | ok st₁ =>
          simp only [hput] at h
          rcases List.mem_cons.1 hd with hd | hd
          · cases hd
            have hread := hr.put _ _ _ _ hput
            rw [if_pos rfl] at hread
            rw [hread, hr.readMembers_of_seen (List.mem_cons_self ..) h]
          · exact ih hd h

end Record.Field

/-- What is read as a record from an object is built of what its members were read as. -/
theorem record_object_eq_ok {r : Record σ} {build : σ → Option α}
    {ms : List (Option String × Draft)}
    (h : record r start build (room + 1) (.object ms true) = .ok a) :
    ∃ st, r.readMembers room [] start ms = .ok st ∧ build st = some a := by
  simp only [record, bind_eq_ok] at h
  obtain ⟨st, hread, h⟩ := h
  cases hst : build st with
  | none => simp [hst] at h
  | some b => exact ⟨st, hread, by simpa [hst] using h⟩

end Decode

end PromptRegistry.Json
