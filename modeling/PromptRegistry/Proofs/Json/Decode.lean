import PromptRegistry.Proofs.Json.Scan

/-!
# Typed reading of written values

What each reader makes of the draft of a value that is written in full. A record is read member by
member (`Record.Takes`), where a field that is left out must have its default. In the other
direction, whatever a record is read from, an invariant of its fields that every one of them keeps
holds at the end (`Decode.record_eq_ok`).
-/

namespace PromptRegistry.Json

namespace Decode

theorem json_draft {v : Json} (h : Fits room v) : json room v.draft = .ok v := by
  rw [json, toJson_draft room v h.depth_le, normal_of_ordered v h.ordered]

-- ---------------------------------------------------------------------------
-- Strings, numbers, lists and dictionaries
-- ---------------------------------------------------------------------------

theorem checked_string {check : String → Option α} (h : check s = some a) (room : Nat) :
    checked check room (Json.string s).draft = .ok a := by
  have hstring : string room (Json.string s).draft = .ok s := rfl
  simp only [checked, hstring, bind, Except.bind, h]

theorem uint32_draft (room : Nat) (n : UInt32) :
    uint32 room (Json.nat n.toNat).draft = .ok n := by
  have hn : (Number.ofNat n.toNat).nat? UInt32.size = some n.toNat := if_pos n.toNat_lt
  show (nat UInt32.size room (.number (some (.ofNat n.toNat)))).map UInt32.ofNat = _
  rw [nat, hn]
  simp [Except.map]

theorem nullable_eq_map {decode : Decode α} {d : Draft} (h : d ≠ .null) (room : Nat) :
    nullable decode room d = (decode room d).map some := by
  cases d with
  | null => exact absurd rfl h
  | _ => rfl

theorem nullable_json_draft {v : Json} (hnull : v ≠ .null) (h : Fits room v) :
    nullable json room v.draft = .ok (some v) := by
  have hdraft : v.draft ≠ .null := by
    intro hv
    cases v with
    | null => exact hnull rfl
    | _ => cases hv
  rw [nullable_eq_map hdraft, json_draft h]
  rfl

theorem nullable_json_eq_some {d : Draft} (h : nullable json room d = .ok (some v)) :
    v ≠ .null ∧ Fits room v := by
  have hd : d ≠ .null := by
    rintro rfl
    cases h
  rw [nullable_eq_map hd, map_eq_ok] at h
  obtain ⟨w, hread, hw⟩ := h
  cases hw
  refine ⟨?_, Draft.toJson_eq_ok room d hread⟩
  rintro rfl
  exact hd (Draft.eq_draft_of_toJson hread rfl)

variable {decode : Decode α}

theorem items_draftItems {decode : Draft → Except Fault α} (write : α → Json) {as : List α}
    (h : ∀ a ∈ as, decode (write a).draft = .ok a) (read : List α) :
    items decode read (draftItems (as.map write)) = .ok (read.reverse ++ as) := by
  induction as generalizing read with
  | nil => rw [List.append_nil]; rfl
  | cons a as ih =>
    rw [List.forall_mem_cons] at h
    simp only [List.map_cons, draftItems, items, h.1, ih h.2]
    rw [List.reverse_cons, List.append_assoc]
    rfl

theorem list_draft (write : α → Json) {as : List α}
    (h : ∀ a ∈ as, decode room (write a).draft = .ok a) :
    list decode (room + 1) (Json.array (as.map write)).draft = .ok as := by
  rw [draft, list, items_draftItems write h]
  rfl

theorem members_draftMembers {decode : Draft → Except Fault α} (write : α → Json)
    {es : List (String × α)}
    (h : ∀ e ∈ es, decode (write e.2).draft = .ok e.2) (read : List (String × α)) :
    members decode read (draftMembers (es.map fun e => (e.1, write e.2))) =
      .ok (read.reverse ++ es) := by
  induction es generalizing read with
  | nil => rw [List.append_nil]; rfl
  | cons e es ih =>
    rw [List.forall_mem_cons] at h
    simp only [List.map_cons, draftMembers, members, h.1, ih h.2]
    rw [List.reverse_cons, List.append_assoc]
    rfl

theorem dict_draft (write : α → Json) {d : Dict α}
    (h : ∀ e ∈ d.entries, decode room (write e.2).draft = .ok e.2) :
    dict decode (room + 1) (Json.object (d.entries.map fun e => (e.1, write e.2))).draft =
      .ok d := by
  rw [draft, dict, members_draftMembers write h, List.reverse_nil, List.nil_append]
  exact congrArg Except.ok d.ofList_entries

theorem list_eq_ok {d : Draft} (h : list decode (room + 1) d = .ok as) :
    ∀ a ∈ as, ∃ d, decode room d = .ok a := by
  have hitems (ds : List Draft) (read : List α) (hread : ∀ a ∈ read, ∃ d, decode room d = .ok a)
      (h : items (decode room) read ds = .ok as) : ∀ a ∈ as, ∃ d, decode room d = .ok a := by
    induction ds generalizing read with
    | nil =>
      cases h
      simpa using hread
    | cons d ds ih =>
      rw [items] at h
      cases hd : decode room d with
      | error e => simp [hd] at h
      | ok a =>
        rw [hd] at h
        exact ih (a :: read) (List.forall_mem_cons.2 ⟨⟨d, hd⟩, hread⟩) h
  cases d with
  | array ds closed =>
    simp only [list, bind_eq_ok] at h
    obtain ⟨bs, hbs, h⟩ := h
    cases closed with
    | false => cases h
    | true =>
      cases h
      exact hitems ds [] (by simp) hbs
  | _ => cases h

-- ---------------------------------------------------------------------------
-- Records
-- ---------------------------------------------------------------------------

namespace Record

variable {r : Record σ} {before : List String} {st st' st'' : σ}

/-- Reading the members leads from `st` to `st'`, where at most the names in `before` have been
read. -/
def Takes (r : Record σ) (room : Nat) (before : List String) (st : σ)
    (ms : List (Option String × Draft)) (st' : σ) : Prop :=
  ∀ seen, seen ⊆ before → r.readMembers room seen st ms = .ok st'

theorem Takes.nil : r.Takes room before st [] st := fun _ _ => rfl

theorem Takes.field (hname : name ∉ before) (hput : r.put st name room d = some (.ok st'))
    (h : r.Takes room (name :: before) st' ms st'') :
    r.Takes room before st ((some name, d) :: ms) st'' := by
  intro seen hseen
  have hnew : seen.contains name = false := by
    rw [← Bool.not_eq_true, List.contains_iff_mem]
    exact fun hmem => hname (hseen hmem)
  simp only [readMembers, hnew, hput]
  exact h _ (List.cons_subset_cons name hseen)

/-- A field that may be left out: without it the others lead to the same. -/
theorem Takes.optional (st' : σ) (hname : name ∉ before)
    (hput : ∀ v, o = some v → r.put st name room v.draft = some (.ok st'))
    (hnone : o = none → st' = st) (h : r.Takes room (name :: before) st' ms st'') :
    r.Takes room before st (draftMembers (Json.optional name o) ++ ms) st'' := by
  cases o with
  | none =>
    rw [← hnone rfl]
    exact fun seen hseen => h seen fun _ hmem => List.mem_cons_of_mem _ (hseen hmem)
  | some v => exact .field hname (hput v rfl) h

/-- Every field that is read keeps `inv`. -/
def Keeps (r : Record σ) (room : Nat) (inv : σ → Prop) : Prop :=
  ∀ st name d st', inv st → r.put st name room d = some (.ok st') → inv st'

theorem Keeps.readMembers {inv : σ → Prop} (h : r.Keeps room inv) {seen : List String}
    (hst : inv st) {ms : List (Option String × Draft)}
    (hread : r.readMembers room seen st ms = .ok st') : inv st' := by
  induction ms generalizing seen st with
  | nil =>
    cases hread
    exact hst
  | cons m ms ih =>
    obtain ⟨name, d⟩ := m
    cases name with
    | none => cases hread
    | some name =>
      rw [Record.readMembers] at hread
      split at hread
      · cases hread
      · cases hput : r.put st name room d with
        | none =>
          simp only [hput] at hread
          split at hread
          · exact ih hst hread
          · cases hread
        | some o =>
          cases o with
          | error e => simp [hput] at hread
          | ok st₁ =>
            simp only [hput] at hread
            exact ih (h _ _ _ _ hst hput) hread

theorem Keeps.readItems {inv : σ → Prop} (h : r.Keeps room inv) (hst : inv st)
    {names : List String} {ds : List Draft} (hread : r.readItems room st names ds = .ok st') :
    inv st' := by
  induction ds generalizing names st with
  | nil =>
    cases names <;> cases hread <;> exact hst
  | cons d ds ih =>
    cases names with
    | nil => cases hread
    | cons name names =>
      rw [Record.readItems] at hread
      cases hput : r.put st name room d with
      | none => simp [hput] at hread
      | some o =>
        cases o with
        | error e => simp [hput] at hread
        | ok st₁ =>
          simp only [hput] at hread
          exact ih (h _ _ _ _ hst hput) hread

end Record

theorem record_object {r : Record σ} {build : σ → Option α} {ms : List (String × Json)} (st : σ)
    (h : r.Takes room [] start (draftMembers ms) st) (hbuild : build st = some a) :
    record r start build (room + 1) (Json.object ms).draft = .ok a := by
  rw [draft, record, h [] (List.Subset.refl _)]
  show (build st).elim _ _ = _
  rw [hbuild]
  rfl

/-- Whether an object or an array was read, the fields that were found keep the invariant. -/
theorem record_eq_ok {r : Record σ} {build : σ → Option α} {inv : σ → Prop} {d : Draft}
    (h : record r start build (room + 1) d = .ok a) (hstart : inv start)
    (hkeeps : r.Keeps room inv) : ∃ st, inv st ∧ build st = some a := by
  have hbuilt {st : σ} (h : (build st).elim (.error .mismatched) .ok = Except.ok (ε := Fault) a) :
      build st = some a := by
    cases hst : build st with
    | none => simp [hst] at h
    | some b => simpa [hst] using h
  cases d with
  | object ms closed =>
    simp only [record, bind_eq_ok] at h
    obtain ⟨st, hread, h⟩ := h
    cases closed with
    | false => cases h
    | true => exact ⟨st, hkeeps.readMembers hstart hread, hbuilt h⟩
  | array ds closed =>
    simp only [record, bind_eq_ok] at h
    obtain ⟨st, hread, h⟩ := h
    split at h
    · cases h
    split at h
    · cases h
    · exact ⟨st, hkeeps.readItems hstart hread, hbuilt h⟩
  | _ => cases h

-- ---------------------------------------------------------------------------
-- Texts
-- ---------------------------------------------------------------------------

/-- A written value is read through what is seen of it. -/
theorem runString_render_eq (decode : Decode α) (v : Json) :
    decode.runString v.render = decode greatestDepth v.reread := by
  rw [runString, render, String.toList_ofList, run, scan_chars]
  show (decode greatestDepth v.reread >>= fun a => .ok a) = _
  exact bind_pure _

theorem runString_render {decode : Decode α} {v : Json} (hlegible : v.Legible)
    (h : decode greatestDepth v.draft = .ok a) : decode.runString v.render = .ok a := by
  rw [runString_render_eq, reread_of_legible v hlegible, h]

theorem run_eq_ok {decode : Decode α} {text : List (Option Char)} (h : decode.run text = .ok a) :
    ∃ d, decode greatestDepth d = .ok a := by
  simp only [run, bind_eq_ok] at h
  obtain ⟨b, hb, h⟩ := h
  split at h
  · cases h
  · cases h
    exact ⟨_, hb⟩

end Decode

end PromptRegistry.Json
