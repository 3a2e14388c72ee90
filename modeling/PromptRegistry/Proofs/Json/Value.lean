import PromptRegistry.Json.Decode
import PromptRegistry.Proofs.Dict
import PromptRegistry.Proofs.Except

/-!
# Values and their drafts

The draft of a value that is written in full is read as the value, with the members of its objects
in order (`toJson_draft`). Whatever a value is read from, its objects are in order and its arrays
and objects are nested no deeper than there was room for (`Draft.toJson_eq_ok`).
-/

namespace PromptRegistry.Json

mutual

def draft : Json → Draft
  | .null => .null
  | .bool b => .bool b
  | .number n => .number (some n)
  | .string s => .string (some s)
  | .array items => .array (draftItems items) true
  | .object members => .object (draftMembers members) true

def draftItems : List Json → List Draft
  | [] => []
  | v :: vs => v.draft :: draftItems vs

def draftMembers : List (String × Json) → List (Option String × Draft)
  | [] => []
  | (name, v) :: ms => (some name, v.draft) :: draftMembers ms

end

theorem draftMembers_append (ms ns : List (String × Json)) :
    draftMembers (ms ++ ns) = draftMembers ms ++ draftMembers ns := by
  induction ms with
  | nil => rfl
  | cons m ms ih => simp [draftMembers, ih]

-- ---------------------------------------------------------------------------
-- Reading what is written
-- ---------------------------------------------------------------------------

mutual

/-- The value with the members of every object in order. -/
def normal : Json → Json
  | .array items => .array (normalItems items)
  | .object members => .ofMembers (normalMembers members)
  | v => v

def normalItems : List Json → List Json
  | [] => []
  | v :: vs => v.normal :: normalItems vs

def normalMembers : List (String × Json) → List (String × Json)
  | [] => []
  | (name, v) :: ms => (name, v.normal) :: normalMembers ms

end

mutual

theorem normal_of_ordered : (v : Json) → v.Ordered → v.normal = v
  | .null, _ | .bool _, _ | .number _, _ | .string _, _ => rfl
  | .array vs, h => by rw [normal, normalItems_of_ordered vs h]
  | .object ms, h => by
    rw [normal, normalMembers_of_ordered ms h.2, ofMembers, sortEntries_of_ascending h.1]

theorem normalItems_of_ordered : (vs : List Json) → OrderedItems vs → normalItems vs = vs
  | [], _ => rfl
  | v :: vs, h => by rw [normalItems, normal_of_ordered v h.1, normalItems_of_ordered vs h.2]

theorem normalMembers_of_ordered :
    (ms : List (String × Json)) → OrderedMembers ms → normalMembers ms = ms
  | [], _ => rfl
  | (name, v) :: ms, h => by
    rw [normalMembers, normal_of_ordered v h.1, normalMembers_of_ordered ms h.2]

end

mutual

theorem toJson_draft :
    (room : Nat) → (v : Json) → v.depth ≤ room → v.draft.toJson room = .ok v.normal
  | _, .null, _ | _, .bool _, _ | _, .number _, _ | _, .string _, _ => rfl
  | 0, .array _, h | 0, .object _, h => absurd h (Nat.not_succ_le_zero _)
  | room + 1, .array vs, h => by
    rw [draft, Draft.toJson, itemsToJson_draftItems room vs (Nat.le_of_succ_le_succ h) []]
    rfl
  | room + 1, .object ms, h => by
    rw [draft, Draft.toJson, membersToJson_draftMembers room ms (Nat.le_of_succ_le_succ h) []]
    rfl

theorem itemsToJson_draftItems (room : Nat) :
    (vs : List Json) → depthItems vs ≤ room → (read : List Json) →
      Draft.itemsToJson room read (draftItems vs) = .ok (read.reverse ++ normalItems vs)
  | [], _, read => by rw [normalItems, List.append_nil]; rfl
  | v :: vs, h, read => by
    rw [depthItems, Nat.max_le] at h
    simp only [draftItems, Draft.itemsToJson, toJson_draft room v h.1,
      itemsToJson_draftItems room vs h.2, normalItems]
    rw [List.reverse_cons, List.append_assoc]
    rfl

theorem membersToJson_draftMembers (room : Nat) :
    (ms : List (String × Json)) → depthMembers ms ≤ room → (read : List (String × Json)) →
      Draft.membersToJson room read (draftMembers ms) = .ok (read.reverse ++ normalMembers ms)
  | [], _, read => by rw [normalMembers, List.append_nil]; rfl
  | (name, v) :: ms, h, read => by
    rw [depthMembers, Nat.max_le] at h
    simp only [draftMembers, Draft.membersToJson, toJson_draft room v h.1,
      membersToJson_draftMembers room ms h.2, normalMembers]
    rw [List.reverse_cons, List.append_assoc]
    rfl

end

-- ---------------------------------------------------------------------------
-- What a value was read from
-- ---------------------------------------------------------------------------

theorem orderedItems_iff {vs : List Json} : OrderedItems vs ↔ ∀ v ∈ vs, v.Ordered := by
  induction vs with
  | nil => simp [OrderedItems]
  | cons v vs ih => simp [OrderedItems, ih]

theorem orderedMembers_iff {ms : List (String × Json)} :
    OrderedMembers ms ↔ ∀ m ∈ ms, m.2.Ordered := by
  induction ms with
  | nil => simp [OrderedMembers]
  | cons m ms ih => simp [OrderedMembers, ih]

theorem depthItems_le_iff {vs : List Json} : depthItems vs ≤ n ↔ ∀ v ∈ vs, v.depth ≤ n := by
  induction vs with
  | nil => simp [depthItems]
  | cons v vs ih => simp only [depthItems, Nat.max_le, List.forall_mem_cons, ih]

theorem depthMembers_le_iff {ms : List (String × Json)} :
    depthMembers ms ≤ n ↔ ∀ m ∈ ms, m.2.depth ≤ n := by
  induction ms with
  | nil => simp [depthMembers]
  | cons m ms ih => simp only [depthMembers, Nat.max_le, List.forall_mem_cons, ih]

/-- In order, and nested no deeper than `room`. -/
structure Fits (room : Nat) (v : Json) : Prop where
  ordered : v.Ordered
  depth_le : v.depth ≤ room

theorem Fits.array {vs : List Json} (h : ∀ v ∈ vs, Fits room v) : Fits (room + 1) (.array vs) where
  ordered := orderedItems_iff.2 fun v hv => (h v hv).ordered
  depth_le := Nat.succ_le_succ (depthItems_le_iff.2 fun v hv => (h v hv).depth_le)

theorem Fits.ofMembers {ms : List (String × Json)} (h : ∀ m ∈ ms, Fits room m.2) :
    Fits (room + 1) (ofMembers ms) where
  ordered := ⟨ascending_sortEntries ms,
    orderedMembers_iff.2 fun m hm => (h m (mem_of_mem_sortEntries hm)).ordered⟩
  depth_le := Nat.succ_le_succ
    (depthMembers_le_iff.2 fun m hm => (h m (mem_of_mem_sortEntries hm)).depth_le)

mutual

theorem Draft.toJson_eq_ok : (room : Nat) → (d : Draft) → d.toJson room = .ok v → Fits room v
  | _, .null, h | _, .bool _, h | _, .number (some _), h | _, .string (some _), h => by
    cases h
    exact ⟨trivial, Nat.zero_le _⟩
  | _, .broken, h | _, .number none, h | _, .string none, h => by cases h
  | 0, .array _ _, h | 0, .object _ _, h => by cases h
  | room + 1, .array ds closed, h => by
    simp only [toJson, bind_eq_ok] at h
    obtain ⟨vs, hvs, h⟩ := h
    cases closed with
    | false => cases h
    | true =>
      cases h
      exact .array (Draft.itemsToJson_eq_ok room ds [] (by simp) hvs)
  | room + 1, .object ds closed, h => by
    simp only [toJson, bind_eq_ok] at h
    obtain ⟨ms, hms, h⟩ := h
    cases closed with
    | false => cases h
    | true =>
      cases h
      exact .ofMembers (Draft.membersToJson_eq_ok room ds [] (by simp) hms)

theorem Draft.itemsToJson_eq_ok (room : Nat) :
    (ds : List Draft) → (read : List Json) → (∀ v ∈ read, Fits room v) →
      itemsToJson room read ds = .ok vs → ∀ v ∈ vs, Fits room v
  | [], read, hread, h => by
    cases h
    simpa using hread
  | d :: ds, read, hread, h => by
    rw [itemsToJson] at h
    cases hv : d.toJson room with
    | error e => simp [hv] at h
    | ok v =>
      rw [hv] at h
      exact Draft.itemsToJson_eq_ok room ds (v :: read)
        (List.forall_mem_cons.2 ⟨Draft.toJson_eq_ok room d hv, hread⟩) h

theorem Draft.membersToJson_eq_ok (room : Nat) :
    (ds : List (Option String × Draft)) → (read : List (String × Json)) →
      (∀ m ∈ read, Fits room m.2) → membersToJson room read ds = .ok ms →
        ∀ m ∈ ms, Fits room m.2
  | [], read, hread, h => by
    cases h
    simpa using hread
  | (none, _) :: _, _, _, h => by cases h
  | (some name, d) :: ds, read, hread, h => by
    rw [membersToJson] at h
    cases hv : d.toJson room with
    | error e => simp [hv] at h
    | ok v =>
      rw [hv] at h
      exact Draft.membersToJson_eq_ok room ds ((name, v) :: read)
        (List.forall_mem_cons.2 ⟨Draft.toJson_eq_ok room d hv, hread⟩) h

end

theorem Draft.eq_draft_of_toJson {d : Draft} (h : d.toJson room = .ok v) (hv : v.depth = 0) :
    d = v.draft := by
  cases d with
  | broken => cases h
  | null => cases h; rfl
  | bool b => cases h; rfl
  | number o =>
    cases o with
    | none => cases h
    | some n => cases h; rfl
  | string o =>
    cases o with
    | none => cases h
    | some s => cases h; rfl
  | array ds closed =>
    cases room with
    | zero => cases h
    | succ room =>
      simp only [toJson, bind_eq_ok] at h
      obtain ⟨vs, -, h⟩ := h
      cases closed <;> cases h
      cases hv
  | object ms closed =>
    cases room with
    | zero => cases h
    | succ room =>
      simp only [toJson, bind_eq_ok] at h
      obtain ⟨ms, -, h⟩ := h
      cases closed <;> cases h
      cases hv

end PromptRegistry.Json
