/-!
# Dictionaries

Finite maps from text to values, held as a list of entries in strictly ascending order of their
keys. Two dictionaries with the same look-ups are equal (`Dict.ext_get?`).
-/

namespace PromptRegistry

/-- Puts an entry in its place among ascending keys; an entry of the same key is replaced. -/
def insertEntry (key : String) (value : β) : List (String × β) → List (String × β)
  | [] => [(key, value)]
  | e :: es =>
    if key < e.1 then (key, value) :: e :: es
    else if key = e.1 then (key, value) :: es
    else e :: insertEntry key value es

def lookupEntry (key : String) : List (String × β) → Option β
  | [] => none
  | e :: es => if key = e.1 then some e.2 else lookupEntry key es

/-- Ascending entries from entries in any order; of two with the same key the later wins. -/
def sortEntries (es : List (String × β)) : List (String × β) :=
  es.foldl (fun sorted e => insertEntry e.1 e.2 sorted) []

abbrev Ascending (es : List (String × β)) : Prop := es.Pairwise fun a b => a.1 < b.1

theorem mem_insertEntry {key : String} {value : β} {a : String × β} {es : List (String × β)}
    (h : a ∈ insertEntry key value es) : a = (key, value) ∨ a ∈ es := by
  induction es with
  | nil => exact Or.inl (List.mem_singleton.1 h)
  | cons e es ih =>
    unfold insertEntry at h
    split at h
    · simpa using h
    · split at h
      · rcases List.mem_cons.1 h with h | h
        · exact Or.inl h
        · exact Or.inr (List.mem_cons_of_mem _ h)
      · rcases List.mem_cons.1 h with h | h
        · exact Or.inr (h ▸ List.mem_cons_self ..)
        · exact (ih h).imp_right (List.mem_cons_of_mem _)

theorem Ascending.insertEntry {es : List (String × β)} (h : Ascending es) (key : String)
    (value : β) : Ascending (insertEntry key value es) := by
  induction es with
  | nil => simp [PromptRegistry.insertEntry]
  | cons e es ih =>
    rw [Ascending, List.pairwise_cons] at h
    have htail := ih h.2
    unfold PromptRegistry.insertEntry
    split
    · next hlt =>
      refine List.pairwise_cons.2 ⟨fun a ha => ?_, List.pairwise_cons.2 h⟩
      rcases List.mem_cons.1 ha with rfl | ha
      · exact hlt
      · exact String.lt_trans hlt (h.1 a ha)
    · split
      · next heq => exact List.pairwise_cons.2 ⟨fun a ha => heq ▸ h.1 a ha, h.2⟩
      · next hlt hne =>
        refine List.pairwise_cons.2 ⟨fun a ha => ?_, htail⟩
        rcases mem_insertEntry ha with rfl | ha
        · exact Classical.byContradiction fun hn =>
            hne (String.le_antisymm (String.not_lt.1 hn) (String.not_lt.1 hlt))
        · exact h.1 a ha

theorem ascending_sortEntries (es : List (String × β)) : Ascending (sortEntries es) := by
  have go : ∀ (es acc : List (String × β)), Ascending acc →
      Ascending (es.foldl (fun sorted e => insertEntry e.1 e.2 sorted) acc) := by
    intro es
    induction es with
    | nil => exact fun _ h => h
    | cons e es ih => exact fun acc h => ih _ (h.insertEntry e.1 e.2)
  exact go es [] List.Pairwise.nil

structure Dict (β : Type) where
  entries : List (String × β)
  ascending : Ascending entries

namespace Dict

def empty : Dict β := ⟨[], List.Pairwise.nil⟩

instance : EmptyCollection (Dict β) := ⟨empty⟩
instance : Inhabited (Dict β) := ⟨empty⟩

instance [DecidableEq β] : DecidableEq (Dict β) := fun a b =>
  if h : a.entries = b.entries then .isTrue (by cases a; cases b; cases h; rfl)
  else .isFalse fun hab => h (hab ▸ rfl)

def ofList (es : List (String × β)) : Dict β := ⟨sortEntries es, ascending_sortEntries es⟩

def toList (d : Dict β) : List (String × β) := d.entries

def get? (d : Dict β) (key : String) : Option β := lookupEntry key d.entries

def contains (d : Dict β) (key : String) : Bool := (d.get? key).isSome

def insert (d : Dict β) (key : String) (value : β) : Dict β :=
  ⟨insertEntry key value d.entries, d.ascending.insertEntry key value⟩

def filter (d : Dict β) (p : String → β → Bool) : Dict β :=
  ⟨d.entries.filter fun e => p e.1 e.2, d.ascending.filter _⟩

def erase (d : Dict β) (key : String) : Dict β := d.filter fun k _ => k ≠ key

def keys (d : Dict β) : List String := d.entries.map (·.1)

def values (d : Dict β) : List β := d.entries.map (·.2)

def size (d : Dict β) : Nat := d.entries.length

def isEmpty (d : Dict β) : Bool := d.entries.isEmpty

@[ext] theorem ext {a b : Dict β} (h : a.entries = b.entries) : a = b := by
  cases a; cases b; cases h; rfl

theorem lookupEntry_insertEntry (key k : String) (value : β) (es : List (String × β)) :
    lookupEntry k (insertEntry key value es) =
      if k = key then some value else lookupEntry k es := by
  induction es with
  | nil => rfl
  | cons e es ih =>
    unfold insertEntry
    split
    · rfl
    · split
      · next heq => simp only [lookupEntry, ← heq]; split <;> rfl
      · next hne =>
        simp only [lookupEntry, ih]
        by_cases h : k = e.1
        · have : ¬ k = key := fun h' => hne (h'.symm.trans h)
          rw [if_pos h, if_neg this, if_pos h]
        · rw [if_neg h, if_neg h]

@[simp] theorem get?_insert (d : Dict β) (key k : String) (value : β) :
    (d.insert key value).get? k = if k = key then some value else d.get? k :=
  lookupEntry_insertEntry ..

theorem lookupEntry_filter_ne (key k : String) (es : List (String × β)) :
    lookupEntry k (es.filter fun e => decide (e.1 ≠ key)) =
      if k = key then none else lookupEntry k es := by
  induction es with
  | nil => simp [lookupEntry]
  | cons e es ih =>
    rw [List.filter_cons]
    by_cases ha : e.1 = key
    · rw [if_neg (by simp [ha]), ih]
      by_cases hk : k = key
      · simp [hk]
      · have : ¬ k = e.1 := fun h => hk (h.trans ha)
        simp [hk, this, lookupEntry]
    · rw [if_pos (by simp [ha])]
      simp only [lookupEntry, ih]
      by_cases hke : k = e.1
      · have : ¬ k = key := fun h => ha (hke.symm.trans h)
        simp [hke, ha]
      · simp [hke]

@[simp] theorem get?_erase (d : Dict β) (key k : String) :
    (d.erase key).get? k = if k = key then none else d.get? k :=
  lookupEntry_filter_ne ..

theorem mem_of_lookupEntry {es : List (String × β)} {key : String} {value : β}
    (h : lookupEntry key es = some value) : (key, value) ∈ es := by
  induction es with
  | nil => simp [lookupEntry] at h
  | cons e es ih =>
    unfold lookupEntry at h
    split at h
    · next hk => cases h; exact hk ▸ List.mem_cons_self ..
    · exact List.mem_cons_of_mem _ (ih h)

theorem lookupEntry_of_mem {es : List (String × β)} (hs : Ascending es) {key : String}
    {value : β} (h : (key, value) ∈ es) : lookupEntry key es = some value := by
  induction es with
  | nil => cases h
  | cons e es ih =>
    rw [Ascending, List.pairwise_cons] at hs
    unfold lookupEntry
    rcases List.mem_cons.1 h with rfl | h
    · simp
    · rw [if_neg, ih hs.2 h]
      intro hk
      exact String.lt_irrefl _ (hk ▸ hs.1 _ h)

theorem mem_toList {d : Dict β} {key : String} {value : β} :
    (key, value) ∈ d.toList ↔ d.get? key = some value :=
  ⟨lookupEntry_of_mem d.ascending, mem_of_lookupEntry⟩

theorem ext_get? {a b : Dict β} (h : ∀ key, a.get? key = b.get? key) : a = b := by
  have entry : ∀ e : String × β, e ∈ a.entries ↔ e ∈ b.entries := fun e => by
    rw [show (e ∈ a.entries ↔ e ∈ b.entries) = ((e.1, e.2) ∈ a.toList ↔ (e.1, e.2) ∈ b.toList)
      from rfl, mem_toList, mem_toList, h]
  have go : ∀ (xs ys : List (String × β)), Ascending xs → Ascending ys →
      (∀ e, e ∈ xs ↔ e ∈ ys) → xs = ys := by
    intro xs
    induction xs with
    | nil =>
      intro ys _ _ hm
      cases ys with
      | nil => rfl
      | cons y ys => exact absurd ((hm y).2 (List.mem_cons_self ..)) (List.not_mem_nil)
    | cons x xs ih =>
      intro ys hx hy hm
      cases ys with
      | nil => exact absurd ((hm x).1 (List.mem_cons_self ..)) (List.not_mem_nil)
      | cons y ys =>
        rw [Ascending, List.pairwise_cons] at hx hy
        have hxy : x = y := by
          rcases List.mem_cons.1 ((hm x).1 (List.mem_cons_self ..)) with h1 | h1
          · exact h1
          · rcases List.mem_cons.1 ((hm y).2 (List.mem_cons_self ..)) with h2 | h2
            · exact h2.symm
            · exact absurd (String.lt_trans (hx.1 y h2) (hy.1 x h1)) (String.lt_irrefl _)
        subst hxy
        refine congrArg _ (ih ys hx.2 hy.2 fun e => ⟨fun he => ?_, fun he => ?_⟩)
        · rcases List.mem_cons.1 ((hm e).1 (List.mem_cons_of_mem _ he)) with rfl | h'
          · exact absurd (hx.1 e he) (String.lt_irrefl _)
          · exact h'
        · rcases List.mem_cons.1 ((hm e).2 (List.mem_cons_of_mem _ he)) with rfl | h'
          · exact absurd (hy.1 e he) (String.lt_irrefl _)
          · exact h'
  exact ext (go _ _ a.ascending b.ascending entry)

end Dict

end PromptRegistry
