import PromptRegistry.Dict

/-!
# Laws of dictionaries

Entries in ascending order are sorted already; what a look-up finds after each operation, for the
operations whose laws do not stand beside them; which dictionaries differ at one key; and which keys
a filter takes away.
-/

namespace PromptRegistry

-- ---------------------------------------------------------------------------
-- Sorted entries
-- ---------------------------------------------------------------------------

theorem mem_of_mem_sortEntries {es : List (String × β)} (h : a ∈ sortEntries es) : a ∈ es := by
  have hgo (es sorted : List (String × β))
      (h : a ∈ es.foldl (fun sorted e => insertEntry e.1 e.2 sorted) sorted) :
      a ∈ sorted ∨ a ∈ es := by
    induction es generalizing sorted with
    | nil => exact .inl h
    | cons e es ih =>
      rcases ih _ h with h | h
      · rcases mem_insertEntry h with rfl | h
        · exact .inr (List.mem_cons_self ..)
        · exact .inl h
      · exact .inr (List.mem_cons_of_mem _ h)
  exact (hgo es [] h).resolve_left List.not_mem_nil

theorem insertEntry_of_greatest {key : String} {es : List (String × β)}
    (h : ∀ e ∈ es, e.1 < key) (value : β) : insertEntry key value es = es ++ [(key, value)] := by
  induction es with
  | nil => rfl
  | cons e es ih =>
    rw [List.forall_mem_cons] at h
    have hne : ¬key = e.1 := fun hkey => String.lt_irrefl _ (hkey ▸ h.1)
    rw [insertEntry, if_neg (String.lt_asymm h.1), if_neg hne, ih h.2, List.cons_append]

theorem sortEntries_of_ascending {es : List (String × β)} (h : Ascending es) :
    sortEntries es = es := by
  have hgo (es sorted : List (String × β)) (h : Ascending (sorted ++ es)) :
      es.foldl (fun sorted e => insertEntry e.1 e.2 sorted) sorted = sorted ++ es := by
    induction es generalizing sorted with
    | nil => exact (List.append_nil _).symm
    | cons e es ih =>
      have hlt := (List.pairwise_append.1 h).2.2
      rw [List.append_cons] at h ⊢
      rw [List.foldl_cons, insertEntry_of_greatest fun a ha => hlt a ha e (List.mem_cons_self ..)]
      exact ih _ h
  exact hgo es [] h

namespace Dict

theorem ofList_entries (d : Dict β) : ofList d.entries = d :=
  ext (sortEntries_of_ascending d.ascending)

theorem entries_foldl_insert (es : List (String × β)) (d : Dict β) :
    (es.foldl (fun d e => d.insert e.1 e.2) d).entries =
      es.foldl (fun sorted e => insertEntry e.1 e.2 sorted) d.entries := by
  induction es generalizing d with
  | nil => rfl
  | cons e es ih => exact ih (d.insert e.1 e.2)

theorem foldl_insert_entries (d : Dict β) :
    d.entries.foldl (fun d e => d.insert e.1 e.2) ∅ = d :=
  ext ((entries_foldl_insert d.entries ∅).trans (sortEntries_of_ascending d.ascending))

-- ---------------------------------------------------------------------------
-- Look-ups
-- ---------------------------------------------------------------------------

@[simp] theorem get?_emptyCollection (key : String) : (∅ : Dict β).get? key = none := rfl

theorem contains_eq_isSome (d : Dict β) (key : String) : d.contains key = (d.get? key).isSome :=
  rfl

@[simp] theorem contains_eq_true {d : Dict β} {key : String} :
    d.contains key = true ↔ ∃ value, d.get? key = some value := by
  rw [contains_eq_isSome, Option.isSome_iff_exists]

@[simp] theorem contains_eq_false {d : Dict β} {key : String} :
    d.contains key = false ↔ d.get? key = none := by
  rw [contains_eq_isSome, Option.isSome_eq_false_iff, Option.isNone_iff_eq_none]

@[simp] theorem length_values (d : Dict β) : d.values.length = d.size := List.length_map ..

/-- The keys ascend, so that an entry which is dropped hides no other of its key. -/
theorem get?_filter_eq_some {d : Dict β} {p : String → β → Bool} {key : String} {value : β} :
    (d.filter p).get? key = some value ↔ d.get? key = some value ∧ p key value = true := by
  rw [← mem_toList, ← mem_toList]
  exact List.mem_filter

/-- The second dictionary is the first but at one key, where it holds a value or none. -/
def Becomes (d : Dict β) (key : String) (held : Option β) (d' : Dict β) : Prop :=
  ∀ k, d'.get? k = if k = key then held else d.get? k

theorem becomes_some {d d' : Dict β} : d.Becomes key (some value) d' ↔ d' = d.insert key value := by
  constructor
  · exact fun h => ext_get? fun k => (h k).trans (get?_insert ..).symm
  · rintro rfl
    exact fun k => get?_insert d key k value

theorem becomes_none {d d' : Dict β} : d.Becomes key none d' ↔ d' = d.erase key := by
  constructor
  · exact fun h => ext_get? fun k => (h k).trans (get?_erase ..).symm
  · rintro rfl
    exact get?_erase d key

theorem eq_filter_iff {d d' : Dict β} {p : String → β → Bool} :
    d' = d.filter p ↔ ∀ key value,
      d'.get? key = some value ↔ d.get? key = some value ∧ p key value = true := by
  constructor
  · rintro rfl key value
    exact get?_filter_eq_some
  · intro h
    refine ext_get? fun key => Option.ext fun value => ?_
    rw [h, get?_filter_eq_some]

-- ---------------------------------------------------------------------------
-- Keys
-- ---------------------------------------------------------------------------

theorem size_filter_lt {d : Dict β} {p : String → β → Bool} :
    (d.filter p).size < d.size ↔ (d.filter fun k v => !p k v).keys ≠ [] := by
  simp [size, filter, keys, List.filter_eq_nil_iff, List.length_filter_lt_length_iff_exists]

theorem mem_keys {d : Dict β} {key : String} : key ∈ d.keys ↔ d.contains key = true := by
  simp only [keys, List.mem_map, contains_eq_true, ← mem_toList]
  constructor
  · rintro ⟨e, he, rfl⟩
    exact ⟨e.2, he⟩
  · rintro ⟨value, he⟩
    exact ⟨_, he, rfl⟩

theorem keys_pairwise (d : Dict β) : d.keys.Pairwise (· < ·) := List.pairwise_map.2 d.ascending

theorem mem_keys_ofList {es : List (String × β)} {key : String} :
    key ∈ (ofList es).keys ↔ key ∈ es.map (·.1) := by
  have hgo (es : List (String × β)) (d : Dict β) :
      (es.foldl (fun d e => d.insert e.1 e.2) d).contains key = true ↔
        d.contains key = true ∨ key ∈ es.map (·.1) := by
    induction es generalizing d with
    | nil => simp
    | cons e es ih =>
      rw [List.foldl_cons, ih, List.map_cons, List.mem_cons, ← or_assoc]
      refine or_congr_left ?_
      rw [contains_eq_isSome, contains_eq_isSome, get?_insert]
      by_cases hkey : key = e.1 <;> simp [hkey]
  have hlist : ofList es = es.foldl (fun d e => d.insert e.1 e.2) ∅ :=
    ext (entries_foldl_insert es ∅).symm
  rw [mem_keys, hlist, hgo]
  simp [contains]

theorem keys_filter_not_contains (d : Dict β) (p : String → β → Bool) :
    d.keys.filter (fun k => !(d.filter p).contains k) = (d.filter fun k v => !p k v).keys := by
  rw [keys, List.filter_map, keys, filter]
  refine congrArg _ (List.filter_congr fun e he => ?_)
  have hkey : d.get? e.1 = some e.2 := lookupEntry_of_mem d.ascending he
  rw [Function.comp_apply, Bool.eq_iff_iff, Bool.not_eq_true', Bool.not_eq_true']
  rw [contains_eq_false, Option.eq_none_iff_forall_ne_some]
  constructor
  · intro h
    rw [← Bool.not_eq_true]
    exact fun hp => h e.2 (get?_filter_eq_some.2 ⟨hkey, hp⟩)
  · intro h v hv
    obtain ⟨hv, hp⟩ := get?_filter_eq_some.1 hv
    cases hkey.symm.trans hv
    exact Bool.false_ne_true (h.symm.trans hp)

end Dict

end PromptRegistry
