import Mathlib.Data.List.Perm.Subperm
import PromptRegistry.Proofs.Registry.Paging

/-!
# Listing versions page by page

Over contents that do not change, a walk through the pages of the versions of a prompt ends. It
visits the versions of the prompt just once, the newest first, and each alias with the version that
it points at (`searchVersions_walk`).
-/

namespace PromptRegistry

namespace Prompt

variable {p : Prompt}

-- ---------------------------------------------------------------------------
-- Versions with numbers in order
-- ---------------------------------------------------------------------------

theorem version?_eq_some_iff (h : p.versions.Pairwise fun v w => v.number < w.number) :
    p.version? n = some v ↔ v ∈ p.versions ∧ v.number = n := by
  refine ⟨mem_versions_of_version?, ?_⟩
  rintro ⟨hv, rfl⟩
  obtain ⟨xs, ys, hversions⟩ := List.append_of_mem hv
  rw [version?, hversions, List.find?_eq_some_iff_append]
  rw [hversions] at h
  refine ⟨decide_eq_true rfl, xs, ys, rfl, fun w hw => ?_⟩
  have hlt : w.number < v.number := (List.pairwise_append.1 h).2.2 w hw v (List.mem_cons_self ..)
  simpa using UInt32.ne_of_lt hlt

theorem length_versions_le (h : p.versions.Pairwise fun v w => v.number < w.number) :
    p.versions.length ≤ UInt32.size := by
  have hnodup : (p.versions.map fun v => v.number.toNat).Nodup :=
    List.pairwise_map.2 (h.imp fun hlt => Nat.ne_of_lt (UInt32.lt_iff_toNat_lt.1 hlt))
  have hbound : (p.versions.map fun v => v.number.toNat) ⊆ List.range UInt32.size := by
    intro n hn
    obtain ⟨v, -, rfl⟩ := List.mem_map.1 hn
    exact List.mem_range.2 v.number.toNat_lt
  simpa using (List.subperm_of_subset hnodup hbound).length_le

theorem mem_aliasesOf : a ∈ p.aliasesOf n ↔ p.aliases.get? a = some n := by
  rw [aliasesOf, Dict.mem_keys, Dict.contains_eq_true]
  simp only [Dict.get?_filter_eq_some, decide_eq_true_eq]
  constructor
  · rintro ⟨m, hm, rfl⟩
    exact hm
  · intro hn
    exact ⟨n, hn, rfl⟩

-- ---------------------------------------------------------------------------
-- The listing
-- ---------------------------------------------------------------------------

def listing (p : Prompt) : List Details := (p.versions.mergeSort Registry.newerFirst).map p.details

/-- Every version of a prompt is listed once, the newest first, and every alias once, with the
version that it points at. -/
structure ListedBy (p : Prompt) (items : List Details) : Prop where
  versions : (items.map (·.version)).Perm p.versions
  descending : items.Pairwise fun d e => e.version.number < d.version.number
  aliases : (items.flatMap (·.aliases)).Perm p.aliases.keys
  resolves : ∀ d ∈ items, ∀ a, a ∈ d.aliases ↔ p.resolve (.byAlias a) = some d.version
  sorted : ∀ d ∈ items, d.aliases.Pairwise (· < ·)

theorem mem_listing : d ∈ p.listing ↔ ∃ v ∈ p.versions, d = p.details v := by
  simp only [listing, List.mem_map, List.mem_mergeSort, eq_comm]

theorem listing_versions (p : Prompt) : (p.listing.map (·.version)).Perm p.versions := by
  rw [listing, List.map_map]
  exact (List.map_id _).symm ▸ List.mergeSort_perm ..

theorem listing_descending (h : p.versions.Pairwise fun v w => v.number < w.number) :
    p.listing.Pairwise fun d e => e.version.number < d.version.number := by
  have hne : (p.versions.mergeSort Registry.newerFirst).Pairwise fun v w => v.number ≠ w.number :=
    (List.mergeSort_perm ..).symm.pairwise (h.imp UInt32.ne_of_lt) Ne.symm
  have hsorted : (p.versions.mergeSort Registry.newerFirst).Pairwise fun v w =>
      Registry.newerFirst v w = true := by
    refine List.pairwise_mergeSort ?_ ?_ _
    · simp only [Registry.newerFirst, decide_eq_true_eq]
      exact fun u v w hvu hwv => UInt32.le_trans hwv hvu
    · simp only [Registry.newerFirst, Bool.or_eq_true, decide_eq_true_eq]
      exact fun v w => UInt32.le_total ..
  refine List.pairwise_map.2 ((hsorted.and hne).imp fun {v w} h => ?_)
  exact UInt32.lt_of_le_of_ne (of_decide_eq_true h.1) (Ne.symm h.2)

theorem listing_resolves (h : p.versions.Pairwise fun v w => v.number < w.number)
    (hd : d ∈ p.listing) : a ∈ d.aliases ↔ p.resolve (.byAlias a) = some d.version := by
  obtain ⟨v, hv, rfl⟩ := mem_listing.1 hd
  show a ∈ p.aliasesOf v.number ↔ (p.aliases.get? a).bind p.version? = some v
  simp only [mem_aliasesOf, Option.bind_eq_some_iff, version?_eq_some_iff h]
  constructor
  · intro ha
    exact ⟨_, ha, hv, rfl⟩
  · rintro ⟨n, ha, -, rfl⟩
    exact ha

/-- No alias is left out, since each points at a version that is listed, and none stands with two
versions. -/
theorem listing_aliases (h : p.versions.Pairwise fun v w => v.number < w.number)
    (haliases : ∀ a n, p.aliases.get? a = some n → (p.version? n).isSome) :
    (p.listing.flatMap (·.aliases)).Perm p.aliases.keys := by
  have hresolves {a : String} {d : Details} (hd : d ∈ p.listing) (ha : a ∈ d.aliases) :=
    (listing_resolves h hd).1 ha
  have hnodup : (p.listing.flatMap (·.aliases)).Nodup := by
    refine List.pairwise_flatMap.2 ⟨fun d hd => ?_, ?_⟩
    · obtain ⟨v, -, rfl⟩ := mem_listing.1 hd
      exact (Dict.keys_pairwise _).imp String.ne_of_lt
    · refine (listing_descending h).imp_of_mem fun {d e} hd he hlt a ha b hb => ?_
      rintro rfl
      have hversion := (hresolves hd ha).symm.trans (hresolves he hb)
      exact UInt32.lt_irrefl _ (Option.some.inj hversion ▸ hlt)
  refine (List.perm_ext_iff_of_nodup hnodup ((Dict.keys_pairwise _).imp String.ne_of_lt)).2 ?_
  intro a
  rw [List.mem_flatMap, Dict.mem_keys, Dict.contains_eq_true]
  constructor
  · rintro ⟨d, hd, ha⟩
    obtain ⟨v, -, rfl⟩ := mem_listing.1 hd
    exact ⟨_, mem_aliasesOf.1 ha⟩
  · rintro ⟨n, hn⟩
    obtain ⟨v, hv⟩ := Option.isSome_iff_exists.1 (haliases a n hn)
    obtain ⟨hmem, rfl⟩ := mem_versions_of_version? hv
    exact ⟨p.details v, mem_listing.2 ⟨v, hmem, rfl⟩, mem_aliasesOf.2 hn⟩

theorem listedBy_listing (h : p.versions.Pairwise fun v w => v.number < w.number)
    (haliases : ∀ a n, p.aliases.get? a = some n → (p.version? n).isSome) :
    p.ListedBy p.listing where
  versions := p.listing_versions
  descending := listing_descending h
  aliases := listing_aliases h haliases
  resolves _ hd _ := listing_resolves h hd
  sorted d hd := by
    obtain ⟨v, -, rfl⟩ := mem_listing.1 hd
    exact Dict.keys_pairwise _

end Prompt

/-- As long as the contents are these, looking up a name does not fail. -/
def Storage.Finds (st : Storage σ) (contents : σ → Contents) (c : Contents) (name : PromptName) :
    Prop :=
  ∀ s, contents s = c → ∃ found, (st.get name s).1 = .ok found

theorem Storage.memory_finds (c : Contents) (name : PromptName) :
    Storage.memory.Finds id c name := fun s _ => ⟨s.get? name.text, rfl⟩

namespace Registry

variable {st : Storage σ} {contents : σ → Contents} {c : Contents} {name : PromptName} {p : Prompt}

-- ---------------------------------------------------------------------------
-- The pages
-- ---------------------------------------------------------------------------

/-- The request for the `k`-th page of versions: each has a size of its own. -/
def askVersions (st : Storage σ) (sizes : Search.PageSizes) (name : String)
    (asked : Nat → Option Nat) (k : Nat) (token : Option String) (s : σ) :
    Except Failure (Search.Page Details) × σ :=
  let o := (searchVersions sizes name (asked k) token).run st s
  (o.result, o.state)

theorem askVersions_run (hst : st.Atomic contents) (hfinds : st.Finds contents c name)
    (hp : c.get? name.text = some p) {asked : Nat → Option Nat} {size : Nat → Nat}
    (hasked : ∀ k, sizes.resolve (asked k) = .ok (size k)) (k : Nat) (token : Option String)
    (offset : Nat) (s : σ) (hs : contents s = c)
    (hoffset : Search.PageToken.offset token = .ok offset) :
    ∃ s', contents s' = c ∧ askVersions st sizes name.text asked k token s =
      (.ok (Search.paginate p.listing offset (size k)), s') := by
  obtain ⟨found, hfound⟩ := hfinds s hs
  rcases hst (.get name) s with ⟨e, he, -⟩ | ⟨o, ho, rfl, hkept⟩
  · cases he.symm.trans hfound
  · rw [hs] at ho hkept
    have hanswer : st.answer (.get name) s = (.ok (some p), (st.get name s).2) :=
      Prod.ext (ho.trans (congrArg _ hp)) rfl
    refine ⟨_, hkept, ?_⟩
    unfold askVersions searchVersions
    rw [hasked, hoffset]
    simp only [requirePrompt, getPrompt, demand, PromptName.ofString_text]
    show (((Procedure.call (.get name) _).run st s).result,
      ((Procedure.call _ _).run st s).state) = _
    rw [Procedure.run, hanswer]
    rfl

/-- As long as the contents stay the same, and whatever accepted sizes are asked for, the pages of
the versions of a prompt end. They visit each version once, the newest first, and each alias once,
with the version it points at. -/
theorem searchVersions_walk (hst : st.Atomic contents) (hfinds : st.Finds contents c name)
    (hp : c.get? name.text = some p) (hnumbers : p.versions.Pairwise fun v w => v.number < w.number)
    (haliases : ∀ a n, p.aliases.get? a = some n → (p.version? n).isSome) {s : σ}
    (hs : contents s = c) {settings : Settings.Search} {sizes : Search.PageSizes}
    (hsizes : settings.sizes = .ok sizes) {asked : Nat → Option Nat} {size : Nat → Nat}
    (hasked : ∀ k, sizes.resolve (asked k) = .ok (size k)) :
    ∃ pages : List (Search.Page Details),
      Search.Walk (askVersions st sizes name.text asked) 0 none s pages ∧
      p.ListedBy (pages.flatMap (·.items)) := by
  have hpos := Settings.Search.sizes_pos hsizes
  have hfew : p.listing.length < UInt64.size := by
    rw [Prompt.listing, List.length_map, List.length_mergeSort]
    exact Nat.lt_of_le_of_lt (Prompt.length_versions_le hnumbers) (by decide)
  obtain ⟨pages, hwalk, htiles⟩ := Search.exists_walk (fun s => contents s = c) hfew
    (fun k => (Search.PageSizes.resolve_bounds hpos (hasked k)).1)
    (askVersions_run hst hfinds hp hasked) 0 hs (rfl : Search.PageToken.offset none = .ok 0)
  refine ⟨pages, hwalk, ?_⟩
  rw [htiles.flatMap_items, List.drop_zero]
  exact Prompt.listedBy_listing hnumbers haliases

theorem searchVersions_walk_three :
    let draft : NewVersion := ⟨.text "Hello", none, ∅, none⟩
    let add (n : UInt32) (p : Prompt) : Prompt := p.append default (p.newVersion default n draft)
    let p : Prompt := { add 3 (add 2 (add 1 (.new default ⟨"greeting", rfl⟩ none ∅))) with
      aliases := .ofList [("stable", 1), ("next", 3), ("live", 1)] }
    let asked (k : Nat) := if k = 0 then none else some 1
    ∃ pages : List (Search.Page Details),
      Search.Walk (askVersions .memory ⟨2, 5⟩ "greeting" asked) 0 none (Contents.put ∅ p) pages ∧
      p.ListedBy (pages.flatMap (·.items)) ∧ (pages.flatMap (·.items)).length = 3 := by
  intro draft add p asked
  have hnumbers : p.versions.Pairwise fun v w => v.number < w.number := by decide +kernel
  have hpoint : ∀ e ∈ p.aliases.toList, (p.version? e.2).isSome = true := by decide +kernel
  have hasked (k : Nat) : Search.PageSizes.resolve ⟨2, 5⟩ (asked k) =
      .ok (if k = 0 then 2 else 1) := by
    by_cases hk : k = 0 <;> simp [asked, hk, Search.PageSizes.resolve]
  have hsizes : Settings.Search.sizes { default := 2, limit := 5 } = .ok ⟨2, 5⟩ := by decide
  obtain ⟨pages, hwalk, hlisted⟩ := searchVersions_walk Storage.memory_atomic
    (Storage.memory_finds (Contents.put ∅ p) ⟨"greeting", rfl⟩) rfl hnumbers
    (fun a n hn => hpoint (a, n) (Dict.mem_toList.2 hn)) (s := Contents.put ∅ p) rfl hsizes hasked
  refine ⟨pages, hwalk, hlisted, ?_⟩
  rw [← List.length_map, hlisted.versions.length_eq]
  rfl

end Registry

end PromptRegistry
