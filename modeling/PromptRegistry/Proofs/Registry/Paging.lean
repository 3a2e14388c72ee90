import PromptRegistry.Proofs.Registry.Reading
import PromptRegistry.Proofs.Search.Filter
import PromptRegistry.Proofs.Search.Order
import PromptRegistry.Proofs.Search.Page
import PromptRegistry.Settings.Basic

/-!
# Searching page by page

Over contents that do not change, a walk through the pages of a search for prompts ends and visits
each prompt that matches just once and in order, whatever sizes are asked for on the way
(`searchPrompts_walk`).
-/

namespace PromptRegistry

-- ---------------------------------------------------------------------------
-- Contents and sizes
-- ---------------------------------------------------------------------------

/-- As long as the contents are these, prompts can be listed, each time alike, and counted. -/
structure Storage.Lists (st : Storage σ) (contents : σ → Contents) (c : Contents)
    (ps : List Prompt) : Prop where
  list : ∀ s, contents s = c → (st.list s).1 = .ok ps
  count : ∀ s, contents s = c → ∃ n, (st.count s).1 = .ok n

theorem Storage.memory_lists (c : Contents) : Storage.memory.Lists id c c.values where
  list _ hs := congrArg (fun c : Contents => Except.ok c.values) hs
  count _ _ := ⟨_, rfl⟩

theorem Contents.Keyed.names_pairwise {c : Contents} (h : c.Keyed) :
    c.values.Pairwise fun p q => p.name.text ≠ q.name.text := by
  refine List.pairwise_map.2 (c.ascending.imp_of_mem fun {a b} ha hb hlt => ?_)
  rw [h a.1 a.2 (Dict.mem_toList.1 ha), h b.1 b.2 (Dict.mem_toList.1 hb)]
  intro heq
  exact String.lt_irrefl _ (heq ▸ hlt)

theorem Settings.Search.sizes_pos {settings : Settings.Search} {sizes : Search.PageSizes}
    (h : settings.sizes = .ok sizes) : 0 < sizes.default ∧ 0 < sizes.limit := by
  unfold Settings.Search.sizes at h
  split at h
  · cases h
  split at h
  · cases h
  · next hzero _ =>
    cases h
    simp only [not_or, ← UInt64.toNat_inj] at hzero
    exact ⟨Nat.pos_of_ne_zero hzero.2, Nat.pos_of_ne_zero hzero.1⟩

theorem Search.PageSizes.resolve_bounds {sizes : Search.PageSizes}
    (hpos : 0 < sizes.default ∧ 0 < sizes.limit) (h : sizes.resolve asked = .ok size) :
    0 < size ∧ size ≤ sizes.limit := by
  unfold Search.PageSizes.resolve at h
  split at h
  · cases h
    omega
  · obtain ⟨hbounds, heq⟩ := ite_error_eq_ok.1 h
    cases heq
    omega

namespace Registry

variable {st : Storage σ} {contents : σ → Contents} {c : Contents} {ps : List Prompt}

-- ---------------------------------------------------------------------------
-- One page
-- ---------------------------------------------------------------------------

theorem perm_of_lists (hst : st.Atomic contents) (hlists : st.Lists contents c ps) {s : σ}
    (hs : contents s = c) : ps.Perm c.values ∧ contents (st.list s).2 = c := by
  rcases hst .list s with ⟨e, he, -⟩ | ⟨qs, hqs, hperm, hcontents⟩
  · cases he.symm.trans (hlists.list s hs)
  · cases hqs.symm.trans (hlists.list s hs)
    exact ⟨hs ▸ hperm, hcontents.trans hs⟩

theorem searchPrompts_run (hst : st.Atomic contents) (hlists : st.Lists contents c ps) {q : Query}
    (hfilter : Search.Filter.parse (q.filter.getD "") = .ok f)
    (horder : Search.OrderClause.parseAll q.order = .ok order)
    (hsize : sizes.resolve q.size = .ok size)
    (hoffset : Search.PageToken.offset q.token = .ok offset) {s : σ} (hs : contents s = c) :
    let o := (searchPrompts sizes q).run st s
    o.result = .ok (Search.paginate (Search.sortPrompts order (ps.filter f.holds)) offset size) ∧
      contents o.state = c := by
  have hanswer : st.answer .list s = (.ok ps, (st.list s).2) := Prod.ext (hlists.list s hs) rfl
  have hrun : (searchPrompts sizes q).run st s =
      ⟨.ok (Search.paginate (Search.sortPrompts order (ps.filter f.holds)) offset size),
        (st.list s).2,
        [.searched (Search.sortPrompts order (ps.filter f.holds)).length offset size]⟩ := by
    unfold searchPrompts
    rw [hfilter, horder, hsize, hoffset]
    show Procedure.run st (.call .list _) s = _
    rw [Procedure.run, hanswer]
    rfl
  rw [hrun]
  exact ⟨rfl, (perm_of_lists hst hlists hs).2⟩

theorem count_run (hst : st.Atomic contents) (hlists : st.Lists contents c ps) {s : σ}
    (hs : contents s = c) : (count.run st s).result = .ok c.size := by
  obtain ⟨n, hn⟩ := hlists.count s hs
  have hrun : (count.run st s).result = (st.count s).1 := rfl
  rcases hst .count s with ⟨e, he, -⟩ | ⟨m, hm, hsize, -⟩
  · cases he.symm.trans hn
  · rw [hrun, ← hs, ← hsize]
    exact hm

-- ---------------------------------------------------------------------------
-- All pages
-- ---------------------------------------------------------------------------

def askPrompts (st : Storage σ) (sizes : Search.PageSizes) (q : Query) (asked : Nat → Option Nat)
    (k : Nat) (token : Option String) (s : σ) : Except Failure (Search.Page Prompt) × σ :=
  let o := (searchPrompts sizes { q with size := asked k, token }).run st s
  (o.result, o.state)

theorem askPrompts_run (hst : st.Atomic contents) (hlists : st.Lists contents c ps) {q : Query}
    (hfilter : Search.Filter.parse (q.filter.getD "") = .ok f)
    (horder : Search.OrderClause.parseAll q.order = .ok order) {asked : Nat → Option Nat}
    {size : Nat → Nat} (hasked : ∀ k, sizes.resolve (asked k) = .ok (size k)) (k : Nat)
    (token : Option String) (offset : Nat) (s : σ) (hs : contents s = c)
    (hoffset : Search.PageToken.offset token = .ok offset) :
    ∃ s', contents s' = c ∧ askPrompts st sizes q asked k token s =
      (.ok (Search.paginate (Search.sortPrompts order (ps.filter f.holds)) offset (size k)),
        s') := by
  have hrun := searchPrompts_run (q := { q with size := asked k, token }) hst hlists hfilter
    horder (hasked k) hoffset hs
  exact ⟨_, hrun.2, Prod.ext hrun.1 rfl⟩

/-- As long as the contents stay the same, and whatever accepted sizes are asked for, the pages of
a search end. They visit the prompts that match, each once and in order. A page is no longer than
its size, and as long as that where it has a token, as all but the last have. Without a filter as
many prompts are visited as are counted. Offsets have 64 bits, as the number of prompts must. -/
theorem searchPrompts_walk (hst : st.Atomic contents) (hlists : st.Lists contents c ps)
    (hlength : c.size < UInt64.size) {s : σ} (hs : contents s = c) {settings : Settings.Search}
    {sizes : Search.PageSizes} (hsizes : settings.sizes = .ok sizes) {q : Query}
    (hfilter : Search.Filter.parse (q.filter.getD "") = .ok f)
    (horder : Search.OrderClause.parseAll q.order = .ok order) {asked : Nat → Option Nat}
    {size : Nat → Nat} (hasked : ∀ k, sizes.resolve (asked k) = .ok (size k)) :
    ∃ pages : List (Search.Page Prompt),
      Search.Walk (askPrompts st sizes q asked) 0 none s pages ∧
      (pages.flatMap (·.items)).Perm (c.values.filter f.holds) ∧
      (pages.flatMap (·.items)).Pairwise
        (fun a b => (Search.OrderClause.compareAll a b order).isLE = true) ∧
      (c.Keyed → (pages.flatMap (·.items)).Pairwise
        fun a b => Search.OrderClause.compareAll a b order = .lt) ∧
      (∀ (k : Nat) (page : Search.Page Prompt), pages[k]? = some page →
        page.items.length ≤ size k ∧ size k ≤ sizes.limit ∧
        (page.next.isSome = true ↔ k + 1 < pages.length) ∧
        (page.next.isSome = true → page.items.length = size k)) ∧
      (q.filter = none → (count.run st s).result = .ok (pages.flatMap (·.items)).length) := by
  have hbounds k := Search.PageSizes.resolve_bounds (Settings.Search.sizes_pos hsizes) (hasked k)
  have hmatches : (ps.filter f.holds).Perm (c.values.filter f.holds) :=
    (perm_of_lists hst hlists hs).1.filter _
  have hperm := (Search.sortPrompts_perm order (ps.filter f.holds)).trans hmatches
  have hfew : (Search.sortPrompts order (ps.filter f.holds)).length < UInt64.size := by
    rw [hperm.length_eq]
    refine Nat.lt_of_le_of_lt (List.length_filter_le ..) ?_
    rwa [Dict.length_values]
  have hstart : Search.PageToken.offset none = .ok 0 := rfl
  obtain ⟨pages, hwalk, htiles⟩ := Search.exists_walk (fun s => contents s = c) hfew
    (fun k => (hbounds k).1) (askPrompts_run hst hlists hfilter horder hasked) 0 hs hstart
  have hvisited := htiles.flatMap_items
  rw [List.drop_zero] at hvisited
  refine ⟨pages, hwalk, ?_, ?_, fun hc => ?_, fun k page hpage => ?_, fun hnone => ?_⟩
  · rw [hvisited]
    exact hperm
  · rw [hvisited]
    exact Search.sortPrompts_pairwise order _
  · rw [hvisited]
    exact Search.sortPrompts_pairwise_lt order
      (hmatches.symm.pairwise (hc.names_pairwise.filter _) fun h => Ne.symm h)
  · obtain ⟨hle, hnext, hfull⟩ := htiles.page hpage
    rw [Nat.zero_add] at hle hfull
    exact ⟨hle, (hbounds k).2, hnext, hfull⟩
  · rw [hnone] at hfilter
    cases (Search.Filter.parse_of_blank rfl).symm.trans hfilter
    have hall : c.values.filter (Search.Filter.holds []) = c.values :=
      List.filter_eq_self.2 fun _ _ => rfl
    rw [count_run hst hlists hs, hvisited, hperm.length_eq, hall, Dict.length_values]

theorem searchPrompts_walk_three :
    let prompt name : Prompt := .new default name none ∅
    let c : Contents := .put (.put (.put ∅ (prompt ⟨"beta", rfl⟩)) (prompt ⟨"alpha", rfl⟩))
      (prompt ⟨"gamma", rfl⟩)
    let settings : Settings.Search := { default := 1, limit := 2 }
    let q : Query := { filter := none, size := none, order := ["name desc"], token := none }
    let asked (k : Nat) := if k = 0 then some 2 else none
    settings.sizes = .ok ⟨1, 2⟩ ∧ c.Keyed ∧ ∃ pages : List (Search.Page Prompt),
      Search.Walk (askPrompts .memory ⟨1, 2⟩ q asked) 0 none c pages ∧
      (pages.flatMap (·.items)).Pairwise
        (fun a b => Search.OrderClause.compareAll a b [⟨.name, true⟩] = .lt) ∧
      (pages.flatMap (·.items)).length = 3 := by
  intro prompt c settings q asked
  have hsizes : settings.sizes = .ok ⟨1, 2⟩ := by decide
  have hkeyed : c.Keyed := ((Contents.keyed_empty.put _).put _).put _
  have horder : Search.OrderClause.parseAll ["name desc"] = .ok [⟨.name, true⟩] := by
    decide +kernel
  have hasked (k : Nat) : Search.PageSizes.resolve ⟨1, 2⟩ (asked k) =
      .ok (if k = 0 then 2 else 1) := by
    by_cases hk : k = 0 <;> simp [asked, hk, Search.PageSizes.resolve]
  obtain ⟨pages, hwalk, -, -, hsorted, -, hcount⟩ := searchPrompts_walk Storage.memory_atomic
    (Storage.memory_lists c) (by decide +kernel) (s := c) rfl hsizes (q := q)
    (Search.Filter.parse_of_blank rfl) horder hasked
  have hthree : c.size = 3 := by decide +kernel
  have hvisited : c.size = (pages.flatMap (·.items)).length := Except.ok.inj (hcount rfl)
  exact ⟨hsizes, hkeyed, pages, hwalk, hsorted hkeyed, hvisited.symm.trans hthree⟩

end Registry

end PromptRegistry
