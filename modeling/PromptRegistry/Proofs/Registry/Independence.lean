import PromptRegistry.Proofs.Registry.Indifferent

/-!
# Storages behind the registry

No history tells one healthy storage from another, and neither do the calls that are made of it
without the registry (`history_independent`).
-/

namespace PromptRegistry.Registry

-- ---------------------------------------------------------------------------
-- Histories
-- ---------------------------------------------------------------------------

section
variable {σ : Type} {st : Storage σ} {contents : σ → Contents} {s s₀ : σ}

theorem Operation.run_seen (hst : st.Healthy contents) (hc : (contents s).Keyed)
    (sizes : Search.PageSizes) (now : Timestamp) (op : Operation) :
    (op.run sizes st now s).seen contents = op.run sizes .memory now (contents s) :=
  op.procedure_indifferent.run hst hc

theorem Operation.step_seen (hst : st.Healthy contents) (hc : (contents s).Keyed)
    (sizes : Search.PageSizes) (now : Timestamp) (op : Operation) :
    op.exchange sizes .memory now (contents s) = op.exchange sizes st now s ∧
      (op.run sizes .memory now (contents s)).state = contents (op.run sizes st now s).state := by
  have hseen := op.run_seen hst hc sizes now
  rw [exchange, ← hseen]
  exact ⟨rfl, rfl⟩

theorem Run.seen (hst : st.Healthy contents) (hc : (contents s₀).Keyed)
    (h : Run sizes st s₀ xs s) :
    Run sizes .memory (contents s₀) xs (contents s) ∧ (contents s).Keyed := by
  induction h with
  | start => exact ⟨.start, hc⟩
  | @next xs s h now op ih =>
    obtain ⟨hexchange, hstate⟩ := op.step_seen hst ih.2 sizes now
    have hturns := op.exchange_turns Storage.memory_atomic ih.2 sizes now
    have hnext := ih.1.next now op
    rw [hexchange, hstate] at hnext
    exact ⟨hnext, hstate ▸ hturns.keyed ih.2⟩

theorem Run.exists_seen (hst : st.Healthy contents) (hc : (contents s₀).Keyed)
    (h : Run sizes .memory (contents s₀) xs c) : ∃ s, Run sizes st s₀ xs s ∧ contents s = c := by
  induction h with
  | start => exact ⟨s₀, .start, rfl⟩
  | @next xs c h now op ih =>
    obtain ⟨s, hs, rfl⟩ := ih
    obtain ⟨hexchange, hstate⟩ := op.step_seen hst (hs.seen hst hc).2 sizes now
    rw [hexchange, hstate]
    exact ⟨_, hs.next now op, rfl⟩

end

/-- A storage of which only the basic calls are its own, and which may list prompts in any order,
is not told from the dictionary of its contents: both go through the same histories to the same
contents, and the same calls are answered alike. -/
theorem history_independent {st : Storage σ} {contents : σ → Contents}
    (hst : ∀ call s, call.isBasic = true → st.Follows contents call s) (sizes : Search.PageSizes)
    (s₀ : σ) :
    ((contents s₀).Keyed → ∀ xs c, Run sizes .memory (contents s₀) xs c ↔
      ∃ s, Run sizes st.composed s₀ xs s ∧ contents s = c) ∧
    ∀ calls : List Call,
      List.Forall₂ Reply.Same (st.composed.replies calls s₀).1
        (Storage.memory.replies calls (contents s₀)).1 ∧
      contents (st.composed.replies calls s₀).2 =
        (Storage.memory.replies calls (contents s₀)).2 := by
  have hhealthy := Storage.composed_healthy hst
  refine ⟨fun hc xs c => ⟨fun h => h.exists_seen hhealthy hc, ?_⟩, fun calls =>
    hhealthy.replies calls s₀⟩
  rintro ⟨s, h, rfl⟩
  exact (h.seen hhealthy hc).1

theorem history_independent_reversed :
    let prompt name : Prompt := .new default name none ∅
    let alpha := prompt ⟨"alpha", by decide⟩
    let beta := prompt ⟨"beta", by decide⟩
    let c : Contents := .put (.put ∅ alpha) beta
    let reversed : Storage Contents :=
      { Storage.memory.composed with list := fun c => (.ok c.values.reverse, c) }
    let search : Operation := .searchPrompts ⟨none, some 1, [], none⟩
    c.Keyed ∧ c.values.map (·.name.text) = ["alpha", "beta"] ∧
      (reversed.composed.list c).1 = .ok c.values.reverse ∧
      Run ⟨20, 100⟩ reversed.composed c [search.exchange ⟨20, 100⟩ .memory default c] c := by
  intro prompt alpha beta c reversed search
  have hfollows : ∀ call c, call.isBasic = true → reversed.Follows id call c := by
    intro call c hcall
    cases call with
    | list => exact ⟨⟨_, _, rfl, rfl, List.reverse_perm _⟩, rfl⟩
    | get name | create p | update p | delete name | clear => exact ⟨rfl, rfl⟩
    | save p | contains name | count => cases hcall
  have hkeyed : c.Keyed := (Contents.keyed_empty.put _).put _
  have hstate : (search.run ⟨20, 100⟩ .memory default c).state = c :=
    state_of_reads searchPrompts_reads c
  have hrun : Run ⟨20, 100⟩ .memory c [search.exchange ⟨20, 100⟩ .memory default c]
      (search.run ⟨20, 100⟩ .memory default c).state :=
    Run.next .start default search
  obtain ⟨s, hs, rfl⟩ := ((history_independent hfollows ⟨20, 100⟩ c).1 hkeyed _ c).1 (hstate ▸ hrun)
  exact ⟨hkeyed, by decide +kernel, rfl, hs⟩

end PromptRegistry.Registry
