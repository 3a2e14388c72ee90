import PromptRegistry.Proofs.Registry.History

/-!
# Operations are atomic

Of the calls of an operation only the last one writes, and no failure follows it. Over a storage
whose calls take effect or fail, the same is therefore true of whole operations.
-/

namespace PromptRegistry.Registry

theorem Exchange.Affects.frame {x : Exchange} (h : x.Affects name o o')
    (hname : x.op.name? ≠ some name) : o' = o := by
  cases h with
  | idle => rfl
  | effect hop => exact absurd hop hname

/-- An operation that fails, at whatever call, leaves all prompts as they were; and in any case it
leaves all but the prompt under its own name. -/
theorem run_atomic {st : Storage σ} {contents : σ → Contents} (hst : st.Atomic contents) {s : σ}
    (hc : (contents s).Keyed) (sizes : Search.PageSizes) (now : Timestamp) (op : Operation) :
    ((∃ e, (op.run sizes st now s).result = .error e) →
      contents (op.run sizes st now s).state = contents s) ∧
    ∀ name, op.name? ≠ some name →
      (contents (op.run sizes st now s).state).get? name = (contents s).get? name := by
  have hturns := op.exchange_turns hst hc sizes now
  refine ⟨?_, fun name hname => (hturns.affects name).frame hname⟩
  rintro ⟨e, he⟩
  unfold Exchange.Turns at hturns
  simp only [Operation.exchange, he] at hturns
  exact hturns

theorem run_atomic_full :
    let p : Prompt := .new default ⟨"greeting", by decide⟩ none ∅
    let full : Storage Contents :=
      { Storage.memory with update := fun _ c => (.error (.storage "full"), c) }
    let o := (Operation.setPromptTag "greeting" "team" "core").run ⟨20, 100⟩ full default
      (Contents.put ∅ p)
    o.result = .error (.storage "full") ∧ o.state = Contents.put ∅ p := by
  intro p full o
  have hfull : full.Atomic id := by
    intro call c
    cases call with
    | update p => exact .inl ⟨_, rfl, rfl⟩
    | _ => exact Storage.memory_atomic _ c
  have hkeyed : Contents.Keyed (Contents.put ∅ p) := Contents.keyed_empty.put p
  have h := run_atomic hfull (s := Contents.put ∅ p) hkeyed ⟨20, 100⟩ default
    (.setPromptTag "greeting" "team" "core")
  exact ⟨rfl, h.1 ⟨_, rfl⟩⟩

end PromptRegistry.Registry
