import PromptRegistry.Proofs.Prompt.WellFormed
import PromptRegistry.Proofs.Registry.History

/-!
# Well-formed contents

Every operation keeps the contents well-formed, whether it succeeds or not, and so does every run
(`Run.wellFormed`). It takes the checks that operations make and the changes that cores allow.
-/

namespace PromptRegistry

structure Prompt.WellFormed (key : String) (p : Prompt) : Prop where
  name : p.name.text = key
  validName : Rules.checkName key = .ok ()
  checked : p.Checked
  numbered : p.Numbered

def Contents.WellFormed (c : Contents) : Prop :=
  ∀ key p, c.get? key = some p → p.WellFormed key

theorem Contents.WellFormed.keyed {c : Contents} (h : c.WellFormed) : c.Keyed :=
  fun key p hp => (h key p hp).name

theorem Contents.wellFormed_empty : Contents.WellFormed ∅ := by
  intro key p hp
  cases hp

namespace Registry

/-- The checks of an operation are those that its change of a prompt asks for. -/
theorem Operation.Effect.checked {op : Operation} {a : op.Answer} {o o' : Option Prompt}
    (h : op.Effect now o a o' es) (ho : ∀ p, o = some p → p.Checked) :
    ∀ q, o' = some q → q.Checked := by
  rintro q rfl
  cases h with
  | createPrompt _ htags hp =>
    rw [hp]
    exact .new (checkTags_ok htags)
  | updatePrompt => exact (ho _ rfl).setDescription
  | setPromptTag htag => exact (ho _ rfl).setTag htag
  | deletePromptTag hq => exact (ho _ rfl).deleteTag hq
  | keepPromptTag => exact ho _ rfl
  | createVersion hversion hq => exact (ho _ rfl).addVersion hversion hq
  | register _ htags hversion hp hq =>
    rw [hp] at hq
    refine Prompt.Checked.addVersion (.setTags ?_ (forM_ok htags)) hversion hq
    cases o with
    | none => exact .new .empty
    | some p => exact ho p rfl
  | deleteVersion _ hq => exact (ho _ rfl).deleteVersion hq
  | setVersionTag _ htag hq => exact (ho _ rfl).setVersionTag htag hq
  | deleteVersionTag _ hq => exact (ho _ rfl).deleteVersionTag hq
  | setAlias halias _ hq => exact (ho _ rfl).setAlias halias hq
  | deleteAlias hq => exact (ho _ rfl).deleteAlias hq

-- ---------------------------------------------------------------------------
-- One exchange
-- ---------------------------------------------------------------------------

section
variable {x : Exchange} {c c' : Contents}

theorem Exchange.Affects.checked {o o' : Option Prompt} (h : x.Affects name o o')
    (ho : ∀ p, o = some p → p.Checked) : ∀ q, o' = some q → q.Checked := by
  cases h with
  | idle => exact ho
  | effect _ _ h => exact h.checked ho

theorem Exchange.Affects.numbered {o o' : Option Prompt} (h : x.Affects name o o')
    (hname : Named name o) (ho : ∀ p, o = some p → p.Numbered) :
    ∀ q, o' = some q → q.Numbered := by
  obtain ⟨happlies, hcore⟩ := h.core hname
  rw [← Core.numbered_of, hcore]
  exact (Core.numbered_of.2 ho).apply happlies

theorem Exchange.Turns.wellFormed (h : x.Turns c c') (hc : c.WellFormed) : c'.WellFormed := by
  intro name p hp
  have hname := h.keyed hc.keyed name p hp
  have haffects := h.affects name
  refine ⟨hname, hname ▸ p.name.valid, ?_, ?_⟩
  · exact haffects.checked (fun p hp => (hc name p hp).checked) p hp
  · exact haffects.numbered (named_of_keyed hc.keyed name)
      (fun p hp => (hc name p hp).numbered) p hp

end

-- ---------------------------------------------------------------------------
-- Runs
-- ---------------------------------------------------------------------------

section
variable {σ : Type} {st : Storage σ} {contents : σ → Contents} {s s₀ : σ}

theorem Operation.wellFormed_run (hst : st.Atomic contents) (hs : (contents s).WellFormed)
    (sizes : Search.PageSizes) (now : Timestamp) (op : Operation) :
    (contents (op.run sizes st now s).state).WellFormed :=
  (op.exchange_turns hst hs.keyed sizes now).wellFormed hs

theorem Run.wellFormed (hst : st.Atomic contents) (hc : (contents s₀).WellFormed)
    (h : Run sizes st s₀ xs s) : (contents s).WellFormed := by
  induction h with
  | start => exact hc
  | next _ now op ih => exact op.wellFormed_run hst ih _ now

theorem Run.checked (hst : st.Atomic contents) (hc : contents s₀ = ∅) (h : Run sizes st s₀ xs s) :
    ∀ name p, (contents s).get? name = some p → p.Checked := fun name p hp =>
  (h.wellFormed hst (hc ▸ Contents.wellFormed_empty) name p hp).checked

/-- An operation keeps the contents well-formed, whether it succeeds or not. A run from no prompts
on comes upon well-formed contents only. -/
theorem operations_keep_wellFormed (hst : st.Atomic contents) (sizes : Search.PageSizes) :
    (∀ (s : σ) (now : Timestamp) (op : Operation), (contents s).WellFormed →
      (contents (op.run sizes st now s).state).WellFormed) ∧
    ∀ s₀ xs s, contents s₀ = ∅ → Run sizes st s₀ xs s → (contents s).WellFormed := by
  refine ⟨fun s now op hs => op.wellFormed_run hst hs sizes now, fun s₀ xs s hc h => ?_⟩
  exact h.wellFormed hst (hc ▸ Contents.wellFormed_empty)

/-- A prompt with the last of all versions. To add another fails, and the prompt stays as it
is. -/
theorem operations_keep_wellFormed_greeting :
    let empty := Prompt.new default ⟨"greeting", by decide⟩ none ∅
    let d : NewVersion := ⟨.text "Hello", none, ∅, none⟩
    let c := Contents.put ∅ (empty.append default (empty.newVersion default 4294967295 d))
    let o := (Operation.createVersion "greeting" d).run ⟨20, 100⟩ .memory default c
    c.WellFormed ∧ o.result = .error .exhausted ∧ o.state.WellFormed := by
  intro empty d c o
  have hchecked : (empty.append default (empty.newVersion default 4294967295 d)).Checked := by
    refine ⟨.empty, List.forall_mem_singleton.2 ⟨rfl, rfl, by decide, nofun, .empty⟩, ?_⟩
    intro a n hn
    cases hn
  have hnumbered : (empty.append default (empty.newVersion default 4294967295 d)).Numbered :=
    ⟨List.pairwise_singleton .., List.forall_mem_singleton.2 ⟨by decide, by decide⟩⟩
  have hc : c.WellFormed := by
    intro key q hq
    simp only [c, Contents.put, Dict.get?_insert] at hq
    split at hq
    · next hkey =>
      cases hq
      exact ⟨hkey.symm, hkey ▸ empty.name.valid, hchecked, hnumbered⟩
    · cases hq
  have hkept := (operations_keep_wellFormed Storage.memory_atomic ⟨20, 100⟩).1 c default
    (.createVersion "greeting" d) hc
  exact ⟨hc, rfl, hkept⟩

end

end Registry

end PromptRegistry
