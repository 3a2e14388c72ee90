import PromptRegistry.Proofs.Prompt.Provenance
import PromptRegistry.Proofs.Registry.History

/-!
# Where times and response formats come from

The times of a stored prompt are times at which operations were run, and its response formats are
those that operations brought: whatever holds of all that a history hands in holds of all that the
contents keep (`Run.madeOf`).
-/

namespace PromptRegistry

variable {time : Timestamp → Prop} {format : Json → Prop}

namespace Registry

-- ---------------------------------------------------------------------------
-- Operations
-- ---------------------------------------------------------------------------

def Operation.format? : Operation → Option Json
  | .createVersion _ d => d.responseFormat
  | .register r => r.version.responseFormat
  | _ => none

theorem Operation.Effect.madeOf {op : Operation} {a : op.Answer} {o o' : Option Prompt}
    (h : op.Effect now o a o' es) (hnow : time now)
    (hformat : ∀ f, op.format? = some f → format f)
    (ho : ∀ p, o = some p → p.MadeOf time format) : ∀ q, o' = some q → q.MadeOf time format := by
  rintro q rfl
  cases h with
  | createPrompt _ _ hp => exact hp ▸ .new hnow _ _ _
  | updatePrompt => exact (ho _ rfl).touch hnow (fun _ hv => hv) rfl
  | setPromptTag => exact (ho _ rfl).touch hnow (fun _ hv => hv) rfl
  | deletePromptTag hq =>
    unfold Prompt.deleteTag? at hq
    split at hq <;> cases hq
    exact (ho _ rfl).touch hnow (fun _ hv => hv) rfl
  | keepPromptTag => exact ho _ rfl
  | createVersion _ hq => exact (ho _ rfl).addVersion hnow hformat hq
  | register _ _ _ hp hq =>
    rw [hp] at hq
    refine Prompt.MadeOf.addVersion (.setTags ?_ hnow _) hnow hformat hq
    cases o with
    | none => exact .new hnow _ _ _
    | some p => exact ho p rfl
  | deleteVersion _ hq =>
    unfold Prompt.deleteVersion? at hq
    split at hq <;> cases hq
    exact (ho _ rfl).touch hnow (fun _ => List.mem_of_mem_eraseP) rfl
  | setVersionTag _ _ hq =>
    unfold Prompt.setVersionTag? at hq
    split at hq <;> cases hq
    exact ⟨(ho _ rfl).createdAt, hnow, (ho _ rfl).mapTags _ _⟩
  | deleteVersionTag _ hq =>
    unfold Prompt.deleteVersionTag? at hq
    split at hq
    · cases hq
    · split at hq <;> cases hq
      · exact ⟨(ho _ rfl).createdAt, hnow, (ho _ rfl).mapTags _ _⟩
      · exact ho _ rfl
  | setAlias _ _ hq =>
    obtain ⟨-, rfl⟩ := Prompt.setAlias?_eq_some hq
    exact (ho _ rfl).touch hnow (fun _ hv => hv) rfl
  | deleteAlias hq =>
    obtain rfl := Prompt.deleteAlias?_eq_some hq
    exact (ho _ rfl).touch hnow (fun _ hv => hv) rfl

-- ---------------------------------------------------------------------------
-- Histories
-- ---------------------------------------------------------------------------

structure Exchange.Brings (time : Timestamp → Prop) (format : Json → Prop) (x : Exchange) :
    Prop where
  time : time x.time
  format : ∀ f, x.op.format? = some f → format f

theorem Exchange.Affects.madeOf {x : Exchange} {o o' : Option Prompt} (h : x.Affects name o o')
    (hx : x.Brings time format) (ho : ∀ p, o = some p → p.MadeOf time format) :
    ∀ q, o' = some q → q.MadeOf time format := by
  cases h with
  | idle => exact ho
  | effect _ _ h => exact h.madeOf hx.time hx.format ho

/-- What holds of all that is handed in holds of all that is kept. -/
theorem Run.madeOf {st : Storage σ} {contents : σ → Contents} (hst : st.Atomic contents)
    (hc : contents s₀ = ∅) (h : Run sizes st s₀ xs s) (hxs : ∀ x ∈ xs, x.Brings time format)
    (name : String) : ∀ p, (contents s).get? name = some p → p.MadeOf time format := by
  induction h with
  | start =>
    intro p hp
    rw [hc] at hp
    cases hp
  | next h now op ih =>
    rw [List.forall_mem_append, List.forall_mem_singleton] at hxs
    have hkeyed := h.keyed hst (hc ▸ Contents.keyed_empty)
    have hturns := op.exchange_turns hst hkeyed sizes now
    exact (hturns.affects name).madeOf hxs.2 (ih hxs.1)

end Registry

end PromptRegistry
