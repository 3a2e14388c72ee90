import PromptRegistry.Proofs.Registry.History

/-!
# What failures leave alone

An operation writes with one call at most, and what comes behind the call does not fail. Whatever is
kept, and be it under the wrong names, an operation that fails therefore leaves it as it was
(`Operation.spared_of_failure`), and so does one that only looks (`Operation.spared_of_reading`).
-/

namespace PromptRegistry.Registry

open Procedure (Untouched)

/-- Nothing is said of what succeeds; what fails has changed nothing. -/
def Spares (c : Contents) (p : Procedure α) : Prop :=
  p.Ensures (fun _ _ _ => True) (Untouched c) c []

section
variable {c : Contents} {now : Timestamp}

theorem updatePrompt_spares : Spares c (updatePrompt now name text) := by
  refine .bind (mutate_writes untouched_nil fun p _ => .pure ⟨rfl, untouched_nil, ?_⟩)
  exact .bind (.emit (.pure trivial))

theorem setPromptTag_spares : Spares c (setPromptTag now name key value) := by
  refine .bind (.demand untouched_nil fun _ _ => ?_)
  refine .bind (mutate_writes untouched_nil fun p _ => .pure ⟨rfl, untouched_nil, ?_⟩)
  exact .bind (.emit (.pure trivial))

theorem deletePromptTag_spares : Spares c (deletePromptTag now name key) := by
  refine mutate_writes untouched_nil fun p _ => ?_
  cases p.deleteTag? now key with
  | some q => exact .pure ⟨rfl, untouched_nil, trivial⟩
  | none =>
    exact .bind (.emit (.pure ⟨rfl, fun _ => ⟨rfl, by simp [Event.level]⟩, trivial⟩))

theorem createVersion_spares {d : NewVersion} : Spares c (createVersion now name d) := by
  refine .bind (.demand untouched_nil fun _ _ => ?_)
  refine .bind (fetch_finds untouched_nil fun p _ => .bind (.ofOption untouched_nil fun r _ => ?_))
  exact .bind (.update untouched_nil fun _ => .bind (.emit (.pure trivial)))

theorem register_spares {r : Registration} : Spares c (register now r) := by
  refine .bind (.demand untouched_nil fun _ _ => ?_)
  refine .bind (.demand untouched_nil fun _ _ => ?_)
  refine .bind (.demand untouched_nil fun _ _ => ?_)
  refine .bind (.get untouched_nil (.bind (.ofOption untouched_nil fun (v, q) _ => ?_)))
  refine .ite (fun _ => ?_) fun _ => ?_
  · exact .bind (.create untouched_nil fun _ => .bind (.emit (.pure trivial)))
  · exact .bind (.update untouched_nil fun _ => .bind (.emit (.pure trivial)))

theorem deleteVersion_spares : Spares c (deleteVersion now name n) := by
  refine .bind (.demand untouched_nil fun _ _ => ?_)
  refine .bind (fetch_finds untouched_nil fun p _ => ?_)
  refine .bind (.ofOption untouched_nil fun q _ => .bind (.update untouched_nil fun _ => ?_))
  exact .ite (fun _ => .bind (.emit (.emit trivial))) fun _ => .emit trivial

theorem setVersionTag_spares : Spares c (setVersionTag now name n key value) := by
  refine .bind (.demand untouched_nil fun _ _ => ?_)
  refine .bind (.demand untouched_nil fun _ _ => ?_)
  refine .bind (mutate_writes untouched_nil fun p _ => ?_)
  refine .ofOption untouched_nil fun q hq => ⟨rfl, untouched_nil, .bind (.emit ?_)⟩
  obtain ⟨v, hv⟩ := Option.isSome_iff_exists.1 (Prompt.isSome_setVersionTag? hq)
  exact detailsOf_ensures hv trivial

theorem deleteVersionTag_spares : Spares c (deleteVersionTag now name n key) := by
  refine .bind (.demand untouched_nil fun _ _ => ?_)
  refine .bind (mutate_writes untouched_nil fun p _ => ?_)
  refine .ofOption untouched_nil fun q hq => ⟨rfl, untouched_nil, ?_⟩
  obtain ⟨⟨changed, q⟩, hdeleted, rfl⟩ := Option.map_eq_some_iff.1 hq
  obtain ⟨v, hv⟩ := Option.isSome_iff_exists.1 (Prompt.isSome_deleteVersionTag? hdeleted)
  exact detailsOf_ensures hv trivial

theorem setAlias_spares : Spares c (setAlias now name a n) := by
  refine .bind (.demand untouched_nil fun _ _ => ?_)
  refine .bind (.demand untouched_nil fun _ _ => ?_)
  refine .bind (fetch_finds untouched_nil fun p _ => ?_)
  refine .bind (.ofOption untouched_nil fun q hq => ?_)
  refine .bind (.update untouched_nil fun _ => .bind (.emit ?_))
  obtain ⟨hn, rfl⟩ := Prompt.setAlias?_eq_some hq
  obtain ⟨v, hv⟩ := Option.isSome_iff_exists.1 hn
  exact detailsOf_ensures hv trivial

theorem deleteAlias_spares : Spares c (deleteAlias now name a) := by
  refine .bind (mutate_writes untouched_nil fun p _ => ?_)
  exact .ofOption untouched_nil fun q _ => ⟨rfl, untouched_nil, .emit trivial⟩

theorem Operation.procedure_spares (sizes : Search.PageSizes) (now : Timestamp) (op : Operation) :
    Spares c (op.procedure sizes now) := by
  cases hop : op.isReading with
  | true => exact .mono (fun _ _ _ _ => trivial) (procedure_reads hop c [] (by simp))
  | false =>
    cases op with
    | createPrompt d => exact .mono (fun _ _ _ _ => trivial) createPrompt_ensures
    | updatePrompt name text => exact updatePrompt_spares
    | deletePrompt name => exact .mono (fun _ _ _ _ => trivial) (@deletePrompt_ensures c now name)
    | setPromptTag name key value => exact setPromptTag_spares
    | deletePromptTag name key => exact deletePromptTag_spares
    | createVersion name d => exact createVersion_spares
    | register r => exact register_spares
    | deleteVersion name n => exact deleteVersion_spares
    | setVersionTag name n key value => exact setVersionTag_spares
    | deleteVersionTag name n key => exact deleteVersionTag_spares
    | setAlias name a n => exact setAlias_spares
    | deleteAlias name a => exact deleteAlias_spares
    | _ => cases hop

end

variable {st : Storage σ} {contents : σ → Contents} {s : σ} {op : Operation}

theorem Operation.spared_of_failure (hst : st.Atomic contents)
    (h : (op.run sizes st now s).result = .error e) :
    contents (op.run sizes st now s).state = contents s := by
  have hspares := Procedure.Ensures.run hst (op.procedure_spares (c := contents s) sizes now)
  unfold run at h ⊢
  rw [h] at hspares
  exact hspares.1

theorem Operation.spared_of_reading (hst : st.Atomic contents) (hop : op.isReading = true) :
    contents (op.run sizes st now s).state = contents s :=
  (procedure_reads hop).run hst s

end PromptRegistry.Registry
