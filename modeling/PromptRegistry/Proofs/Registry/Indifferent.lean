import PromptRegistry.Proofs.Registry.Paging
import PromptRegistry.Proofs.Storage.Healthy

/-!
# Procedures that do not see the order of a listing

A procedure is `Indifferent` if it goes on alike in whatever order prompts are listed to it. Over a
healthy storage it runs as over the dictionary of the contents (`Indifferent.run`). Every operation
is indifferent: the only one that lists prompts sorts them.
-/

namespace PromptRegistry

abbrev Distinct (ps : List Prompt) : Prop := ps.Pairwise fun p q => p.name.text ≠ q.name.text

namespace Procedure

/-- Whatever order prompts are listed in, the procedure goes on in the same way. -/
def Indifferent : Procedure α → Prop
  | .done _ => True
  | .log _ next => Indifferent next
  | .call .list next =>
    (∀ r, Indifferent (next r)) ∧
      ∀ ps qs : List Prompt, ps.Perm qs → Distinct ps → next (.ok ps) = next (.ok qs)
  | .call _ next => ∀ r, Indifferent (next r)

-- ---------------------------------------------------------------------------
-- Rules
-- ---------------------------------------------------------------------------

theorem Indifferent.call {call : Call} {next : Except Failure call.Answer → Procedure α}
    (hcall : call ≠ .list) (h : ∀ r, (next r).Indifferent) :
    (Procedure.call call next).Indifferent := by
  cases call with
  | list => exact absurd rfl hcall
  | _ => exact h

theorem Indifferent.next {call : Call} {next : Except Failure call.Answer → Procedure α}
    (h : (Procedure.call call next).Indifferent) : ∀ r, (next r).Indifferent := by
  cases call with
  | list => exact h.1
  | _ => exact h

theorem Indifferent.pure : (Pure.pure a : Procedure α).Indifferent := trivial

theorem Indifferent.bind {p : Procedure α} {f : α → Procedure β} (hp : p.Indifferent)
    (hf : ∀ a, (f a).Indifferent) : (p >>= f).Indifferent := by
  show (Procedure.bind f p).Indifferent
  induction p with
  | done r =>
    cases r with
    | ok a => exact hf a
    | error e => trivial
  | log e next ih => exact ih hp
  | call call next ih =>
    by_cases hcall : call = .list
    · subst hcall
      refine ⟨fun r => ih r (hp.1 r), fun ps qs hperm hps => ?_⟩
      exact congrArg (Procedure.bind f) (hp.2 ps qs hperm hps)
    · exact .call hcall fun r => ih r (hp.next r)

theorem Indifferent.emit : (Procedure.emit e).Indifferent := trivial

theorem Indifferent.fail : (Procedure.fail e : Procedure α).Indifferent := trivial

theorem Indifferent.demand {r : Except ε α} : (Procedure.demand refusal r).Indifferent := by
  cases r <;> trivial

theorem Indifferent.ofOption {o : Option α} : (Procedure.ofOption e o).Indifferent := by
  cases o <;> trivial

theorem Indifferent.ite {b : Prop} [Decidable b] {p q : Procedure α} (hp : p.Indifferent)
    (hq : q.Indifferent) : (if b then p else q).Indifferent := by
  split
  · exact hp
  · exact hq

theorem Indifferent.perform {call : Call} (h : call ≠ .list) :
    (Procedure.perform call).Indifferent := .call h fun _ => trivial

theorem Indifferent.list {f : List Prompt → Procedure α} (hf : ∀ ps, (f ps).Indifferent)
    (h : ∀ ps qs, ps.Perm qs → Distinct ps → f ps = f qs) :
    (Procedure.list >>= f).Indifferent := by
  refine ⟨fun r => ?_, h⟩
  cases r with
  | ok ps => exact hf ps
  | error e => trivial

-- ---------------------------------------------------------------------------
-- Runs
-- ---------------------------------------------------------------------------

end Procedure

theorem Contents.Keyed.distinct_of_perm {c : Contents} (hc : c.Keyed) {ps : List Prompt}
    (h : ps.Perm c.values) : Distinct ps :=
  h.symm.pairwise hc.names_pairwise fun h => Ne.symm h

theorem Call.Effect.keyed {call : Call} {a : call.Answer} {c c' : Contents}
    (h : call.Effect c a c') (hc : c.Keyed) : c'.Keyed := by
  cases call with
  | get name | list | contains name | count =>
    obtain ⟨-, rfl⟩ := h
    exact hc
  | create p | update p =>
    obtain ⟨-, -, rfl⟩ := h
    exact hc.put p
  | save p =>
    obtain ⟨-, rfl⟩ := h
    exact hc.put p
  | delete name =>
    obtain ⟨-, rfl⟩ := h
    exact hc.erase name.text
  | clear =>
    obtain rfl : c' = ∅ := h
    exact Contents.keyed_empty

theorem Contents.Keyed.answer {c : Contents} (hc : c.Keyed) (call : Call) :
    (Storage.memory.answer call c).2.Keyed := by
  rcases Storage.memory_atomic call c with ⟨e, -, hstate⟩ | ⟨a, -, heffect⟩
  · rw [show (Storage.memory.answer call c).2 = c from hstate]
    exact hc
  · exact heffect.keyed hc

def Outcome.seen (view : σ → τ) (o : Outcome σ α) : Outcome τ α :=
  ⟨o.result, view o.state, o.events⟩

section
variable {σ : Type} {st : Storage σ} {contents : σ → Contents}

/-- Over a healthy storage a procedure runs as over the dictionary of the contents. -/
theorem Procedure.Indifferent.run (hst : st.Healthy contents) {p : Procedure α}
    (hp : p.Indifferent) {s : σ} (hc : (contents s).Keyed) :
    (p.run st s).seen contents = p.run .memory (contents s) := by
  induction p generalizing s with
  | done r => rfl
  | log e next ih =>
    have hnext := ih hp hc
    simp only [Procedure.run, ← hnext]
    rfl
  | call call next ih =>
    obtain ⟨hanswer, hstate⟩ := hst call s
    have hkeyed := hc.answer call
    rw [← hstate] at hkeyed
    have hnext := ih (st.answer call s).1 (hp.next _) hkeyed
    rw [hstate] at hnext
    -- what the two storages answer may differ in the order of a listing only
    have hsame : next (st.answer call s).1 = next (Storage.memory.answer call (contents s)).1 := by
      cases call with
      | list =>
        obtain ⟨ps, qs, hps, hqs, hperm⟩ := hanswer
        rw [hps, hqs]
        cases hqs
        exact hp.2 ps _ hperm (hc.distinct_of_perm hperm)
      | _ => exact congrArg next hanswer
    rw [hsame] at hnext
    simp only [Procedure.run, hsame]
    exact hnext

end

namespace Registry

open Procedure (Indifferent)

-- ---------------------------------------------------------------------------
-- Operations
-- ---------------------------------------------------------------------------

theorem fetch_indifferent : (fetch name).Indifferent :=
  .bind .demand fun _ => .bind (.perform nofun) fun _ => .ofOption

theorem mutate_indifferent {change : Prompt → Procedure Prompt}
    (h : ∀ p, (change p).Indifferent) : (mutate name change).Indifferent :=
  .bind fetch_indifferent fun p => .bind (h p) fun _ => .perform nofun

theorem getPrompt_indifferent : (getPrompt name).Indifferent :=
  .bind .demand fun _ => .bind .emit fun _ => .perform nofun

theorem resolve_indifferent : (resolve name reference).Indifferent := by
  refine .bind getPrompt_indifferent fun found => ?_
  cases found with
  | some p => exact .pure
  | none => exact .pure

theorem loadUri_indifferent : (loadUri uri).Indifferent :=
  .bind .emit fun _ => .bind resolve_indifferent fun _ => .ofOption

theorem load_indifferent : (load uri).Indifferent :=
  .bind .demand fun _ => loadUri_indifferent

theorem getVersion_indifferent : (getVersion name n).Indifferent :=
  .bind .demand fun _ => resolve_indifferent

theorem formatUri_indifferent : (formatUri uri values allowPartial).Indifferent :=
  .bind loadUri_indifferent fun _ => .bind .demand fun _ => .bind .emit fun _ => .pure

theorem createPrompt_indifferent : (createPrompt now d).Indifferent :=
  .bind .demand fun _ => .bind .demand fun _ => .bind .emit fun _ =>
    .bind (.perform nofun) fun _ =>
      .ite .fail (.bind (.perform nofun) fun _ => .bind .emit fun _ => .pure)

theorem setPromptTag_indifferent : (setPromptTag now name key value).Indifferent :=
  .bind .demand fun _ => .bind (mutate_indifferent fun _ => .pure) fun _ =>
    .bind .emit fun _ => .pure

theorem createVersion_indifferent : (createVersion now name d).Indifferent :=
  .bind .demand fun _ => .bind fetch_indifferent fun _ => .bind .ofOption fun _ =>
    .bind (.perform nofun) fun _ => .bind .emit fun _ => .pure

theorem register_indifferent : (register now r).Indifferent :=
  .bind .demand fun _ => .bind .demand fun _ => .bind .demand fun _ =>
    .bind (.perform nofun) fun _ => .bind .ofOption fun _ =>
      .ite (.bind (.perform nofun) fun _ => .bind .emit fun _ => .pure)
        (.bind (.perform nofun) fun _ => .bind .emit fun _ => .pure)

theorem deletePromptTag_indifferent : (deletePromptTag now name key).Indifferent := by
  refine mutate_indifferent fun p => ?_
  split
  · exact .pure
  · exact .bind .emit fun _ => .pure

/-- A search sorts what is listed, and does not see in what order it was. -/
theorem searchPrompts_indifferent : (searchPrompts sizes q).Indifferent := by
  refine .bind .demand fun f => .bind .demand fun order => .bind .demand fun size =>
    .bind .demand fun offset => .list (fun _ => .bind .emit fun _ => .pure) ?_
  intro ps qs hperm hps
  simp only [Search.sortPrompts_eq_of_perm (hperm.filter f.holds) (hps.filter _)]

theorem Operation.procedure_indifferent (op : Operation) :
    (op.procedure sizes now).Indifferent := by
  cases op with
  | createPrompt d => exact createPrompt_indifferent
  | getPrompt name => exact getPrompt_indifferent
  | requirePrompt name => exact .bind getPrompt_indifferent fun _ => .ofOption
  | updatePrompt name text =>
    exact .bind (mutate_indifferent fun _ => .pure) fun _ => .bind .emit fun _ => .pure
  | deletePrompt name =>
    exact .bind .demand fun _ => .bind (.perform nofun) fun _ => .ite .emit .fail
  | setPromptTag name key value => exact setPromptTag_indifferent
  | deletePromptTag name key => exact deletePromptTag_indifferent
  | searchPrompts q => exact searchPrompts_indifferent
  | createVersion name d => exact createVersion_indifferent
  | register r => exact register_indifferent
  | getVersion name n => exact getVersion_indifferent
  | getByAlias name a => exact resolve_indifferent
  | load uri => exact load_indifferent
  | deleteVersion name n =>
    exact .bind .demand fun _ => .bind fetch_indifferent fun _ => .bind .ofOption fun _ =>
      .bind (.perform nofun) fun _ => .ite (.bind .emit fun _ => .emit) .emit
  | setVersionTag name n key value =>
    exact .bind .demand fun _ => .bind .demand fun _ =>
      .bind (mutate_indifferent fun _ => .ofOption) fun _ => .bind .emit fun _ => .ofOption
  | deleteVersionTag name n key =>
    exact .bind .demand fun _ => .bind (mutate_indifferent fun _ => .ofOption) fun _ => .ofOption
  | searchVersions name size token =>
    exact .bind .demand fun _ => .bind .demand fun _ =>
      .bind (.bind getPrompt_indifferent fun _ => .ofOption) fun _ => .pure
  | setAlias name a n =>
    exact .bind .demand fun _ => .bind .demand fun _ => .bind fetch_indifferent fun _ =>
      .bind .ofOption fun _ => .bind (.perform nofun) fun _ => .bind .emit fun _ => .ofOption
  | deleteAlias name a =>
    exact .bind (mutate_indifferent fun _ => .ofOption) fun _ => .emit
  | format uri values allowPartial => exact .bind .demand fun _ => formatUri_indifferent
  | formatVersion name n values allowPartial => exact .bind .demand fun _ => formatUri_indifferent
  | count => exact .perform nofun

end Registry

end PromptRegistry
