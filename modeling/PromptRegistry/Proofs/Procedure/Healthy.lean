import PromptRegistry.Proofs.Procedure
import PromptRegistry.Proofs.Storage.Healthy

/-!
# Procedures over healthy storages

`Settles Q E` says of a procedure that it makes no call which a healthy storage fails, and that it
ends in a value with `Q`, or in a failure with `E` before it has changed anything. Over a healthy
storage its runs end so, and every call of theirs is answered with a value (`Settles.run`).
-/

namespace PromptRegistry

/-- A call that a healthy storage answers with a value. -/
def Call.Admitted (c : Contents) : Call → Prop
  | .create p => c.holds p.name = false
  | .update p => c.holds p.name = true
  | _ => True

def Call.writes : (call : Call) → call.Answer → Bool
  | .create _, _ | .update _, _ | .save _, _ | .clear, _ => true
  | .delete _, found => found
  | .get _, _ | .list, _ | .contains _, _ | .count, _ => false

def Reply.Succeeds (r : Reply) : Prop := ∃ a, r.answer = .ok a

def Reply.Writes (r : Reply) : Prop := ∃ a, r.answer = .ok a ∧ r.call.writes a = true

theorem Storage.Healthy.answered {st : Storage σ} {contents : σ → Contents}
    (hst : st.Healthy contents) (h : call.Admitted (contents s)) :
    ∃ a, (st.answer call s).1 = .ok a ∧
      call.Effect (contents s) a (contents (st.answer call s).2) := by
  rcases hst.atomic call s with ⟨e, he, -⟩ | hanswered
  · have hsame := (hst call s).1
    rw [he] at hsame
    cases call with
    | list =>
      obtain ⟨_, _, hps, -⟩ := hsame
      cases hps
    | create p =>
      have hmemory : (memory.answer (.create p) (contents s)).1 = .ok p :=
        congrArg Prod.fst (if_neg (Bool.eq_false_iff.1 h))
      cases hsame.trans hmemory
    | update p =>
      have hmemory : (memory.answer (.update p) (contents s)).1 = .ok p :=
        congrArg Prod.fst (if_pos h)
      cases hsame.trans hmemory
    | _ => cases hsame
  · exact hanswered

namespace Procedure

def replies (st : Storage σ) : Procedure α → σ → List Reply
  | .done _, _ => []
  | .log _ next, s => next.replies st s
  | .call request next, s =>
    let (r, s) := st.answer request s
    ⟨request, r⟩ :: (next r).replies st s

/-- On contents, every call is admitted, and the procedure ends in a value with `Q`, or in a
failure with `E` and then without a change. Whether anything was changed is passed along. -/
def Settles (Q : α → Contents → Bool → Prop) (E : Failure → Prop) :
    Procedure α → Contents → Bool → Prop
  | .done (.ok a), c, written => Q a c written
  | .done (.error e), _, written => written = false ∧ E e
  | .log _ next, c, written => Settles Q E next c written
  | .call request next, c, written =>
    request.Admitted c ∧ ∀ a c', request.Effect c a c' →
      Settles Q E (next (.ok a)) c' (written || request.writes a)

/-- How a run ends, given whether anything was changed before it: with the contents it leaves and
the calls it made. -/
structure Settled (Q : α → Contents → Bool → Prop) (E : Failure → Prop) (before : Bool)
    (result : Except Failure α) (c : Contents) (replies : List Reply) : Prop where
  succeeds : ∀ r ∈ replies, r.Succeeds
  value : ∀ a, result = .ok a → ∃ written, Q a c written
  failure : ∀ e, result = .error e → E e ∧ before = false ∧ ∀ r ∈ replies, ¬r.Writes

theorem Settles.run {st : Storage σ} {contents : σ → Contents} (hst : st.Healthy contents)
    {p : Procedure α} {s : σ} (h : p.Settles Q E (contents s) written) :
    Settled Q E written (p.run st s).result (contents (p.run st s).state) (p.replies st s) := by
  induction p generalizing s written with
  | done r =>
    simp only [Procedure.run, replies]
    cases r with
    | ok a =>
      refine ⟨List.forall_mem_nil _, ?_, ?_⟩
      · rintro _ ⟨⟩
        exact ⟨written, h⟩
      · rintro _ ⟨⟩
    | error e =>
      refine ⟨List.forall_mem_nil _, ?_, ?_⟩
      · rintro _ ⟨⟩
      · rintro _ ⟨⟩
        exact ⟨h.2, h.1, List.forall_mem_nil _⟩
  | log e next ih => exact ih h
  | call request next ih =>
    obtain ⟨hadmitted, hnext⟩ := h
    obtain ⟨a, ha, heffect⟩ := hst.answered hadmitted
    have hrest := ih _ (hnext a _ heffect)
    simp only [Procedure.run, replies, ha]
    refine ⟨List.forall_mem_cons.2 ⟨⟨a, rfl⟩, hrest.succeeds⟩, hrest.value, fun e he => ?_⟩
    obtain ⟨hE, hwritten, hwrites⟩ := hrest.failure e he
    obtain ⟨hbefore, hcall⟩ := Bool.or_eq_false_iff.1 hwritten
    refine ⟨hE, hbefore, List.forall_mem_cons.2 ⟨?_, hwrites⟩⟩
    rintro ⟨_, ⟨⟩, htrue⟩
    exact Bool.false_ne_true (hcall.symm.trans htrue)

-- ---------------------------------------------------------------------------
-- Rules
-- ---------------------------------------------------------------------------

section
variable {Q : α → Contents → Bool → Prop} {E : Failure → Prop} {c : Contents} {written : Bool}

theorem Settles.pure (h : Q a c written) : (Pure.pure a : Procedure α).Settles Q E c written := h

theorem Settles.fail (h : E e) : (Procedure.fail e : Procedure α).Settles Q E c false := ⟨rfl, h⟩

theorem Settles.bind {p : Procedure β} {f : β → Procedure α}
    (h : p.Settles (fun b => (f b).Settles Q E) E c written) :
    (p >>= f).Settles Q E c written := by
  show (Procedure.bind f p).Settles Q E c written
  induction p generalizing c written with
  | done r => cases r <;> exact h
  | log e next ih => exact ih h
  | call request next ih => exact ⟨h.1, fun b c' hb => ih _ (h.2 b c' hb)⟩

theorem Settles.mono {Q' : α → Contents → Bool → Prop} (hQ : ∀ a c w, Q a c w → Q' a c w)
    {p : Procedure α} (h : p.Settles Q E c written) : p.Settles Q' E c written := by
  induction p generalizing c written with
  | done r =>
    cases r with
    | ok a => exact hQ _ _ _ h
    | error e => exact h
  | log e next ih => exact ih h
  | call request next ih => exact ⟨h.1, fun a c' ha => ih _ (h.2 a c' ha)⟩

theorem Settles.emit {Q : Unit → Contents → Bool → Prop} (h : Q () c written) :
    (Procedure.emit e).Settles Q E c written := h

theorem Settles.demand {r : Except ε α} (hE : ∀ e, r = .error e → E (.refused (refusal e)))
    (h : ∀ a, r = .ok a → Q a c false) : (Procedure.demand refusal r).Settles Q E c false := by
  cases r with
  | ok a => exact h a rfl
  | error e => exact ⟨rfl, hE e rfl⟩

theorem Settles.ofOption (hE : o = none → E e) (h : ∀ a, o = some a → Q a c false) :
    (Procedure.ofOption e o).Settles Q E c false := by
  cases o with
  | some a => exact h a rfl
  | none => exact ⟨rfl, hE rfl⟩

theorem Settles.ite {b : Prop} [Decidable b] {p q : Procedure α}
    (ht : b → p.Settles Q E c written) (hf : ¬b → q.Settles Q E c written) :
    (if b then p else q).Settles Q E c written := by
  split
  · exact ht ‹_›
  · exact hf ‹_›

theorem Settles.look {call : Call} {Q : call.Answer → Contents → Bool → Prop}
    (hadmitted : call.Admitted c) (hwrites : ∀ a, call.writes a = false)
    (h : ∀ a c', call.Effect c a c' → Q a c' written) :
    (Procedure.perform call).Settles Q E c written := by
  refine ⟨hadmitted, fun a c' ha => ?_⟩
  rw [hwrites, Bool.or_false]
  exact h a c' ha

theorem Settles.change {call : Call} {Q : call.Answer → Contents → Bool → Prop}
    (hadmitted : call.Admitted c) (hwrites : ∀ a, call.writes a = true)
    (h : ∀ a c', call.Effect c a c' → Q a c' true) :
    (Procedure.perform call).Settles Q E c written := by
  refine ⟨hadmitted, fun a c' ha => ?_⟩
  rw [hwrites, Bool.or_true]
  exact h a c' ha

theorem Settles.get {Q : Option Prompt → Contents → Bool → Prop}
    (h : Q (c.get? name.text) c written) : (Procedure.get name).Settles Q E c written := by
  refine .look trivial (fun _ => rfl) ?_
  rintro _ _ ⟨rfl, rfl⟩
  exact h

theorem Settles.list {Q : List Prompt → Contents → Bool → Prop} (h : ∀ ps, Q ps c written) :
    Procedure.list.Settles Q E c written := by
  refine .look trivial (fun _ => rfl) ?_
  rintro ps _ ⟨-, rfl⟩
  exact h ps

theorem Settles.count {Q : Nat → Contents → Bool → Prop} (h : Q c.size c written) :
    Procedure.count.Settles Q E c written := by
  refine .look trivial (fun _ => rfl) ?_
  rintro _ _ ⟨rfl, rfl⟩
  exact h

theorem Settles.contains {Q : Bool → Contents → Bool → Prop} (h : Q (c.holds name) c written) :
    (Procedure.contains name).Settles Q E c written := by
  refine .look trivial (fun _ => rfl) ?_
  rintro _ _ ⟨rfl, rfl⟩
  exact h

theorem Settles.create {Q : Prompt → Contents → Bool → Prop} {p : Prompt}
    (hfree : c.holds p.name = false) (h : Q p (c.put p) true) :
    (Procedure.create p).Settles Q E c written := by
  refine .change hfree (fun _ => rfl) ?_
  rintro q _ ⟨-, hq, rfl⟩
  rw [hq]
  exact h

theorem Settles.update {Q : Prompt → Contents → Bool → Prop} {p : Prompt}
    (hheld : c.holds p.name = true) (h : Q p (c.put p) true) :
    (Procedure.update p).Settles Q E c written := by
  refine .change hheld (fun _ => rfl) ?_
  rintro q _ ⟨-, hq, rfl⟩
  rw [hq]
  exact h

theorem Settles.delete {Q : Bool → Contents → Bool → Prop}
    (h : Q (c.holds name) (c.erase name.text) (c.holds name)) :
    (Procedure.delete name).Settles Q E c false := by
  refine ⟨trivial, ?_⟩
  rintro _ _ ⟨rfl, rfl⟩
  exact h

end

end Procedure

end PromptRegistry
