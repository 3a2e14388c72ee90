import PromptRegistry.Procedure
import PromptRegistry.Proofs.Storage.Atomic

/-!
# What procedures ensure

`Ensures Q E` says of a procedure that it ends in a value with `Q` or in a failure with `E`,
whichever of its calls fail. Over an atomic storage its runs end so (`Ensures.run`). A procedure
that `Reads` leaves the contents as they are and reports nothing above the lowest level.
-/

namespace PromptRegistry.Procedure

/-- What may be said of a result, the contents it leaves and the events up to it. -/
abbrev Post (α : Type) := α → Contents → List Event → Prop

/-- On contents and after events, the procedure ends in a value with `Q` or in a failure with
`E`, where any call may fail and changes nothing if it does. -/
def Ensures (Q : Post α) (E : Post Failure) : Procedure α → Contents → List Event → Prop
  | .done (.ok a), c, es => Q a c es
  | .done (.error e), c, es => E e c es
  | .log e next, c, es => Ensures Q E next c (es ++ [e])
  | .call request next, c, es =>
    (∀ e, Ensures Q E (next (.error e)) c es) ∧
      ∀ a c', request.Effect c a c' → Ensures Q E (next (.ok a)) c' es

def Post.of (Q : Post α) (E : Post Failure) : Except Failure α → Contents → List Event → Prop
  | .ok a => Q a
  | .error e => E e

theorem Ensures.run {st : Storage σ} {contents : σ → Contents} (hst : st.Atomic contents)
    {p : Procedure α} {s : σ} (h : p.Ensures Q E (contents s) es) :
    Post.of Q E (p.run st s).result (contents (p.run st s).state) (es ++ (p.run st s).events) := by
  induction p generalizing s es with
  | done r => cases r <;> simpa [Procedure.run, Ensures, Post.of] using h
  | log e next ih => simpa [Procedure.run] using ih h
  | call request next ih =>
    obtain ⟨herror, hok⟩ := h
    simp only [Procedure.run]
    rcases hst request s with ⟨e, he, hc⟩ | ⟨a, ha, hc⟩
    · rw [he]
      exact ih _ (hc ▸ herror e)
    · rw [ha]
      exact ih _ (hok a _ hc)

theorem Ensures.mono {Q Q' : Post α} (hQ : ∀ a c es, Q a c es → Q' a c es) {p : Procedure α}
    (h : p.Ensures Q E c es) : p.Ensures Q' E c es := by
  induction p generalizing c es with
  | done r =>
    cases r with
    | ok a => exact hQ _ _ _ h
    | error e => exact h
  | log e next ih => exact ih h
  | call request next ih => exact ⟨fun e => ih _ (h.1 e), fun a c' ha => ih _ (h.2 a c' ha)⟩

-- ---------------------------------------------------------------------------
-- Rules
-- ---------------------------------------------------------------------------

section
variable {Q : Post α} {E : Post Failure} {c : Contents} {es : List Event}

theorem Ensures.pure (h : Q a c es) : (Pure.pure a : Procedure α).Ensures Q E c es := h

theorem Ensures.fail (h : E e c es) : (Procedure.fail e : Procedure α).Ensures Q E c es := h

theorem Ensures.bind {p : Procedure β} {f : β → Procedure α}
    (h : p.Ensures (fun b => (f b).Ensures Q E) E c es) : (p >>= f).Ensures Q E c es := by
  show (Procedure.bind f p).Ensures Q E c es
  induction p generalizing c es with
  | done r => cases r <;> exact h
  | log e next ih => exact ih h
  | call request next ih => exact ⟨fun e => ih _ (h.1 e), fun b c' hb => ih _ (h.2 b c' hb)⟩

theorem Ensures.emit {Q : Post Unit} (h : Q () c (es ++ [e])) :
    (Procedure.emit e).Ensures Q E c es := h

theorem Ensures.demand {r : Except ε α} (hE : ∀ e, E e c es) (h : ∀ a, r = .ok a → Q a c es) :
    (Procedure.demand refusal r).Ensures Q E c es := by
  cases r with
  | ok a => exact h a rfl
  | error e => exact hE _

theorem Ensures.ofOption (hE : ∀ e, E e c es) (h : ∀ a, o = some a → Q a c es) :
    (Procedure.ofOption e o).Ensures Q E c es := by
  cases o with
  | some a => exact h a rfl
  | none => exact hE _

theorem Ensures.ite {b : Prop} [Decidable b] {p q : Procedure α}
    (ht : b → p.Ensures Q E c es) (hf : ¬b → q.Ensures Q E c es) :
    (if b then p else q).Ensures Q E c es := by
  split
  · exact ht ‹_›
  · exact hf ‹_›

theorem Ensures.perform {call : Call} {Q : Post call.Answer} (hE : ∀ e, E e c es)
    (h : ∀ a c', call.Effect c a c' → Q a c' es) : (Procedure.perform call).Ensures Q E c es :=
  ⟨hE, h⟩

theorem Ensures.get {Q : Post (Option Prompt)} (hE : ∀ e, E e c es)
    (h : Q (c.get? name.text) c es) : (Procedure.get name).Ensures Q E c es := by
  refine .perform hE ?_
  rintro _ _ ⟨rfl, rfl⟩
  exact h

theorem Ensures.contains {Q : Post Bool} (hE : ∀ e, E e c es) (h : Q (c.holds name) c es) :
    (Procedure.contains name).Ensures Q E c es := by
  refine .perform hE ?_
  rintro _ _ ⟨rfl, rfl⟩
  exact h

theorem Ensures.create {Q : Post Prompt} (hE : ∀ e, E e c es)
    (h : c.holds p.name = false → Q p (c.put p) es) : (Procedure.create p).Ensures Q E c es := by
  refine .perform hE ?_
  rintro q _ ⟨hp, hq, rfl⟩
  rw [hq]
  exact h hp

theorem Ensures.update {Q : Post Prompt} (hE : ∀ e, E e c es)
    (h : c.holds p.name = true → Q p (c.put p) es) : (Procedure.update p).Ensures Q E c es := by
  refine .perform hE ?_
  rintro q _ ⟨hp, hq, rfl⟩
  rw [hq]
  exact h hp

theorem Ensures.delete {Q : Post Bool} (hE : ∀ e, E e c es)
    (h : Q (c.holds name) (c.erase name.text) es) : (Procedure.delete name).Ensures Q E c es := by
  refine .perform hE ?_
  rintro _ _ ⟨rfl, rfl⟩
  exact h

end

-- ---------------------------------------------------------------------------
-- Reading
-- ---------------------------------------------------------------------------

/-- The contents are as they were, and every event is of the lowest level. -/
def Untouched (c : Contents) : Post α := fun _ c' es => c' = c ∧ ∀ e ∈ es, e.level = .debug

/-- However it ends, the procedure changes nothing and reports nothing above the lowest level. -/
def Reads (p : Procedure α) : Prop :=
  ∀ c es, (∀ e ∈ es, e.level = .debug) → p.Ensures (Untouched c) (Untouched c) c es

theorem Reads.run {st : Storage σ} {contents : σ → Contents} {p : Procedure α} (hp : p.Reads)
    (hst : st.Atomic contents) (s : σ) : contents (p.run st s).state = contents s := by
  have h := (hp (contents s) [] (by simp)).run hst
  cases hr : (p.run st s).result with
  | ok a =>
    rw [hr] at h
    exact h.1
  | error e =>
    rw [hr] at h
    exact h.1

theorem Reads.pure : (Pure.pure a : Procedure α).Reads := fun _ _ hes => ⟨rfl, hes⟩

theorem Reads.bind {p : Procedure α} {f : α → Procedure β} (hp : p.Reads) (hf : ∀ a, (f a).Reads) :
    (p >>= f).Reads := by
  intro c es hes
  refine .bind (.mono ?_ (hp c es hes))
  rintro a c' es' ⟨rfl, hes'⟩
  exact hf a _ _ hes'

theorem Reads.emit (h : e.level = .debug) : (Procedure.emit e).Reads := by
  intro c es hes
  refine .emit ⟨rfl, ?_⟩
  simpa [or_imp, forall_and, h] using hes

theorem Reads.demand {r : Except ε α} : (Procedure.demand refusal r).Reads := fun _ _ hes =>
  .demand (fun _ => ⟨rfl, hes⟩) fun _ _ => ⟨rfl, hes⟩

theorem Reads.ofOption {o : Option α} : (Procedure.ofOption e o).Reads := fun _ _ hes =>
  .ofOption (fun _ => ⟨rfl, hes⟩) fun _ _ => ⟨rfl, hes⟩

theorem Reads.perform {call : Call} (h : ∀ c a c', call.Effect c a c' → c' = c) :
    (Procedure.perform call).Reads := fun c _ hes =>
  .perform (fun _ => ⟨rfl, hes⟩) fun a c' ha => ⟨h c a c' ha, hes⟩

theorem Reads.get : (Procedure.get name).Reads := .perform fun _ _ _ h => h.2

theorem Reads.list : Procedure.list.Reads := .perform fun _ _ _ h => h.2

theorem Reads.count : Procedure.count.Reads := .perform fun _ _ _ h => h.2

end PromptRegistry.Procedure
