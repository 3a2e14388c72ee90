import Mathlib.Order.Defs.Unbundled
import PromptRegistry.Proofs.Time.Order
import PromptRegistry.Search.Order

/-!
# Sorted prompts

The order of prompts under clauses is total and transitive, so that prompts are sorted by it
(`sortPrompts_pairwise`); and it tells prompts of different names apart (`sortPrompts_pairwise_lt`).
In words: the first clause that tells two prompts apart decides, and if none does their names
(`Precedes`). There is one way to put prompts of different names in that order
(`sortPrompts_unique`).
-/

namespace PromptRegistry.Search

open Std (ReflCmp TransCmp)

-- ---------------------------------------------------------------------------
-- The order that is computed
-- ---------------------------------------------------------------------------

namespace OrderClause

instance (field : OrderField) : TransCmp fun a b => compareField a b field := by
  cases field with
  | name => exact inferInstanceAs (TransCmp (compareOn fun p : Prompt => p.name.text))
  | createdAt => exact inferInstanceAs (TransCmp (compareOn Prompt.createdAt))
  | updatedAt => exact inferInstanceAs (TransCmp (compareOn Prompt.updatedAt))

instance (c : OrderClause) : TransCmp c.compare := by
  obtain ⟨field, descending⟩ := c
  cases descending with
  | false => exact inferInstanceAs (TransCmp fun a b => compareField a b field)
  | true =>
    have hfield : TransCmp fun a b => compareField a b field := inferInstance
    have hswap : (⟨field, true⟩ : OrderClause).compare = fun a b => compareField b a field := by
      funext a b
      exact hfield.eq_swap.symm
    rw [hswap]
    exact hfield.opposite

instance (order : List OrderClause) : TransCmp fun a b => compareAll a b order := by
  induction order with
  | nil => exact inferInstanceAs (TransCmp fun a b => compareField a b .name)
  | cons c cs ih =>
    exact inferInstanceAs (TransCmp (compareLex c.compare fun a b => compareAll a b cs))

/-- Prompts that no clause tells apart are told apart by their names. -/
theorem name_eq_of_compareAll {a b : Prompt} (h : compareAll a b order = .eq) :
    a.name.text = b.name.text := by
  induction order with
  | nil => exact Std.LawfulEqOrd.eq_of_compare h
  | cons c cs ih => exact ih (Ordering.then_eq_eq.1 h).2

end OrderClause

open OrderClause (compareAll)

theorem sortPrompts_perm (order : List OrderClause) (ps : List Prompt) :
    (sortPrompts order ps).Perm ps := List.mergeSort_perm ..

theorem sortPrompts_pairwise (order : List OrderClause) (ps : List Prompt) :
    (sortPrompts order ps).Pairwise fun a b => (compareAll a b order).isLE = true := by
  have horder : TransCmp fun a b => compareAll a b order := inferInstance
  have htrans (a b c : Prompt) (hab : (compareAll a b order).isLE = true)
      (hbc : (compareAll b c order).isLE = true) : (compareAll a c order).isLE = true :=
    horder.isLE_trans hab hbc
  have htotal (a b : Prompt) :
      ((compareAll a b order).isLE || (compareAll b a order).isLE) = true := by
    have hswap : compareAll a b order = (compareAll b a order).swap := horder.eq_swap
    rw [hswap]
    cases compareAll b a order <;> rfl
  exact List.pairwise_mergeSort htrans htotal ps

/-- Prompts of different names come out in strictly ascending order, so that there is just one
such list. -/
theorem sortPrompts_pairwise_lt (order : List OrderClause) {ps : List Prompt}
    (hps : ps.Pairwise fun a b => a.name.text ≠ b.name.text) :
    (sortPrompts order ps).Pairwise fun a b => compareAll a b order = .lt := by
  have hne : (sortPrompts order ps).Pairwise fun a b => a.name.text ≠ b.name.text :=
    (sortPrompts_perm order ps).symm.pairwise hps fun h => Ne.symm h
  refine ((sortPrompts_pairwise order ps).and hne).imp fun {a b} h => ?_
  cases hcompare : compareAll a b order with
  | lt => rfl
  | eq => exact absurd (OrderClause.name_eq_of_compareAll hcompare) h.2
  | gt => rw [hcompare] at h; cases h.1

-- ---------------------------------------------------------------------------
-- The order in words
-- ---------------------------------------------------------------------------

def OrderField.Before (a b : Prompt) : OrderField → Prop
  | .name => a.name.text < b.name.text
  | .createdAt => a.createdAt < b.createdAt
  | .updatedAt => a.updatedAt < b.updatedAt

def OrderField.Level (a b : Prompt) : OrderField → Prop
  | .name => a.name.text = b.name.text
  | .createdAt => a.createdAt = b.createdAt
  | .updatedAt => a.updatedAt = b.updatedAt

def OrderClause.Before (c : OrderClause) (a b : Prompt) : Prop :=
  if c.descending then c.field.Before b a else c.field.Before a b

/-- The first clause that tells two prompts apart decides which comes first, and if none does
their names do. -/
inductive Precedes : List OrderClause → Prompt → Prompt → Prop
  | name (h : a.name.text < b.name.text) : Precedes [] a b
  | decided (h : c.Before a b) : Precedes (c :: cs) a b
  | level (h : c.field.Level a b) (hrest : Precedes cs a b) : Precedes (c :: cs) a b

variable {a b : Prompt} {order : List OrderClause} {ps qs : List Prompt}

theorem OrderField.compareField_eq_lt (field : OrderField) :
    OrderClause.compareField a b field = .lt ↔ field.Before a b := by
  cases field with
  | name => exact compareOfLessAndEq_eq_lt
  | createdAt | updatedAt => exact Timestamp.compare_eq_lt

theorem OrderField.compareField_eq_eq (field : OrderField) :
    OrderClause.compareField a b field = .eq ↔ field.Level a b := by
  cases field with
  | name => exact Std.LawfulEqOrd.compare_eq_iff_eq
  | createdAt | updatedAt => exact Timestamp.compare_eq_eq

theorem OrderClause.compare_eq_lt (c : OrderClause) : c.compare a b = .lt ↔ c.Before a b := by
  obtain ⟨field, descending⟩ := c
  cases descending with
  | false => exact field.compareField_eq_lt
  | true =>
    have horder : TransCmp fun a b => compareField a b field := inferInstance
    show (compareField a b field).swap = .lt ↔ field.Before b a
    rw [← horder.eq_swap]
    exact field.compareField_eq_lt

theorem OrderClause.compare_eq_eq (c : OrderClause) : c.compare a b = .eq ↔ c.field.Level a b := by
  obtain ⟨field, descending⟩ := c
  rw [← field.compareField_eq_eq]
  cases descending with
  | false => exact Iff.rfl
  | true => exact Ordering.swap_eq_eq

theorem compareAll_eq_lt : compareAll a b order = .lt ↔ Precedes order a b := by
  induction order with
  | nil =>
    constructor
    · intro h
      exact .name (compareOfLessAndEq_eq_lt.1 h)
    · rintro ⟨h⟩
      exact compareOfLessAndEq_eq_lt.2 h
  | cons c cs ih =>
    rw [compareAll, Ordering.then_eq_lt, c.compare_eq_lt, c.compare_eq_eq, ih]
    constructor
    · rintro (h | ⟨h, hrest⟩)
      · exact .decided h
      · exact .level h hrest
    · intro h
      cases h with
      | decided h => exact .inl h
      | level h hrest => exact .inr ⟨h, hrest⟩

instance : Decidable (Precedes order a b) := decidable_of_iff _ compareAll_eq_lt

instance (order : List OrderClause) : IsStrictOrder Prompt (Precedes order) where
  irrefl a h := by
    have horder : ReflCmp fun a b => compareAll a b order := inferInstance
    cases (compareAll_eq_lt.2 h).symm.trans horder.compare_self
  trans a b c hab hbc := by
    have horder : TransCmp fun a b => compareAll a b order := inferInstance
    exact compareAll_eq_lt.1 (horder.lt_trans (compareAll_eq_lt.2 hab) (compareAll_eq_lt.2 hbc))

-- ---------------------------------------------------------------------------
-- One sorted list
-- ---------------------------------------------------------------------------

theorem eq_of_perm_of_precedes (h : ps.Perm qs) (hps : ps.Pairwise (Precedes order))
    (hqs : qs.Pairwise (Precedes order)) : ps = qs :=
  h.eq_of_pairwise (fun _ _ _ _ hab hba => absurd hba (asymm hab)) hps hqs

theorem sortPrompts_precedes (order : List OrderClause)
    (hps : ps.Pairwise fun a b => a.name.text ≠ b.name.text) :
    (sortPrompts order ps).Pairwise (Precedes order) :=
  (sortPrompts_pairwise_lt order hps).imp compareAll_eq_lt.1

theorem sortPrompts_eq_of_perm (h : ps.Perm qs)
    (hps : ps.Pairwise fun a b => a.name.text ≠ b.name.text) (order : List OrderClause) :
    sortPrompts order ps = sortPrompts order qs := by
  have hqs := h.pairwise hps fun h => Ne.symm h
  have hperm := (sortPrompts_perm order ps).trans (h.trans (sortPrompts_perm order qs).symm)
  exact eq_of_perm_of_precedes hperm (sortPrompts_precedes order hps)
    (sortPrompts_precedes order hqs)

/-- Prompts of different names are put in the order that the clauses ask for, one after another,
and then the names. No other list of the same prompts is in that order, so that it does not matter
in which order they came. -/
theorem sortPrompts_unique (order : List OrderClause)
    (hps : ps.Pairwise fun a b => a.name.text ≠ b.name.text) :
    IsStrictOrder Prompt (Precedes order) ∧ (sortPrompts order ps).Perm ps ∧
      (sortPrompts order ps).Pairwise (Precedes order) ∧
      (∀ qs, qs.Perm ps → qs.Pairwise (Precedes order) → qs = sortPrompts order ps) ∧
      ∀ qs, qs.Perm ps → sortPrompts order qs = sortPrompts order ps := by
  have hperm := sortPrompts_perm order ps
  have hsorted := sortPrompts_precedes order hps
  refine ⟨inferInstance, hperm, hsorted, fun qs hqs h => ?_, fun qs hqs => ?_⟩
  · exact eq_of_perm_of_precedes (hqs.trans hperm.symm) h hsorted
  · exact (sortPrompts_eq_of_perm hqs.symm hps order).symm

theorem sortPrompts_unique_three :
    let prompt (seconds : Int) (name : PromptName) : Prompt := .new ⟨seconds, 0⟩ name none ∅
    let alpha := prompt 1 ⟨"alpha", rfl⟩
    let beta := prompt 1 ⟨"beta", rfl⟩
    let gamma := prompt 2 ⟨"gamma", rfl⟩
    let order : List OrderClause := [⟨.createdAt, true⟩, ⟨.name, false⟩, ⟨.name, true⟩]
    sortPrompts order [beta, alpha, gamma] = [gamma, alpha, beta] := by
  intro prompt alpha beta gamma order
  have hnames : [beta, alpha, gamma].Pairwise fun a b => a.name.text ≠ b.name.text := by decide
  have hsorted : [gamma, alpha, beta].Pairwise (Precedes order) := by decide +kernel
  exact ((sortPrompts_unique order hnames).2.2.2.1 _ (List.reverse_perm [beta, alpha, gamma])
    hsorted).symm

end PromptRegistry.Search
