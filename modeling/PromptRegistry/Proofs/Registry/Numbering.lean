import PromptRegistry.Proofs.Prompt.WellFormed
import PromptRegistry.Proofs.Registry.History

/-!
# Numbers given out

The additions of a history under a name, and the numbers that they are given: between two deletions
of the name they count up from one (`Course.number_eq`).
-/

namespace PromptRegistry.Registry

/-- The version that was added to the prompt under a name, as it was answered. -/
def Exchange.added? (name : String) (x : Exchange) : Option Version :=
  match x.change name with
  | .add v => some v
  | _ => none

theorem Exchange.added?_eq_some {x : Exchange} :
    x.added? name = some v ↔ x.change name = .add v := by
  unfold added?
  split
  · next h => simp [h]
  · next h => simpa using h v

def additions (name : String) (xs : List Exchange) : List Version :=
  xs.filterMap (Exchange.added? name)

@[simp] theorem additions_append :
    additions name (xs ++ ys) = additions name xs ++ additions name ys :=
  List.filterMap_append

theorem additions_singleton (x : Exchange) : additions name [x] = (x.added? name).toList := by
  cases h : x.added? name <;> simp [additions, h]

theorem length_additions_split {x : Exchange} (hv : x.added? name = some v) :
    (additions name (earlier ++ x :: later)).length =
      (additions name earlier).length + 1 + (additions name later).length := by
  rw [List.append_cons, additions_append, additions_append, additions_singleton, hv]
  simp only [List.length_append, Option.toList_some, List.length_singleton]

theorem lastVersion_apply {c : Core} {change : Change} (hadd : ∀ v, change ≠ .add v)
    (hclear : change ≠ .clear) : (c.apply change).lastVersion = c.lastVersion := by
  cases change with
  | add v => exact absurd rfl (hadd v)
  | clear => exact absurd rfl hclear
  | _ => rfl

/-- In a prompt that is not deleted, the highest number counts the additions. -/
theorem Course.lastVersion_eq (h : Course name .empty xs c)
    (hkept : ∀ x ∈ xs, x.change name ≠ .clear) :
    c.lastVersion.toNat = (additions name xs).length := by
  induction h with
  | start => rfl
  | @next xs c x h hx ih =>
    simp only [List.forall_mem_append, List.forall_mem_singleton] at hkept
    have hcount := ih hkept.1
    rw [additions_append, List.length_append, additions_singleton]
    cases hv : x.added? name with
    | some v =>
      rw [Exchange.added?_eq_some.1 hv] at hx ⊢
      have hnext : v.number.toNat = c.lastVersion.toNat + 1 := hx.2
      rw [← hcount]
      exact hnext
    | none =>
      have hadd : ∀ v, x.change name ≠ .add v := fun v h => by
        rw [Exchange.added?_eq_some.2 h] at hv
        cases hv
      rw [lastVersion_apply hadd hkept.2]
      exact hcount

theorem Course.name_eq (h : Course name .empty (earlier ++ x :: later) c)
    (hv : x.added? name = some v) : v.name = name := by
  obtain ⟨c₁, -, hx, -⟩ := h.split
  rw [Exchange.added?_eq_some.1 hv] at hx
  exact hx.1

theorem Course.toNat_number (h : Course name .empty (earlier ++ x :: later) c)
    (hv : x.added? name = some v) : ∃ c₁, Course name .empty earlier c₁ ∧
      v.number.toNat = c₁.lastVersion.toNat + 1 := by
  obtain ⟨c₁, hearlier, hx, -⟩ := h.split
  rw [Exchange.added?_eq_some.1 hv] at hx
  exact ⟨c₁, hearlier, hx.2⟩

theorem Course.number_ne_zero (h : Course name .empty (earlier ++ x :: later) c)
    (hv : x.added? name = some v) : v.number ≠ 0 := by
  obtain ⟨c₁, -, hnumber⟩ := h.toNat_number hv
  intro hzero
  rw [hzero] at hnumber
  exact absurd hnumber (Nat.succ_ne_zero _).symm

/-- In a prompt that is not deleted, a version is numbered by the additions up to it. -/
theorem Course.number_eq (h : Course name .empty (earlier ++ x :: later) c)
    (hkept : ∀ y ∈ earlier, y.change name ≠ .clear) (hv : x.added? name = some v) :
    v.number.toNat = (additions name earlier).length + 1 := by
  obtain ⟨c₁, hearlier, hnumber⟩ := h.toNat_number hv
  rw [hnumber, hearlier.lastVersion_eq hkept]

theorem Course.numbered (h : Course name .empty xs c) : c.Numbered := by
  induction h with
  | start => exact Core.numbered_empty
  | next _ hx ih => exact ih.apply hx

end PromptRegistry.Registry
