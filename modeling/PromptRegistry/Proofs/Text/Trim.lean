import Mathlib.Data.List.DropRight
import PromptRegistry.Proofs.Text.Stretch
import PromptRegistry.Text.Blank

/-!
# Trimming

Trimming takes blanks away and nothing else, and is done once it has been done.
-/

namespace PromptRegistry.Text

theorem trim_of_not_blank {cs : List Char} (h : ∀ c ∈ cs, isBlank c = false) : trim cs = cs := by
  have hdrop {ds : List Char} (hds : ∀ c ∈ ds, isBlank c = false) : ds.dropWhile isBlank = ds := by
    cases ds with
    | nil => rfl
    | cons d ds => rw [List.dropWhile_cons_of_neg (by simp [hds d])]
  rw [trim, trimEnd, trimStart, hdrop h, hdrop (by simpa using h), List.reverse_reverse]

theorem mem_trim {cs : List Char} (h : c ∈ cs) (hc : isBlank c = false) : c ∈ trim cs := by
  have hstart : c ∈ trimStart cs := mem_dropWhile h hc
  exact List.mem_reverse.2 (mem_dropWhile (List.mem_reverse.2 hstart) hc)

theorem mem_of_mem_trim {cs : List Char} (h : c ∈ trim cs) : c ∈ cs := by
  have hstart : c ∈ trimStart cs :=
    List.mem_reverse.1 ((List.dropWhile_sublist _).subset (List.mem_reverse.1 h))
  exact (List.dropWhile_sublist _).subset hstart

theorem trim_trim (cs : List Char) : trim (trim cs) = trim cs := by
  have hstart : trimStart (trim cs) = trim cs := by
    cases htrim : trim cs with
    | nil => rfl
    | cons c ds =>
      -- the blanks in front were dropped first, and dropping those at the end keeps the front
      have hfront : trim cs <+: trimStart cs := List.rdropWhile_prefix isBlank _
      obtain ⟨rest, hrest⟩ := htrim ▸ hfront
      have hhead := List.head?_dropWhile_not isBlank cs
      rw [show cs.dropWhile isBlank = _ from hrest.symm] at hhead
      exact List.dropWhile_cons_of_neg (by simpa using hhead)
  rw [trim, hstart]
  exact List.rdropWhile_idempotent isBlank _

end PromptRegistry.Text
