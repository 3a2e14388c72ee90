import Mathlib.Data.List.Forall2
import Mathlib.Logic.ExistsUnique
import PromptRegistry.Proofs.Template.Segmentation

/-!
# Filling in values

A template is filled in piece by piece, once: what a value holds is not read again
(`format_single_pass`).
-/

namespace PromptRegistry.Template

/-- A piece with values filled in. A value is taken as it is, and a placeholder without one is
kept with its blanks. -/
def fillPiece (values : Dict String) : Piece → List Char
  | .literal cs => cs
  | .placeholder p =>
    match values.get? (String.ofList p.name) with
    | some value => value.toList
    | none => p.chars

def FillsTo (values : Dict String) (content text : String) : Prop :=
  ∃ pieces, Segmentation content.toList pieces ∧ text.toList = pieces.flatMap (fillPiece values)

inductive FormatsTo (values : Dict String) : Template → Formatted → Prop
  | text (h : FillsTo values content out) : FormatsTo values (.text content) (.text out)
  | chat (h : List.Forall₂ (fun m m' => m'.role = m.role ∧ FillsTo values m.content m'.content)
      ms ms') : FormatsTo values (.chat ms) (.chat ms')

theorem fill_fillsTo (values : Dict String) (content : String) :
    FillsTo values content (fill values content) := by
  refine ⟨Piece.cut content, .pieces content.toList, ?_⟩
  rw [fill, Piece.substitute, String.toList_ofList]
  refine congrArg (List.flatMap · _) (funext fun piece => ?_)
  cases piece <;> rfl

theorem format_formatsTo {t : Template} (h : t.format values allowPartial = .ok f) :
    FormatsTo values t f := by
  unfold format at h
  split at h
  · cases h
  · cases h
    cases t with
    | text content => exact .text (fill_fillsTo values content)
    | chat ms =>
      refine .chat (List.forall₂_map_right_iff.2 (List.forall₂_same.2 fun m _ => ?_))
      exact ⟨rfl, fill_fillsTo values m.content⟩

/-- There is one way to split a content without missing a placeholder, and a template that is
formatted has each of its contents filled in along it. -/
theorem format_single_pass :
    (∀ content : String, ∃! pieces, Segmentation content.toList pieces) ∧
      ∀ (t : Template) values allowPartial f,
        t.format values allowPartial = .ok f → FormatsTo values t f :=
  ⟨fun content => ⟨_, .pieces content.toList, fun _ => Segmentation.eq_pieces⟩,
    fun _ _ _ _ => format_formatsTo⟩

theorem format_single_pass_braces :
    let t : Template := .text "\x7b\x7b\x7bx\x7d\x7d\x7d \x7b\x7b y \x7d\x7d"
    let values : Dict String := .ofList [("x", "\x7b\x7by\x7d\x7d")]
    let f : Formatted := .text "\x7b\x7b\x7by\x7d\x7d\x7d \x7b\x7b y \x7d\x7d"
    t.format values true = .ok f ∧ FormatsTo values t f := by
  intro t values f
  have h : t.format values true = .ok f := by decide +kernel
  exact ⟨h, format_single_pass.2 t values true f h⟩

end PromptRegistry.Template
