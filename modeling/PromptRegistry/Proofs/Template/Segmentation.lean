import PromptRegistry.Proofs.Text.Stretch
import PromptRegistry.Template

/-!
# The pieces of a content

Two placeholders in a content stand apart (`Placeholder.Proper.apart`). So a content can be split
into placeholders and the literal text between them without missing one: it is cut in such a way
(`Segmentation.pieces`), and there is no other (`Segmentation.eq_pieces`).
-/

namespace PromptRegistry

open Text (isBlank)

namespace Placeholder

/-- A name without braces and blanks, with nothing but blanks around it. -/
structure Proper (p : Placeholder) : Prop where
  before : ∀ c ∈ p.before, isBlank c = true
  after : ∀ c ∈ p.after, isBlank c = true
  name : ∀ c ∈ p.name, c ≠ '\x7b' ∧ c ≠ '\x7d' ∧ isBlank c = false
  named : p.name ≠ []

theorem isNameChar_iff : isNameChar c = true ↔ c ≠ '\x7b' ∧ c ≠ '\x7d' ∧ isBlank c = false := by
  simp [isNameChar, and_assoc]

def inner (p : Placeholder) : List Char := p.before ++ (p.name ++ (p.after ++ ['\x7d', '\x7d']))

theorem chars_eq (p : Placeholder) : p.chars = '\x7b' :: '\x7b' :: p.inner := by
  simp [chars, inner]

-- ---------------------------------------------------------------------------
-- The placeholder at the front
-- ---------------------------------------------------------------------------

variable {p q : Placeholder} {cs rest : List Char}

theorem of_read? (h : read? cs = some (p, rest)) : p.Proper ∧ cs = p.inner ++ rest := by
  simp only [read?] at h
  split at h
  · next r hr =>
    split at h
    · cases h
    · next hname =>
      cases h
      refine ⟨⟨Text.all_of_mem_takeWhile, Text.all_of_mem_takeWhile, fun c hc => ?_, ?_⟩, ?_⟩
      · exact isNameChar_iff.1 (Text.all_of_mem_takeWhile c hc)
      · simpa using hname
      · simp only [inner, List.append_assoc, List.cons_append, List.nil_append, ← hr,
          List.takeWhile_append_dropWhile]
  · cases h

theorem Proper.read? (h : p.Proper) (rest : List Char) :
    Placeholder.read? (p.inner ++ rest) = some (p, rest) := by
  obtain ⟨c, name, hc⟩ := List.exists_cons_of_ne_nil h.named
  have hclosed := Text.takeWhile_stretch h.after ('\x7d' :: '\x7d' :: rest) rfl
  have hname := Text.takeWhile_stretch (fun c hc => isNameChar_iff.2 (h.name c hc))
    (p.after ++ '\x7d' :: '\x7d' :: rest) (by
      cases hafter : p.after with
      | nil => rfl
      | cons d ds => simp [isNameChar, h.after d (by simp [hafter])])
  have hbefore := Text.takeWhile_stretch h.before (p.name ++ (p.after ++ '\x7d' :: '\x7d' :: rest))
    (by simp [hc, (h.name c (by simp [hc])).2.2])
  simp only [Placeholder.read?, inner, List.append_assoc, List.cons_append, List.nil_append,
    hbefore, hname, hclosed]
  rw [if_neg (by simpa using h.named)]

theorem Proper.front? (h : p.Proper) (rest : List Char) :
    Placeholder.front? (p.chars ++ rest) = some (p, rest) := by
  rw [chars_eq]
  exact h.read? rest

theorem front?_eq_some : front? cs = some (p, rest) ↔ p.Proper ∧ cs = p.chars ++ rest := by
  constructor
  · intro h
    unfold front? at h
    split at h
    · obtain ⟨hp, rfl⟩ := of_read? h
      exact ⟨hp, by rw [chars_eq]; rfl⟩
    · cases h
  · rintro ⟨hp, rfl⟩
    exact hp.front? rest

theorem Proper.ne_of_front?_none (h : p.Proper) (hnone : Placeholder.front? cs = none) :
    cs ≠ p.chars ++ rest := by
  rintro rfl
  rw [h.front?] at hnone
  cases hnone

theorem inner_ne_nil (p : Placeholder) : p.inner ≠ [] := by simp [inner]

theorem chars_ne_nil (p : Placeholder) : p.chars ≠ [] := by
  rw [chars_eq]
  simp

theorem Proper.inj (hp : p.Proper) (hq : q.Proper) (h : p.chars ++ rest = q.chars ++ back) :
    p = q ∧ rest = back := by
  have hfront := hp.front? rest
  rw [h, hq.front?] at hfront
  cases hfront
  exact ⟨rfl, rfl⟩

theorem Proper.not_mem_inner (h : p.Proper) : '\x7b' ∉ p.inner := by
  simp only [inner, List.mem_append, not_or]
  refine ⟨fun hc => ?_, fun hc => (h.name _ hc).1 rfl, fun hc => ?_, by decide⟩
  · exact absurd (h.before _ hc) (by decide)
  · exact absurd (h.after _ hc) (by decide)

/-- A placeholder that begins behind the start of another begins behind its end. -/
theorem Proper.apart (hp : p.Proper) (h : p.chars ++ rest = front ++ (q.chars ++ back))
    (hfront : front ≠ []) : ∃ between, front = p.chars ++ between ∧
      rest = between ++ (q.chars ++ back) := by
  rcases List.append_eq_append_iff.1 h with ⟨between, hbetween, hrest⟩ | ⟨tail, htail, hq⟩
  · exact ⟨between, hbetween, hrest⟩
  · rw [chars_eq] at htail hq
    match front, tail with
    | _, [] => exact ⟨[], by rw [chars_eq, htail]; simp, by rw [chars_eq]; exact hq.symm⟩
    | [c], d :: tail =>
      -- the second brace of the opening pair is followed by none
      simp only [List.cons_append, List.nil_append, List.cons.injEq] at htail hq
      obtain ⟨-, -, rfl⟩ := htail
      obtain ⟨e, inner, hinner⟩ := List.exists_cons_of_ne_nil p.inner_ne_nil
      rw [hinner] at hq
      refine absurd ?_ hp.not_mem_inner
      rw [hinner, (List.cons.inj hq.2).1]
      exact List.mem_cons_self ..
    | _ :: _ :: front, d :: tail =>
      simp only [List.cons_append, List.cons.injEq] at htail hq
      refine absurd ?_ hp.not_mem_inner
      rw [htail.2.2, hq.1]
      simp

end Placeholder

-- ---------------------------------------------------------------------------
-- From the front of a content
-- ---------------------------------------------------------------------------

@[elab_as_elim]
theorem front_induction {motive : List Char → Prop} (nil : motive [])
    (placeholder : ∀ (p : Placeholder) rest, p.Proper → motive rest → motive (p.chars ++ rest))
    (char : ∀ c cs, Placeholder.front? (c :: cs) = none → motive cs → motive (c :: cs))
    (cs : List Char) : motive cs := by
  induction h : cs.length using Nat.strongRecOn generalizing cs with
  | ind n ih =>
    subst h
    cases hfront : Placeholder.front? cs with
    | some found =>
      obtain ⟨p, rest⟩ := found
      obtain ⟨hp, rfl⟩ := Placeholder.front?_eq_some.1 hfront
      exact placeholder p rest hp (ih _ (Placeholder.length_of_front? hfront) rest rfl)
    | none =>
      cases cs with
      | nil => exact nil
      | cons c cs => exact char c cs hfront (ih _ (by simp) cs rfl)

namespace Piece

def prepend (c : Char) : List Piece → List Piece
  | .literal cs :: pieces => .literal (c :: cs) :: pieces
  | pieces => .literal [c] :: pieces

def text (pieces : List Piece) : List Char := pieces.flatMap chars

@[simp] theorem text_nil : text [] = [] := rfl

@[simp] theorem text_cons (piece : Piece) (pieces : List Piece) :
    text (piece :: pieces) = piece.chars ++ text pieces := rfl

@[simp] theorem text_append (xs ys : List Piece) : text (xs ++ ys) = text xs ++ text ys :=
  List.flatMap_append ..

@[simp] theorem text_prepend (c : Char) (pieces : List Piece) :
    text (prepend c pieces) = c :: text pieces := by
  match pieces with
  | [] | .literal _ :: _ | .placeholder _ :: _ => simp [prepend, chars]

theorem prepend_append_placeholder (c : Char) (xs ys : List Piece) (p : Placeholder) :
    prepend c (xs ++ .placeholder p :: ys) = prepend c xs ++ .placeholder p :: ys := by
  match xs with
  | [] | .literal _ :: _ | .placeholder _ :: _ => rfl

theorem prepend_eq_append {pieces xs ys : List Piece}
    (h : prepend c pieces = xs ++ .placeholder p :: ys) :
    ∃ xs', pieces = xs' ++ .placeholder p :: ys ∧ xs = prepend c xs' := by
  match pieces, xs with
  | .literal cs :: pieces, _ :: xs =>
    simp only [prepend, List.cons_append, List.cons.injEq] at h
    obtain ⟨rfl, rfl⟩ := h
    exact ⟨.literal cs :: xs, rfl, rfl⟩
  | .placeholder q :: pieces, _ :: xs =>
    simp only [prepend, List.cons_append, List.cons.injEq] at h
    obtain ⟨rfl, h⟩ := h
    refine ⟨xs, h, ?_⟩
    cases xs with
    | nil => rfl
    | cons x xs =>
      cases (List.cons.inj h).1
      rfl
  | [], [] | .literal _ :: _, [] | .placeholder _ :: _, [] => simp [prepend] at h
  | [], _ :: _ => simp [prepend] at h

-- ---------------------------------------------------------------------------
-- Cutting
-- ---------------------------------------------------------------------------

theorem foldl_prepend_literal (literal cs : List Char) (pieces : List Piece) :
    literal.foldl (fun pieces c => prepend c pieces) (.literal cs :: pieces) =
      .literal (literal.reverse ++ cs) :: pieces := by
  induction literal generalizing cs with
  | nil => rfl
  | cons c literal ih =>
    rw [List.foldl_cons, prepend, ih]
    simp

theorem foldl_prepend {pieces : List Piece} (hpieces : ∀ cs ps, pieces ≠ .literal cs :: ps)
    (done : List Piece) (literal : List Char) :
    done.reverse ++ literal.foldl (fun pieces c => prepend c pieces) pieces =
      (if literal.isEmpty then done else .literal literal.reverse :: done).reverse ++ pieces := by
  cases literal with
  | nil => rfl
  | cons c literal =>
    have hc : prepend c pieces = .literal [c] :: pieces := by
      match pieces with
      | [] | .placeholder _ :: _ => rfl
      | .literal cs :: ps => exact absurd rfl (hpieces cs ps)
    simp [hc, foldl_prepend_literal]

theorem cutFrom_placeholder {p : Placeholder} (hp : p.Proper) (done : List Piece)
    (literal rest : List Char) :
    cutFrom done literal (p.chars ++ rest) =
      cutFrom (.placeholder p :: if literal.isEmpty then done else .literal literal.reverse :: done)
        [] rest := by
  rw [cutFrom]
  split
  · next q back h =>
    obtain ⟨hq, h⟩ := Placeholder.front?_eq_some.1 h
    obtain ⟨rfl, rfl⟩ := hp.inj hq h
    rfl
  · next h => exact absurd rfl (hp.ne_of_front?_none h)

theorem cutFrom_char (hnone : Placeholder.front? (c :: cs) = none) (done : List Piece)
    (literal : List Char) :
    cutFrom done literal (c :: cs) = cutFrom done (c :: literal) cs := by
  rw [cutFrom]
  split
  · next h =>
    rw [hnone] at h
    cases h
  · rfl

/-- What was cut already, and the literal text since then, come before what is still to be cut. -/
theorem cutFrom_eq (done : List Piece) (literal cs : List Char) :
    cutFrom done literal cs =
      done.reverse ++ literal.foldl (fun pieces c => prepend c pieces) (cutFrom [] [] cs) := by
  induction cs using front_induction generalizing done literal with
  | nil =>
    rw [cutFrom, cutFrom]
    simp [Placeholder.front?, foldl_prepend]
  | placeholder p rest hp ih =>
    have hfirst : cutFrom [] [] (p.chars ++ rest) = .placeholder p :: cutFrom [] [] rest := by
      rw [cutFrom_placeholder hp, ih]
      rfl
    rw [cutFrom_placeholder hp, ih, hfirst]
    refine Eq.trans ?_ (foldl_prepend (by simp) done literal).symm
    simp
  | char c cs hnone ih =>
    have hfirst : cutFrom [] [] (c :: cs) = prepend c (cutFrom [] [] cs) := by
      rw [cutFrom_char hnone, ih]
      rfl
    rw [cutFrom_char hnone, ih, hfirst]
    rfl

def pieces (cs : List Char) : List Piece := cutFrom [] [] cs

theorem pieces_nil : pieces [] = [] := by
  rw [pieces, cutFrom]
  rfl

theorem pieces_placeholder (hp : p.Proper) :
    pieces (p.chars ++ rest) = .placeholder p :: pieces rest := by
  rw [pieces, cutFrom_placeholder hp, cutFrom_eq]
  rfl

theorem pieces_char (hnone : Placeholder.front? (c :: cs) = none) :
    pieces (c :: cs) = prepend c (pieces cs) := by
  rw [pieces, cutFrom_char hnone, cutFrom_eq]
  rfl

-- ---------------------------------------------------------------------------
-- Splitting
-- ---------------------------------------------------------------------------

/-- Placeholders, and literal text that no other literal text follows. -/
inductive Alternating : List Piece → Prop
  | nil : Alternating []
  | placeholder (hp : p.Proper) (h : Alternating ps) : Alternating (.placeholder p :: ps)
  | literal (hcs : cs ≠ []) (hps : ∀ ds qs, ps ≠ .literal ds :: qs) (h : Alternating ps) :
    Alternating (.literal cs :: ps)

theorem Alternating.prepend (h : Alternating ps) (c : Char) : Alternating (prepend c ps) := by
  cases h with
  | nil => exact .literal (by simp) (by simp) .nil
  | placeholder hp h => exact .literal (by simp) (by simp) (.placeholder hp h)
  | literal hcs hps h => exact .literal (by simp) hps h

theorem Alternating.eq_nil (h : Alternating ps) (htext : text ps = []) : ps = [] := by
  cases h with
  | nil => rfl
  | placeholder hp h => exact absurd (List.append_eq_nil_iff.1 htext).1 (Placeholder.chars_ne_nil _)
  | literal hcs hps h => exact absurd (List.append_eq_nil_iff.1 htext).1 hcs

theorem Alternating.of_append (h : Alternating (xs ++ ys)) : Alternating xs ∧ Alternating ys := by
  induction xs with
  | nil => exact ⟨.nil, h⟩
  | cons x xs ih =>
    cases h with
    | placeholder hp h => exact ⟨.placeholder hp (ih h).1, (ih h).2⟩
    | literal hcs hps h =>
      refine ⟨.literal hcs (fun ds qs hxs => ?_) (ih h).1, (ih h).2⟩
      rw [hxs] at hps
      exact hps _ _ rfl

theorem Alternating.eq_prepend (h : Alternating ps) (htext : text ps = c :: cs)
    (hnone : Placeholder.front? (c :: cs) = none) :
    ∃ qs, ps = Piece.prepend c qs ∧ Alternating qs := by
  cases h with
  | nil => cases htext
  | placeholder hp h => exact absurd htext.symm (hp.ne_of_front?_none hnone)
  | @literal ds qs hds hqs h =>
    match ds with
    | [] => exact absurd rfl hds
    | [d] =>
      cases (List.cons.inj htext).1
      refine ⟨qs, ?_, h⟩
      cases h with
      | literal => exact absurd rfl (hqs _ _)
      | _ => rfl
    | d :: e :: ds =>
      cases (List.cons.inj htext).1
      exact ⟨.literal (e :: ds) :: qs, rfl, .literal (by simp) hqs h⟩

end Piece

/-- The pieces make up the content, and every placeholder in the content is one of them. -/
structure Segmentation (content : List Char) (pieces : List Piece) : Prop where
  text : Piece.text pieces = content
  alternating : Piece.Alternating pieces
  complete : ∀ p front back, p.Proper → content = front ++ (p.chars ++ back) →
    ∃ xs ys, pieces = xs ++ .placeholder p :: ys ∧ Piece.text xs = front

namespace Segmentation

open Piece (prepend)

theorem nil : Segmentation [] [] := by
  refine ⟨rfl, .nil, fun p front back _ h => ?_⟩
  simp [Placeholder.chars_ne_nil] at h

theorem placeholder (hp : p.Proper) (h : Segmentation rest ps) :
    Segmentation (p.chars ++ rest) (.placeholder p :: ps) := by
  refine ⟨by simp [Piece.chars, h.text], .placeholder hp h.alternating, ?_⟩
  intro q front back hq hcontent
  by_cases hfront : front = []
  · subst hfront
    obtain ⟨rfl, rfl⟩ := hp.inj hq hcontent
    exact ⟨[], ps, rfl, rfl⟩
  · obtain ⟨between, rfl, hrest⟩ := hp.apart hcontent hfront
    obtain ⟨xs, ys, rfl, htext⟩ := h.complete q between back hq hrest
    exact ⟨.placeholder p :: xs, ys, rfl, by simp [Piece.chars, htext]⟩

theorem char (hnone : Placeholder.front? (c :: cs) = none) (h : Segmentation cs ps) :
    Segmentation (c :: cs) (prepend c ps) := by
  refine ⟨by simp [h.text], h.alternating.prepend c, ?_⟩
  intro p front back hp hcontent
  cases front with
  | nil => exact absurd hcontent (hp.ne_of_front?_none hnone)
  | cons d front =>
    obtain ⟨rfl, hcs⟩ := List.cons.inj hcontent
    obtain ⟨xs, ys, rfl, htext⟩ := h.complete p front back hp hcs
    exact ⟨prepend c xs, ys, Piece.prepend_append_placeholder .., by simp [htext]⟩

theorem of_placeholder (hp : p.Proper) (h : Segmentation (p.chars ++ rest) ps) :
    ∃ qs, ps = .placeholder p :: qs ∧ Segmentation rest qs := by
  obtain ⟨xs, qs, rfl, htext⟩ := h.complete p [] rest hp rfl
  obtain ⟨hxs, hqs⟩ := h.alternating.of_append
  obtain rfl := hxs.eq_nil htext
  refine ⟨qs, rfl, by simpa [Piece.chars] using h.text, ?_, ?_⟩
  · cases hqs with
    | placeholder hp hqs => exact hqs
  · rintro q front back hq rfl
    obtain ⟨xs, ys, hpieces, htext⟩ := h.complete q (p.chars ++ front) back hq (by simp)
    cases xs with
    | nil => simp [Placeholder.chars_ne_nil] at htext
    | cons x xs =>
      obtain ⟨rfl, rfl⟩ := List.cons.inj hpieces
      exact ⟨xs, ys, rfl, List.append_cancel_left htext⟩

theorem of_char (hnone : Placeholder.front? (c :: cs) = none) (h : Segmentation (c :: cs) ps) :
    ∃ qs, ps = prepend c qs ∧ Segmentation cs qs := by
  obtain ⟨qs, rfl, hqs⟩ := h.alternating.eq_prepend h.text hnone
  have htext := h.text
  rw [Piece.text_prepend, List.cons.injEq] at htext
  refine ⟨qs, rfl, htext.2, hqs, ?_⟩
  rintro p front back hp rfl
  obtain ⟨xs, ys, hpieces, hfront⟩ := h.complete p (c :: front) back hp rfl
  obtain ⟨xs, rfl, rfl⟩ := Piece.prepend_eq_append hpieces
  rw [Piece.text_prepend, List.cons.injEq] at hfront
  exact ⟨xs, ys, rfl, hfront.2⟩

theorem pieces (cs : List Char) : Segmentation cs (Piece.pieces cs) := by
  induction cs using front_induction with
  | nil => rw [Piece.pieces_nil]; exact nil
  | placeholder p rest hp ih => rw [Piece.pieces_placeholder hp]; exact ih.placeholder hp
  | char c cs hnone ih => rw [Piece.pieces_char hnone]; exact ih.char hnone

theorem eq_pieces (h : Segmentation cs ps) : ps = Piece.pieces cs := by
  induction cs using front_induction generalizing ps with
  | nil => rw [Piece.pieces_nil, h.alternating.eq_nil h.text]
  | placeholder p rest hp ih =>
    obtain ⟨qs, rfl, hqs⟩ := h.of_placeholder hp
    rw [Piece.pieces_placeholder hp, ih hqs]
  | char c cs hnone ih =>
    obtain ⟨qs, rfl, hqs⟩ := h.of_char hnone
    rw [Piece.pieces_char hnone, ih hqs]

end Segmentation

end PromptRegistry
