import Mathlib.Data.List.Forall2
import PromptRegistry.Search.Wildcard

/-!
# What a pattern matches

Matching keeps an answer for every end piece of a text, so that no piece is looked at twice. Its
answers are those of the plain recursion on pattern and text (`isMatch_anyRun_cons` and the laws
beside it): a pattern matches a text that can be cut into pieces, one for each character of the
pattern (`isMatch_iff_splitsAlong`).
-/

namespace PromptRegistry.Search

inductive Takes (same : Char → Char → Bool) : Char → List Char → Prop
  | run (piece : List Char) : Takes same '%' piece
  | any (d : Char) : Takes same '_' [d]
  | char (hrun : c ≠ '%') (hany : c ≠ '_') (h : same c d = true) : Takes same c [d]

/-- The text can be cut into pieces that the characters of the pattern take, one after another. -/
def SplitsAlong (same : Char → Char → Bool) (pattern text : List Char) : Prop :=
  ∃ pieces, List.Forall₂ (Takes same) pattern pieces ∧ pieces.flatten = text

namespace Wildcard

variable {same : Char → Char → Bool} {w : Wildcard} {ws : List Wildcard} {text : List Char}

-- ---------------------------------------------------------------------------
-- End pieces
-- ---------------------------------------------------------------------------

theorem length_anyFrom (bs : List Bool) : (anyFrom bs).length = bs.length := by
  induction bs with
  | nil => rfl
  | cons b bs ih => simp [anyFrom, ih]

theorem length_matchEnds (same : Char → Char → Bool) (ws : List Wildcard) (text : List Char) :
    (matchEnds same ws text).length = text.length + 1 := by
  induction ws with
  | nil => simp [matchEnds]
  | cons w ws ih => cases w <;> simp [matchEnds, length_anyFrom, ih]

theorem matchEnds_eq_cons (same : Char → Char → Bool) (ws : List Wildcard) (text : List Char) :
    ∃ bs, matchEnds same ws text = isMatch same ws text :: bs := by
  obtain ⟨b, bs, hends⟩ := List.exists_of_length_succ _ (length_matchEnds same ws text)
  exact ⟨bs, by rw [isMatch, hends, List.headD_cons]⟩

theorem matchEnds_nil (ws : List Wildcard) : matchEnds same ws [] = [isMatch same ws []] := by
  obtain ⟨b, hends⟩ := List.length_eq_one_iff.1 (length_matchEnds same ws [])
  rw [isMatch, hends, List.headD_cons]

theorem matchEnds_cons (ws : List Wildcard) (d : Char) (text : List Char) :
    matchEnds same ws (d :: text) = isMatch same ws (d :: text) :: matchEnds same ws text := by
  have htail : (matchEnds same ws (d :: text)).tail = matchEnds same ws text := by
    induction ws generalizing d text with
    | nil => rfl
    | cons w ws ih =>
      obtain ⟨bs, hends⟩ := matchEnds_eq_cons same ws (d :: text)
      obtain ⟨bs', hends'⟩ := matchEnds_eq_cons same ws text
      have hbs : bs = matchEnds same ws text := by rw [← ih d text, hends, List.tail_cons]
      cases w <;> simp [matchEnds, hends, hbs, hends', anyFrom]
  obtain ⟨bs, hends⟩ := matchEnds_eq_cons same ws (d :: text)
  rw [← htail, hends, List.tail_cons]

-- ---------------------------------------------------------------------------
-- The plain recursion
-- ---------------------------------------------------------------------------

theorem isMatch_nil : isMatch same [] text = true ↔ text = [] := by
  cases text <;> simp [isMatch, matchEnds]

theorem isMatch_anyRun_nil : isMatch same (.anyRun :: ws) [] = isMatch same ws [] := by
  show (anyFrom (matchEnds same ws [])).headD false = _
  rw [matchEnds_nil]
  simp [anyFrom]

theorem isMatch_anyRun_cons : isMatch same (.anyRun :: ws) (d :: text) =
    (isMatch same ws (d :: text) || isMatch same (.anyRun :: ws) text) := by
  show (anyFrom (matchEnds same ws (d :: text))).headD false = _
  rw [matchEnds_cons]
  rfl

theorem isMatch_anyOne_nil : isMatch same (.anyOne :: ws) [] = false := by
  show ((matchEnds same ws []).drop 1 ++ [false]).headD false = false
  rw [matchEnds_nil]
  rfl

theorem isMatch_anyOne_cons : isMatch same (.anyOne :: ws) (d :: text) = isMatch same ws text := by
  show ((matchEnds same ws (d :: text)).drop 1 ++ [false]).headD false = _
  obtain ⟨bs, hends⟩ := matchEnds_eq_cons same ws text
  rw [matchEnds_cons, hends]
  rfl

theorem isMatch_char_nil : isMatch same (.char c :: ws) [] = false := rfl

theorem isMatch_char_cons :
    isMatch same (.char c :: ws) (d :: text) = (same c d && isMatch same ws text) := by
  show (List.zipWith _ _ ((matchEnds same ws (d :: text)).drop 1) ++ [false]).headD false = _
  obtain ⟨bs, hends⟩ := matchEnds_eq_cons same ws text
  rw [matchEnds_cons, hends]
  rfl

-- ---------------------------------------------------------------------------
-- Pieces
-- ---------------------------------------------------------------------------

theorem isMatch_anyRun : isMatch same (.anyRun :: ws) text = true ↔
    ∃ piece rest, text = piece ++ rest ∧ isMatch same ws rest = true := by
  induction text with
  | nil => simp [isMatch_anyRun_nil]
  | cons d text ih =>
    rw [isMatch_anyRun_cons, Bool.or_eq_true, ih]
    constructor
    · rintro (h | ⟨piece, rest, rfl, h⟩)
      · exact ⟨[], _, rfl, h⟩
      · exact ⟨d :: piece, rest, rfl, h⟩
    · rintro ⟨piece, rest, htext, h⟩
      cases piece with
      | nil => exact .inl (htext ▸ h)
      | cons e piece => exact .inr ⟨piece, rest, (List.cons.inj htext).2, h⟩

theorem isMatch_anyOne : isMatch same (.anyOne :: ws) text = true ↔
    ∃ d rest, text = d :: rest ∧ isMatch same ws rest = true := by
  cases text <;> simp [isMatch_anyOne_nil, isMatch_anyOne_cons]

theorem isMatch_char : isMatch same (.char c :: ws) text = true ↔
    ∃ d rest, text = d :: rest ∧ same c d = true ∧ isMatch same ws rest = true := by
  cases text <;> simp [isMatch_char_nil, isMatch_char_cons]

end Wildcard

theorem splitsAlong_nil : SplitsAlong same [] text ↔ text = [] := by
  simp [SplitsAlong, eq_comm]

theorem splitsAlong_cons : SplitsAlong same (c :: pattern) text ↔
    ∃ piece rest, text = piece ++ rest ∧ Takes same c piece ∧ SplitsAlong same pattern rest := by
  constructor
  · rintro ⟨pieces, hpieces, rfl⟩
    cases hpieces with
    | cons hpiece hpieces => exact ⟨_, _, rfl, hpiece, _, hpieces, rfl⟩
  · rintro ⟨piece, rest, rfl, hpiece, pieces, hpieces, rfl⟩
    exact ⟨piece :: pieces, .cons hpiece hpieces, rfl⟩

/-- A pattern matches the texts that split along it. -/
theorem isMatch_iff_splitsAlong (same : Char → Char → Bool) (pattern text : List Char) :
    Wildcard.isMatch same (pattern.map Wildcard.ofChar) text = true ↔
      SplitsAlong same pattern text := by
  induction pattern generalizing text with
  | nil => rw [List.map_nil, Wildcard.isMatch_nil, splitsAlong_nil]
  | cons c pattern ih =>
    rw [List.map_cons, Wildcard.ofChar, splitsAlong_cons]
    simp only [← ih]
    split
    · next hrun =>
      subst hrun
      rw [Wildcard.isMatch_anyRun]
      exact exists₂_congr fun piece rest =>
        and_congr_right fun _ => ⟨fun h => ⟨.run piece, h⟩, And.right⟩
    · split
      · next hany =>
        subst hany
        rw [Wildcard.isMatch_anyOne]
        constructor
        · rintro ⟨d, rest, rfl, h⟩
          exact ⟨[d], rest, rfl, .any d, h⟩
        · rintro ⟨piece, rest, rfl, hpiece, h⟩
          cases hpiece with
          | any d => exact ⟨d, rest, rfl, h⟩
          | char _ hany => exact absurd rfl hany
      · next hrun hany =>
        rw [Wildcard.isMatch_char]
        constructor
        · rintro ⟨d, rest, rfl, hsame, h⟩
          exact ⟨[d], rest, rfl, .char hrun hany hsame, h⟩
        · rintro ⟨piece, rest, rfl, hpiece, h⟩
          cases hpiece with
          | run => exact absurd rfl hrun
          | any => exact absurd rfl hany
          | char _ _ hsame => exact ⟨_, rest, rfl, hsame, h⟩

end PromptRegistry.Search
