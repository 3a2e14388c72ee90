import PromptRegistry.Proofs.Text.Numeral
import PromptRegistry.Proofs.Text.Stretch
import PromptRegistry.Proofs.Time.Calendar
import PromptRegistry.Time.Timestamp

/-!
# Times in texts

The text of a time reads back as the time, to the nanosecond and within leap seconds, in every year
that has timestamps (`ofString?_render`).
-/

namespace PromptRegistry

open Text (isAsciiDigit isBlank trimStart)

namespace Text.Decimal

theorem length_digits_le {n w : Nat} (h : n < Nat.pow 10 (w + 1)) : (digits n).length ≤ w + 1 := by
  induction w generalizing n with
  | zero => rw [digits, if_pos (by omega)]; exact Nat.le_refl 1
  | succ w ih =>
    have h : n < Nat.pow 10 (w + 1) * 10 := h
    rw [digits]
    split
    · exact Nat.succ_le_succ (Nat.zero_le _)
    · rw [List.length_append]
      exact Nat.succ_le_succ (ih (by omega))

theorem length_padded {n w : Nat} (h : n < Nat.pow 10 (w + 1)) :
    (padded (w + 1) n).length = w + 1 := by
  have hlength := length_digits_le h
  simp only [padded, List.length_append, List.length_replicate]
  omega

theorem all_padded (w n : Nat) : ∀ c ∈ padded w n, isAsciiDigit c = true := by
  rw [padded, List.forall_mem_append]
  exact ⟨all_zeros _, all_digits n⟩

@[simp] theorem value_padded (w n : Nat) : value (padded w n) = n := by
  have hzeros (m : Nat) (ds : List Char) : value (List.replicate m '0' ++ ds) = value ds := by
    induction m with
    | zero => rfl
    | succ m ih => exact ih
  rw [padded, hzeros, value_digits]

end Text.Decimal

open Text.Decimal (padded)

namespace Timestamp

-- ---------------------------------------------------------------------------
-- Parts
-- ---------------------------------------------------------------------------

theorem trimStart_cons {c : Char} (h : isBlank c = false) (cs : List Char) :
    trimStart (c :: cs) = c :: cs := List.dropWhile_cons_of_neg (by simp [h])

theorem trimStart_digits {ds rest : List Char} (hds : ∀ d ∈ ds, isAsciiDigit d = true)
    (hne : ds ≠ []) : trimStart (ds ++ rest) = ds ++ rest := by
  cases ds with
  | nil => exact absurd rfl hne
  | cons d ds => exact trimStart_cons (Text.isBlank_of_isAsciiDigit (hds d (.head _))) _

theorem readNumber_some {ds : List Char} (hds : ∀ d ∈ ds, isAsciiDigit d = true) (hne : ds ≠ [])
    (rest : List Char) :
    readNumber (some ds.length) (ds ++ rest) = some (Text.Decimal.value ds, rest) := by
  have htake := (Text.takeWhile_stretch hds [] rfl).1
  rw [List.append_nil] at htake
  simp [readNumber, trimStart_digits hds hne, htake, hne]

theorem readNumber_none {ds : List Char} (hds : ∀ d ∈ ds, isAsciiDigit d = true) (hne : ds ≠ [])
    (rest : List Char) (hrest : rest.head?.all fun c => !isAsciiDigit c) :
    readNumber none (ds ++ rest) = some (Text.Decimal.value ds, rest) := by
  have htake := (Text.takeWhile_stretch hds rest hrest).1
  simp [readNumber, trimStart_digits hds hne, htake, hne]

theorem padded_ne_nil (w n : Nat) : padded w n ≠ [] :=
  List.append_ne_nil_of_right_ne_nil _ (Text.Decimal.digits_ne_nil n)

theorem readNumber_padded {n w : Nat} (h : n < Nat.pow 10 (w + 1)) (rest : List Char) :
    readNumber (some (w + 1)) (padded (w + 1) n ++ rest) = some (n, rest) := by
  have hread := readNumber_some (Text.Decimal.all_padded (w + 1) n) (padded_ne_nil _ _) rest
  rwa [Text.Decimal.length_padded h, Text.Decimal.value_padded] at hread

theorem readMark_cons {mark : Char} (h : isBlank mark = false) (rest : List Char) :
    readMark mark (mark :: rest) = some rest := by
  rw [readMark, trimStart_cons h]
  exact if_pos rfl

theorem readYear_sign {sign : Char} (h : sign = '-' ∨ sign = '+') (n : Nat) (rest : List Char) :
    readYear (sign :: padded 4 n ++ '-' :: rest) =
      some (if sign = '-' then -(n : Int) else n, '-' :: rest) := by
  have hblank : isBlank sign = false := by rcases h with rfl | rfl <;> decide
  have hall := Text.Decimal.all_padded 4 n
  have hread := readNumber_none hall (padded_ne_nil 4 n) ('-' :: rest) rfl
  rw [Text.Decimal.value_padded] at hread
  obtain ⟨d, ds, hds⟩ := List.exists_cons_of_ne_nil (padded_ne_nil 4 n)
  rw [hds] at hall hread ⊢
  have hdigit := hall d (.head _)
  rw [readYear, List.cons_append, trimStart_cons hblank]
  simp only [h, if_true, List.cons_append, List.head?_cons] at hread ⊢
  simp [hdigit, hread]

theorem readYear_yearText {y : Int} (rest : List Char) :
    readYear (yearText y ++ '-' :: rest) = some (y, '-' :: rest) := by
  unfold yearText
  split
  · next h =>
    have hall := Text.Decimal.all_padded 4 y.toNat
    have hread := readNumber_padded (w := 3) (show y.toNat < 10000 by omega) ('-' :: rest)
    obtain ⟨d, ds, hds⟩ := List.exists_cons_of_ne_nil (padded_ne_nil 4 y.toNat)
    rw [hds] at hall hread ⊢
    have hdigit := hall d (.head _)
    have hsign : ¬(d = '-' ∨ d = '+') := by
      rintro (rfl | rfl) <;> exact absurd hdigit (by decide)
    rw [readYear, List.cons_append, trimStart_cons (Text.isBlank_of_isAsciiDigit hdigit)]
    simp only [hsign, if_false, List.cons_append] at hread ⊢
    simp [hread]
    omega
  split
  · next h =>
    rw [readYear_sign (.inr rfl)]
    simp
    omega
  · next h =>
    rw [readYear_sign (.inl rfl)]
    simp
    omega

theorem readFraction_point {n w : Nat} (hw : w < 9) (h : n < Nat.pow 10 (w + 1)) :
    readFraction ('.' :: padded (w + 1) n ++ ['Z']) = some (n * Nat.pow 10 (8 - w), ['Z']) := by
  have hall := Text.Decimal.all_padded (w + 1) n
  have hlength := Text.Decimal.length_padded h
  have hvalue := Text.Decimal.value_padded (w + 1) n
  have hne := padded_ne_nil (w + 1) n
  generalize padded (w + 1) n = ds at hall hlength hvalue hne
  have htake : ((ds ++ ['Z']).take 9).takeWhile isAsciiDigit = ds := by
    rw [List.take_append, List.take_of_length_le (by omega)]
    refine (Text.takeWhile_stretch hall _ ?_).1
    cases 9 - ds.length <;> rfl
  have hdrop := (Text.takeWhile_stretch hall ['Z'] rfl).2
  have hpower : 9 - ds.length = 8 - w := by omega
  simp [readFraction, htake, hdrop, hne, hvalue, hpower]

theorem readFraction_fractionText {n : Nat} (h : n < 1000000000) :
    readFraction (fractionText n ++ ['Z']) = some (n, ['Z']) := by
  unfold fractionText
  split
  · next hn => rw [hn]; rfl
  split
  · rw [readFraction_point (w := 2) (by decide) (show n / 1000000 < 1000 by omega)]
    simp
    omega
  split
  · rw [readFraction_point (w := 5) (by decide) (show n / 1000 < 1000000 by omega)]
    simp
    omega
  · rw [readFraction_point (w := 8) (by decide) h]
    simp

-- ---------------------------------------------------------------------------
-- Times
-- ---------------------------------------------------------------------------

/-- A time that a clock shows: its year has timestamps, and only the last second of a minute may be
a leap second. -/
structure Valid (t : Timestamp) : Prop where
  inRange : t.inRange = true
  nanos : t.nanos < 1000000000 ∨ t.nanos < 2000000000 ∧ t.seconds % 60 = 59

theorem bind_eq_some {α β : Type} {o : Option α} {a : α} {b : β} {f : α → Option β}
    (ho : o = some a) (h : f a = some b) : (o >>= f) = some b := by
  rw [ho]
  exact h

theorem ofChars?_parts {date : Time.Date} {hour minute second nanos : Nat} {t : Timestamp}
    (hyear : firstYear ≤ date.year ∧ date.year ≤ lastYear) (hdate : date.isValid = true)
    (hhour : hour < 24) (hminute : minute < 60) (hsecond : second ≤ 60)
    (hnanos : nanos < 1000000000)
    (ht : t = ⟨date.toDays * 86400 + hour * 3600 + minute * 60 + min second 59,
      if second = 60 then nanos + 1000000000 else nanos⟩)
    (hrange : t.inRange = true) :
    ofChars? (yearText date.year ++ '-' :: pair date.month ++ '-' :: pair date.day ++
      'T' :: pair hour ++ ':' :: pair minute ++ ':' :: pair second ++ fractionText nanos ++
      ['Z']) = some t := by
  have hmonth := Time.Date.lt_hundred hdate
  have hdash : isBlank '-' = false := by decide
  have hcolon : isBlank ':' = false := by decide
  have hzone : readZone (trimStart ['Z']) = some (0, []) := by decide
  have hpair {n : Nat} (h : n < 100) (rest : List Char) :
      readNumber (some 2) (pair n ++ rest) = some (n, rest) := readNumber_padded h rest
  simp only [List.append_assoc, List.cons_append]
  refine bind_eq_some (readYear_yearText _) ?_
  refine bind_eq_some (readMark_cons hdash _) ?_
  refine bind_eq_some (hpair hmonth.1 _) ?_
  refine bind_eq_some (readMark_cons hdash _) ?_
  refine bind_eq_some (hpair hmonth.2 _) ?_
  refine bind_eq_some (o := some _) rfl ?_
  refine bind_eq_some (hpair (Nat.lt_trans hhour (by decide)) _) ?_
  refine bind_eq_some (readMark_cons hcolon _) ?_
  refine bind_eq_some (hpair (Nat.lt_trans hminute (by decide)) _) ?_
  refine bind_eq_some (readMark_cons hcolon _) ?_
  refine bind_eq_some (hpair (Nat.lt_of_le_of_lt hsecond (by decide)) _) ?_
  refine bind_eq_some (readFraction_fractionText hnanos) ?_
  refine bind_eq_some hzone ?_
  subst ht
  simpa [hyear, hdate, hhour, hminute, hsecond, trimStart] using hrange

theorem ofChars?_chars {t : Timestamp} (h : t.Valid) : ofChars? (t.chars .letter) = some t := by
  obtain ⟨hrange, hnanos⟩ := h
  have hyear := hrange
  simp only [inRange, Bool.and_eq_true, decide_eq_true_eq] at hyear
  have hdays := Time.Date.toDays_ofDays (t.seconds / 86400)
  have hseconds : (t.seconds % 86400).toNat = t.seconds % 86400 := by omega
  generalize (t.seconds % 86400).toNat = time at hseconds
  refine ofChars?_parts hyear (Time.Date.isValid_ofDays _) ?_ ?_ ?_ ?_ ?_ hrange
  · omega
  · omega
  · split <;> omega
  · split <;> omega
  · obtain ⟨seconds, nanos⟩ := t
    simp only at hnanos hdays hseconds ⊢
    rw [hdays, Timestamp.mk.injEq]
    by_cases hleap : 1000000000 ≤ nanos
    · simp only [hleap, if_true]
      constructor
      · omega
      · rw [if_pos (by omega)]
        omega
    · simp only [hleap, if_false]
      constructor
      · omega
      · rw [if_neg (by omega)]

theorem ofString?_render {t : Timestamp} (h : t.Valid) : ofString? t.render = some t := by
  rw [ofString?, render, String.toList_ofList, ofChars?_chars h]

end Timestamp

end PromptRegistry
