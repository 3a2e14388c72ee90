import PromptRegistry.Time.Calendar

/-!
# Days and dates

The date of a day exists, and the number of that date is the day again (`isValid_ofDays`,
`toDays_ofDays`). Behind both is how the 400 years of an era are cut up: in centuries, spans of four
years and years, of which only the last of a span may have one day more.
-/

namespace PromptRegistry.Time

/-- A day of an era: its century, its span of four years there, its year of the span and its day
of the year. The last year of a span has a 366th day unless it ends a century but the last. -/
structure Place (d c q r k : Int) : Prop where
  century : 0 ≤ c ∧ c ≤ 3
  span : 0 ≤ q ∧ q ≤ 24
  year : 0 ≤ r ∧ r ≤ 3
  day : 0 ≤ k ∧ k ≤ 365
  last : k = 365 → r = 3 ∧ (q = 24 → c = 3)
  eq : d = 36524 * c + 1461 * q + 365 * r + k

theorem Place.exists {d : Int} (h : 0 ≤ d ∧ d < 146097) : ∃ c q r k, Place d c q r k := by
  obtain ⟨c, hc⟩ : ∃ c, c = min (d / 36524) 3 := ⟨_, rfl⟩
  obtain ⟨q, hq⟩ : ∃ q, q = (d - 36524 * c) / 1461 := ⟨_, rfl⟩
  obtain ⟨r, hr⟩ : ∃ r, r = min ((d - 36524 * c - 1461 * q) / 365) 3 := ⟨_, rfl⟩
  refine ⟨c, q, r, d - 36524 * c - 1461 * q - 365 * r, ?_, ?_, ?_, ?_, ?_, ?_⟩ <;> omega

variable {d c q r k : Int}

/-- The days that are taken off are those that the years before have beyond 365. -/
theorem Place.yearOfEra_eq (h : Place d c q r k) :
    (d - d / 1460 + d / 36524 - d / 146096) / 365 = 100 * c + 4 * q + r := by
  obtain ⟨hc, hq, hr, hk, hlast, hd⟩ := h
  have hspans : d / 1460 = 25 * c + q + if 1460 ≤ 24 * c + q + 365 * r + k then 1 else 0 := by
    split <;> omega
  have hcenturies : d / 36524 - d / 146096 = c := by
    by_cases hend : d = 146096
    · omega
    · have hera : d / 146096 = 0 := by omega
      have hcentury : d / 36524 = c := by omega
      omega
  have hsum : d - d / 1460 + d / 36524 - d / 146096 = 365 * (100 * c + 4 * q + r) + k -
      if 1460 ≤ 24 * c + q + 365 * r + k then 1 else 0 := by omega
  rw [hsum]
  split <;> omega

theorem Place.dayOfYear_eq (h : Place d c q r k) : d - (365 * (100 * c + 4 * q + r) +
    (100 * c + 4 * q + r) / 4 - (100 * c + 4 * q + r) / 100) = k := by
  obtain ⟨hc, hq, hr, hk, hlast, hd⟩ := h
  omega

theorem Place.isLeapYear (h : Place d c q r k) (hk : k = 365) (era : Int) :
    isLeapYear (100 * c + 4 * q + r + era * 400 + 1) = true := by
  obtain ⟨hc, hq, hr, -, hlast, -⟩ := h
  obtain ⟨hr3, hend⟩ := hlast hk
  simp only [Time.isLeapYear, Bool.and_eq_true, Bool.or_eq_true, decide_eq_true_eq, ne_eq]
  omega

namespace Date

theorem lt_hundred {d : Date} (h : d.isValid = true) : d.month < 100 ∧ d.day < 100 := by
  have hdays : daysInMonth d.year d.month ≤ 31 := by
    unfold daysInMonth
    split
    · split <;> decide
    · split <;> decide
  simp only [isValid, Bool.and_eq_true, decide_eq_true_eq] at h
  omega

theorem ofDays_eq (n : Int) : ∃ era c q r k, Place ((n + 719468) % 146097) c q r k ∧
    n + 719468 = era * 146097 + (n + 719468) % 146097 ∧
    ofDays n =
      if (5 * k + 2) / 153 < 10 then
        ⟨100 * c + 4 * q + r + era * 400, ((5 * k + 2) / 153 + 3).toNat,
          (k - (153 * ((5 * k + 2) / 153) + 2) / 5 + 1).toNat⟩
      else
        ⟨100 * c + 4 * q + r + era * 400 + 1, ((5 * k + 2) / 153 - 9).toNat,
          (k - (153 * ((5 * k + 2) / 153) + 2) / 5 + 1).toNat⟩ := by
  obtain ⟨c, q, r, k, h⟩ := Place.exists (d := (n + 719468) % 146097) (by omega)
  refine ⟨(n + 719468) / 146097, c, q, r, k, h, by omega, ?_⟩
  simp only [ofDays, h.yearOfEra_eq, h.dayOfYear_eq]

theorem isValid_ofDays (n : Int) : (ofDays n).isValid = true := by
  obtain ⟨era, c, q, r, k, h, -, heq⟩ := ofDays_eq n
  have hleap : k = 365 → Time.isLeapYear (100 * c + 4 * q + r + era * 400 + 1) = true :=
    fun hk => h.isLeapYear hk era
  have hk := h.day
  rw [heq]
  generalize 100 * c + 4 * q + r + era * 400 = y at hleap ⊢
  obtain ⟨m, hm⟩ : ∃ m, m = (5 * k + 2) / 153 := ⟨_, rfl⟩
  rw [← hm]
  split
  · simp only [isValid, daysInMonth, Bool.and_eq_true, decide_eq_true_eq]
    refine ⟨⟨⟨by omega, by omega⟩, by omega⟩, ?_⟩
    rw [if_neg (by omega)]
    split <;> omega
  · simp only [isValid, daysInMonth, Bool.and_eq_true, decide_eq_true_eq]
    refine ⟨⟨⟨by omega, by omega⟩, by omega⟩, ?_⟩
    by_cases hlast : k = 365
    · rw [hleap hlast, if_pos rfl]
      split <;> omega
    · split
      · split <;> omega
      · split <;> omega

theorem toDays_ofDays (n : Int) : (ofDays n).toDays = n := by
  obtain ⟨era, c, q, r, k, h, hn, heq⟩ := ofDays_eq n
  obtain ⟨hc, hq, hr, hk, -, hd⟩ := h
  obtain ⟨m, hm⟩ : ∃ m, m = (5 * k + 2) / 153 := ⟨_, rfl⟩
  obtain ⟨y, hy⟩ : ∃ y, y = 100 * c + 4 * q + r + era * 400 := ⟨_, rfl⟩
  have hera : y / 400 = era := by omega
  have hyear : y % 400 = 100 * c + 4 * q + r := by omega
  have hspans : (100 * c + 4 * q + r) / 4 = 25 * c + q := by omega
  have hcenturies : (100 * c + 4 * q + r) / 100 = c := by omega
  rw [heq, ← hm, ← hy]
  split
  · have hmonth : ((m + 3).toNat : Int) = m + 3 := by omega
    have hday : ((k - (153 * m + 2) / 5 + 1).toNat : Int) = k - (153 * m + 2) / 5 + 1 := by omega
    simp only [toDays, hmonth, hday]
    rw [if_neg (by omega), if_pos (by omega), hera, hyear, hspans, hcenturies]
    have hback : m + 3 - 3 = m := by omega
    rw [hback]
    omega
  · have hmonth : ((m - 9).toNat : Int) = m - 9 := by omega
    have hday : ((k - (153 * m + 2) / 5 + 1).toNat : Int) = k - (153 * m + 2) / 5 + 1 := by omega
    have hback : m - 9 + 9 = m := by omega
    have hyear' : y + 1 - 1 = y := by omega
    simp only [toDays, hmonth, hday]
    rw [if_pos (by omega), if_neg (by omega), hyear', hera, hyear, hspans, hcenturies, hback]
    omega

end Date

end PromptRegistry.Time
