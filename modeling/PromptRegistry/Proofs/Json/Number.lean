import PromptRegistry.Proofs.Json.Scanner
import PromptRegistry.Proofs.Json.Value
import PromptRegistry.Proofs.Text.Numeral
import PromptRegistry.Proofs.Text.Stretch

/-!
# Written numbers

Every number is written as a numeral (`Binary64.render_eq`), so its text is read as the number of
that numeral wherever a value may stand (`Number.reads_render`). A number is legible when that is
the number itself. Natural numbers of 64 bits are legible.
-/

namespace PromptRegistry

open Text

namespace Json

open Scanner

-- ---------------------------------------------------------------------------
-- Numerals
-- ---------------------------------------------------------------------------

namespace Scanner

def Phase.first? (c : Char) : Option Phase :=
  if c = '-' then some .minus
  else if c = '0' then some .zero
  else if isAsciiDigit c then some .whole
  else none

def Phase.after? (p : Phase) (cs : List Char) : Option Phase := cs.foldlM next? p

theorem Phase.after?_cons (p : Phase) (c : Char) (cs : List Char) :
    p.after? (c :: cs) = (p.next? c).bind (·.after? cs) := by
  rw [after?, List.foldlM_cons]
  rfl

theorem Phase.after?_append {p q : Phase} (h : p.after? cs = some q) (ds : List Char) :
    p.after? (cs ++ ds) = q.after? ds := by
  rw [after?, List.foldlM_append, ← after?, h]
  rfl

variable {p q : Phase} {c : Char} {cs : List Char} {stack : List Frame}

theorem beginValue_first (h : Phase.first? c = some p) (stack : List Frame) :
    beginValue stack c = ⟨stack, .numeral p [c]⟩ := by
  unfold Phase.first? at h
  unfold beginValue
  split at h
  · next hc =>
    subst hc
    cases h
    rfl
  split at h
  · next hc =>
    subst hc
    cases h
    rfl
  split at h
  · next hminus hzero hdigit =>
    cases h
    have hne {d : Char} (hd : isAsciiDigit d = false) : c ≠ d := by
      rintro rfl
      exact absurd (hdigit.symm.trans hd) (by decide)
    rw [if_neg (hne (by decide)), if_neg (hne (by decide)), if_neg (hne (by decide)),
      if_neg hminus, if_neg hzero, if_pos hdigit]
  · cases h

theorem first_of_next (h : Phase.minus.next? c = some p) : Phase.first? c = some p := by
  have hminus : c ≠ '-' := by
    rintro rfl
    cases h
  simpa [Phase.first?, Phase.next?, hminus] using h

theorem ne_of_first (h : Phase.first? c = some p) : isGap c = false ∧ c ≠ ']' := by
  constructor
  · cases hgap : isGap c with
    | false => rfl
    | true =>
      simp only [isGap, Bool.or_eq_true, decide_eq_true_eq] at hgap
      rcases hgap with ((rfl | rfl) | rfl) | rfl <;> cases h
  · rintro rfl
    cases h

theorem run_numeral (h : p.after? cs = some q) (stack : List Frame) (read : List Char) :
    run ⟨stack, .numeral p read⟩ cs = ⟨stack, .numeral q (cs.reverse ++ read)⟩ := by
  induction cs generalizing p read with
  | nil =>
    cases h
    rfl
  | cons c cs ih =>
    rw [Phase.after?_cons, Option.bind_eq_some_iff] at h
    obtain ⟨p', hp', h⟩ := h
    have hstep : stepChar ⟨stack, .numeral p read⟩ c = ⟨stack, .numeral p' (c :: read)⟩ := by
      simp [stepChar, hp']
    rw [run_cons, hstep, ih h, List.reverse_cons, List.append_assoc]
    rfl

theorem reads_numeral (hfirst : Phase.first? c = some p) (h : p.after? cs = some q)
    (hend : q.mayEnd = true) : Reads (c :: cs) (.number (Number.ofChars? (c :: cs))) := by
  refine ⟨c, cs, rfl, (ne_of_first hfirst).1, (ne_of_first hfirst).2, fun stack => ?_⟩
  rw [beginValue_first hfirst, run_numeral h]
  exact .numeral _ _ hend (by simp)

-- ---------------------------------------------------------------------------
-- Digits
-- ---------------------------------------------------------------------------

/-- Once inside of a run of digits, a numeral stays there. -/
theorem Phase.after?_digits (hp : ∀ d, isAsciiDigit d = true → p.next? d = some p) {ds : List Char}
    (hds : ∀ d ∈ ds, isAsciiDigit d = true) : p.after? ds = some p := by
  induction ds with
  | nil => rfl
  | cons d ds ih =>
    rw [List.forall_mem_cons] at hds
    rw [after?_cons, hp d hds.1]
    exact ih hds.2

theorem Phase.next?_whole (d : Char) (h : isAsciiDigit d = true) : whole.next? d = some whole := by
  simp [next?, h]

theorem Phase.next?_fraction (d : Char) (h : isAsciiDigit d = true) :
    fraction.next? d = some fraction := by
  simp [next?, h]

theorem Phase.next?_power (d : Char) (h : isAsciiDigit d = true) : power.next? d = some power := by
  simp [next?, h]

theorem Phase.after?_run (hp : ∀ d, isAsciiDigit d = true → p.next? d = some q)
    (hq : ∀ d, isAsciiDigit d = true → q.next? d = some q) {ds : List Char}
    (hds : ∀ d ∈ ds, isAsciiDigit d = true) (hne : ds ≠ []) : p.after? ds = some q := by
  obtain ⟨d, ds, rfl⟩ := List.exists_cons_of_ne_nil hne
  rw [List.forall_mem_cons] at hds
  rw [after?_cons, hp d hds.1]
  exact after?_digits hq hds.2

theorem Phase.after?_point {ds : List Char} (hds : ∀ d ∈ ds, isAsciiDigit d = true)
    (hne : ds ≠ []) : point.after? ds = some fraction :=
  after?_run (fun d hd => by simp [next?, hd]) next?_fraction hds hne

theorem Phase.after?_take {n k : Nat} (h : n ≠ 0) (hk : 0 < k) :
    minus.after? ((Decimal.digits n).take k) = some whole := by
  obtain ⟨d, ds, hds, hd⟩ := Decimal.digits_eq_cons h
  have hall := Decimal.all_digits n
  rw [hds, List.forall_mem_cons] at hall
  have hfirst : minus.next? d = some whole := by simp [next?, hd, hall.1]
  obtain ⟨k, rfl⟩ := Nat.exists_eq_add_of_lt hk
  rw [hds, Nat.zero_add, List.take_succ_cons, after?_cons, hfirst]
  exact after?_digits next?_whole fun c hc => hall.2 c (List.mem_of_mem_take hc)

theorem Phase.after?_minus {n : Nat} (h : n ≠ 0) :
    minus.after? (Decimal.digits n) = some whole := by
  have htake := after?_take h (List.length_pos_iff.2 (Decimal.digits_ne_nil n))
  rwa [List.take_length] at htake

theorem Phase.after?_zeros {n k : Nat} (h : n ≠ 0 ∨ k = 0) :
    ∃ p, minus.after? (Decimal.digits n ++ List.replicate k '0') = some p ∧
      p.next? '.' = some .point := by
  by_cases hzero : n = 0
  · rw [hzero, h.resolve_left (not_not_intro hzero), Decimal.digits]
    exact ⟨.zero, rfl, rfl⟩
  · refine ⟨.whole, ?_, rfl⟩
    rw [after?_append (after?_minus hzero)]
    exact after?_digits next?_whole (Decimal.all_zeros k)

theorem Phase.after?_digit {d : Char} (hd : isAsciiDigit d = true) :
    ∃ p, minus.after? [d] = some p ∧ p.next? '.' = some .point ∧ p.next? 'e' = some .mark := by
  by_cases hzero : d = '0'
  · exact ⟨.zero, by rw [hzero]; rfl, rfl, rfl⟩
  · exact ⟨.whole, by simp [after?, next?, hzero, hd], rfl, rfl⟩

theorem Phase.after?_mark (k : Int) :
    mark.after? (Decimal.renderInt k).toList = some power := by
  cases k with
  | ofNat n =>
    simp only [Decimal.renderInt, Decimal.render, String.toList_ofList]
    exact after?_run (fun d hd => by simp [next?, hd]) next?_power (Decimal.all_digits n)
      (Decimal.digits_ne_nil n)
  | negSucc n =>
    simp only [Decimal.renderInt, String.toList_ofList]
    exact after?_run (p := .sign) (fun d hd => by simp [next?, hd]) next?_power
      (Decimal.all_digits (n + 1)) (Decimal.digits_ne_nil (n + 1))

end Scanner

-- ---------------------------------------------------------------------------
-- What is written is a numeral
-- ---------------------------------------------------------------------------

/-- The characters are a numeral without its sign. -/
def IsMagnitude (cs : List Char) : Prop := ∃ q, Phase.minus.after? cs = some q ∧ q.mayEnd = true

theorem IsMagnitude.digits (n : Nat) : IsMagnitude (Decimal.digits n) := by
  by_cases h : n = 0
  · subst h
    exact ⟨.zero, by rw [Decimal.digits]; rfl, rfl⟩
  · exact ⟨.whole, Phase.after?_minus h, rfl⟩

theorem IsMagnitude.fraction {p : Phase} {whole ds : List Char}
    (hwhole : Phase.minus.after? whole = some p) (hpoint : p.next? '.' = some .point)
    (hds : ∀ d ∈ ds, isAsciiDigit d = true) (hne : ds ≠ []) : IsMagnitude (whole ++ '.' :: ds) := by
  refine ⟨.fraction, ?_, rfl⟩
  rw [Phase.after?_append hwhole, Phase.after?_cons, hpoint]
  exact Phase.after?_point hds hne

theorem IsMagnitude.power {p : Phase} {cs : List Char} (hcs : Phase.minus.after? cs = some p)
    (hmark : p.next? 'e' = some .mark) (k : Int) :
    IsMagnitude (cs ++ 'e' :: (Decimal.renderInt k).toList) := by
  refine ⟨.power, ?_, rfl⟩
  rw [Phase.after?_append hcs, Phase.after?_cons, hmark]
  exact Phase.after?_mark k

theorem IsMagnitude.reads (h : IsMagnitude cs) : Reads cs (.number (Number.ofChars? cs)) := by
  obtain ⟨q, hq, hend⟩ := h
  cases cs with
  | nil =>
    cases hq
    cases hend
  | cons c cs =>
    rw [Phase.after?_cons, Option.bind_eq_some_iff] at hq
    obtain ⟨p, hp, hq⟩ := hq
    exact reads_numeral (first_of_next hp) hq hend

theorem IsMagnitude.reads_negative (h : IsMagnitude cs) :
    Reads ('-' :: cs) (.number (Number.ofChars? ('-' :: cs))) := by
  obtain ⟨q, hq, hend⟩ := h
  exact reads_numeral rfl hq hend

end Json

-- ---------------------------------------------------------------------------
-- The digits of floating-point numbers
-- ---------------------------------------------------------------------------

namespace Binary64

open Json Json.Scanner

variable {x : Binary64}

theorem roundsBack_zero (h : x.mantissa ≠ 0) (power : Int) : x.roundsBack 0 power = false := by
  have hratio : 0 < x.ratio.1 := by
    unfold ratio
    split
    · exact Nat.mul_pos (Nat.pos_of_ne_zero h) (Nat.pow_pos (by decide))
    · exact Nat.pos_of_ne_zero h
  have hlow : 0 < x.ratio.1 * (4 * x.mantissa -
      if x.mantissa = Nat.pow 2 52 ∧ leastExponent < x.exponent then 1 else 2) :=
    Nat.mul_pos hratio (by split <;> omega)
  unfold roundsBack
  simp only
  generalize x.ratio.1 * (4 * x.mantissa - _) = low at hlow
  split
  · have hscaled : 0 < low * 10 ^ (-power).toNat :=
      Nat.mul_pos hlow (Nat.pow_pos (by decide))
    split <;> simp [Nat.ne_of_gt hlow, Nat.ne_of_gt hscaled]
  · split <;> simp

theorem digits_ne_zero_of_onGrid (hx : x.mantissa ≠ 0) (h : x.onGrid? power = some d) :
    d.digits ≠ 0 := by
  have hround (n : Nat) (hn : x.roundsBack n power = true) : n ≠ 0 := by
    rintro rfl
    rw [roundsBack_zero hx] at hn
    cases hn
  unfold onGrid? at h
  simp only at h
  generalize roundDiv _ _ = nearest at h
  generalize (if nearest = _ then _ + 1 else _) = other at h
  split at h
  · next hn =>
    cases h
    exact hround _ hn
  split at h
  · next hn =>
    cases h
    exact hround _ hn
  · cases h

/-- A grid gives digits that are not zero; where no grid does, they are zero at the last place. -/
theorem digits_firstGrid (hx : x.mantissa ≠ 0) (lead : Int) (fuel width : Nat) :
    (x.firstGrid lead fuel width).digits ≠ 0 ∨ (x.firstGrid lead fuel width).power = 0 := by
  induction fuel generalizing width with
  | zero => exact .inr rfl
  | succ fuel ih =>
    rw [firstGrid]
    split
    · next h => exact .inl (digits_ne_zero_of_onGrid hx h)
    · exact ih (width + 1)

theorem digits_stripped {d : Digits} (h : d.digits ≠ 0 ∨ d.power = 0) (fuel : Nat) :
    (d.stripped fuel).digits ≠ 0 ∨ (d.stripped fuel).power = 0 := by
  induction fuel generalizing d with
  | zero => exact h
  | succ fuel ih =>
    rw [Digits.stripped]
    split
    · exact ih (.inl (by simp only; omega))
    · exact h

theorem digits_shortest (x : Binary64) : x.shortest.digits ≠ 0 ∨ x.shortest.power = 0 := by
  unfold shortest
  split
  · exact .inr rfl
  · next hx => exact digits_stripped (digits_firstGrid hx _ _ _) _

/-- A number has a sign if it is negative, and a magnitude. -/
theorem render_eq (x : Binary64) :
    ∃ cs, IsMagnitude cs ∧ x.render.toList = if x.negative then '-' :: cs else cs := by
  have hsign (cs : List Char) : (if x.negative then ['-'] else []) ++ cs =
      if x.negative then '-' :: cs else cs := by split <;> rfl
  unfold render
  simp only
  split
  · refine ⟨['0', '.', '0'], ⟨.fraction, rfl, rfl⟩, ?_⟩
    rw [String.toList_ofList, hsign]
  rw [String.toList_ofList, hsign]
  refine ⟨_, ?_, rfl⟩
  have hshortest := digits_shortest x
  generalize x.shortest = s at hshortest
  have hall := Decimal.all_digits s.digits
  have hne := Decimal.digits_ne_nil s.digits
  split
  · have hpower : s.digits ≠ 0 ∨ s.power.toNat = 0 := hshortest.imp_right (by omega)
    obtain ⟨p, hwhole, hpoint⟩ := Phase.after?_zeros hpower
    exact .fraction hwhole hpoint (List.forall_mem_singleton.2 (by decide))
      (List.cons_ne_nil _ _)
  split
  · next h =>
    have hzero : s.digits ≠ 0 := hshortest.resolve_right (by omega)
    refine .fraction (Phase.after?_take hzero (by omega)) rfl
      (fun c hc => hall c (List.mem_of_mem_drop hc)) ?_
    rw [ne_eq, List.drop_eq_nil_iff]
    omega
  split
  · have hzero : Phase.minus.after? ['0'] = some .zero := rfl
    exact .fraction hzero rfl (List.forall_mem_append.2 ⟨Decimal.all_zeros _, hall⟩)
      (List.append_ne_nil_of_right_ne_nil _ hne)
  · generalize Decimal.digits s.digits = ds at hall hne
    split
    · next d =>
      obtain ⟨p, hp, -, hmark⟩ := Phase.after?_digit (hall d (.head _))
      exact .power hp hmark _
    · next d more hmore =>
      rw [List.forall_mem_cons] at hall
      obtain ⟨p, hp, hpoint, -⟩ := Phase.after?_digit hall.1
      have hdigits : Phase.minus.after? ([d] ++ '.' :: more) = some .fraction := by
        rw [Phase.after?_append hp, Phase.after?_cons, hpoint]
        exact Phase.after?_point hall.2 hmore
      exact .power hdigits rfl _
    · exact absurd rfl hne

end Binary64

-- ---------------------------------------------------------------------------
-- Legible numbers
-- ---------------------------------------------------------------------------

namespace Json

open Scanner

/-- The text of a number is read as the number of its numeral, whatever number that is. -/
theorem Number.reads_render (n : Number) :
    Reads n.render.toList (.number (ofChars? n.render.toList)) := by
  cases n with
  | integer n =>
    cases n with
    | ofNat n =>
      have htext : (integer (.ofNat n)).render.toList = Decimal.digits n := String.toList_ofList
      rw [htext]
      exact (IsMagnitude.digits n).reads
    | negSucc n =>
      have htext : (integer (.negSucc n)).render.toList = '-' :: Decimal.digits (n + 1) :=
        String.toList_ofList
      rw [htext]
      exact (IsMagnitude.digits (n + 1)).reads_negative
  | real x =>
    obtain ⟨cs, hcs, htext⟩ := x.render_eq
    have htext : (real x).render.toList = if x.negative then '-' :: cs else cs := htext
    rw [htext]
    split
    · exact hcs.reads_negative
    · exact hcs.reads

/-- The text of the number, read alone, gives the number. -/
def Number.Legible (n : Number) : Prop := Decode.json.runString n.render = .ok (.number n)

theorem Number.legible_iff {n : Number} : n.Legible ↔ ofChars? n.render.toList = some n := by
  rw [Legible, Decode.runString, Decode.run, n.reads_render.scan]
  cases ofChars? n.render.toList with
  | none => exact ⟨nofun, nofun⟩
  | some m =>
    constructor
    · intro h
      cases h
      rfl
    · intro h
      cases h
      rfl

-- the shorter numeral of two for numbers next to each other denotes the other one
example : (Number.ofChars? "1.0000000000000001e-24".toList).map Number.render = some "1e-24" ∧
    Number.ofChars? "1e-24".toList ≠ Number.ofChars? "1.0000000000000001e-24".toList := by
  decide +kernel

theorem Number.legible_of_reads {n : Number} (h : Reads n.render.toList (.number (some n))) :
    n.Legible := by
  rw [Legible, Decode.runString, Decode.run, h.scan]
  rfl

-- ---------------------------------------------------------------------------
-- Natural numbers
-- ---------------------------------------------------------------------------

theorem Number.leading_eq (n : Nat) (ds : List Char)
    (h : ds.foldl (fun n d => 10 * n + Decimal.digitValue d) n ≤ greatestNat) :
    leading n ds = (ds.foldl (fun n d => 10 * n + Decimal.digitValue d) n, []) := by
  have hgrow (n : Nat) (ds : List Char) :
      n ≤ ds.foldl (fun n d => 10 * n + Decimal.digitValue d) n := by
    induction ds generalizing n with
    | nil => exact Nat.le_refl n
    | cons d ds ih => exact Nat.le_trans (by omega) (ih (10 * n + Decimal.digitValue d))
  induction ds generalizing n with
  | nil => rfl
  | cons d ds ih =>
    have hnext : ¬greatestNat < 10 * n + Decimal.digitValue d :=
      Nat.not_lt.2 (Nat.le_trans (hgrow _ ds) h)
    rw [leading]
    simp only [hnext, if_false]
    exact ih _ h

theorem Number.ofChars?_digits {n : Nat} (h : n < UInt64.size) :
    ofChars? (Decimal.digits n) = some (.ofNat n) := by
  have hall := Decimal.all_digits n
  have hvalue : (Decimal.digits n).foldl (fun n d => 10 * n + Decimal.digitValue d) 0 = n :=
    Decimal.value_digits n
  have hminus : (Decimal.digits n).head? ≠ some '-' := by
    intro hhead
    exact absurd (hall '-' (List.mem_of_mem_head? hhead)) (by decide)
  have hcut := takeWhile_stretch hall [] rfl
  rw [List.append_nil] at hcut
  have hnumeral : Numeral.ofChars (Decimal.digits n) = ⟨false, Decimal.digits n, [], none⟩ := by
    simp [Numeral.ofChars, hminus, hcut]
  have hleading : leading 0 (Decimal.digits n) = (n, []) := by
    rw [leading_eq 0 _ (by rw [hvalue]; exact Nat.le_of_lt_succ h), hvalue]
  rw [ofChars?, hnumeral, Numeral.number?, hleading]
  rfl

theorem Number.legible_ofNat {n : Nat} (h : n < UInt64.size) : (Number.ofNat n).Legible := by
  have htext : (Number.ofNat n).render.toList = Decimal.digits n := String.toList_ofList
  rw [legible_iff, htext]
  exact ofChars?_digits h

end Json

end PromptRegistry
