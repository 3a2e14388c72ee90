import PromptRegistry.Json.Draft
import PromptRegistry.Json.Printer

/-!
# Runs of the scanner

What the scanner makes of the pieces of a written value. `Reads` says of a text that it is read as
a draft wherever a value may begin, whatever stands around it: a literal, a string and a numeral
are read so.
-/

namespace PromptRegistry.Json

namespace Scanner

def run (s : Scanner) (cs : List Char) : Scanner := cs.foldl stepChar s

@[simp] theorem run_nil (s : Scanner) : s.run [] = s := rfl

@[simp] theorem run_cons (s : Scanner) (c : Char) (cs : List Char) :
    s.run (c :: cs) = (s.stepChar c).run cs := rfl

@[simp] theorem run_append (s : Scanner) (cs ds : List Char) :
    s.run (cs ++ ds) = (s.run cs).run ds := List.foldl_append

theorem scan_eq_finish (cs : List Char) : scan (cs.map some) = (start.run cs).finish := by
  rw [scan, List.foldl_map]
  rfl

/-- A value has been read: it is delivered, or it is a numeral that may end here. -/
inductive Holds (stack : List Frame) (v : Draft) : Scanner → Prop
  | delivered : Holds stack v (deliver stack v)
  | numeral (phase : Phase) (chars : List Char) (hend : phase.mayEnd = true)
      (hv : v = .number (Number.ofChars? chars.reverse)) :
      Holds stack v ⟨stack, .numeral phase chars⟩

variable {stack : List Frame} {v : Draft}

theorem settle_deliver (stack : List Frame) (v : Draft) :
    (deliver stack v).settle = deliver stack v := by
  cases stack with
  | nil => rfl
  | cons frame stack => cases frame <;> rfl

theorem Holds.settle {s : Scanner} (h : s.Holds stack v) : s.settle = deliver stack v := by
  cases h with
  | delivered => exact settle_deliver stack v
  | numeral phase chars hend hv =>
    subst hv
    exact if_pos hend

theorem stepChar_deliver (stack : List Frame) (v : Draft) (hc : isGap c = false) :
    (deliver stack v).stepChar c = (deliver stack v).between c := by
  cases stack with
  | nil => simp [deliver, stepChar, hc]
  | cons frame stack => cases frame <;> simp [deliver, stepChar, hc]

def isCloser (c : Char) : Bool := c = ',' || c = ']' || c = '\x7d'

theorem Holds.stepChar {s : Scanner} (h : s.Holds stack v) (hc : isCloser c = true) :
    s.stepChar c = (deliver stack v).between c := by
  have hcases : c = ',' ∨ c = ']' ∨ c = '\x7d' := by simpa [isCloser, or_assoc] using hc
  have hgap : isGap c = false := by rcases hcases with rfl | rfl | rfl <;> decide
  cases h with
  | delivered => exact stepChar_deliver stack v hgap
  | numeral phase chars hend hv =>
    subst hv
    have hnext : phase.next? c = none := by
      rcases hcases with rfl | rfl | rfl <;> cases phase <;> decide
    have hrefuses : phase.refuses c = false := by
      rcases hcases with rfl | rfl | rfl <;> cases phase <;> first | decide | cases hend
    simp [Scanner.stepChar, hnext, hrefuses, hgap]

/-- Wherever a value may begin, the text is read as the draft. -/
def Reads (text : List Char) (v : Draft) : Prop :=
  ∃ c cs, text = c :: cs ∧ isGap c = false ∧ c ≠ ']' ∧
    ∀ stack, Holds stack v ((beginValue stack c).run cs)

theorem Reads.value {text : List Char} (h : Reads text v) (stack : List Frame) :
    Holds stack v (run ⟨stack, .value⟩ text) := by
  obtain ⟨c, cs, rfl, hgap, -, hread⟩ := h
  have hstep : stepChar ⟨stack, .value⟩ c = beginValue stack c := by
    simp [Scanner.stepChar, hgap, between]
  rw [run_cons, hstep]
  exact hread stack

theorem Reads.run_firstItem {text : List Char} (h : Reads text v) (stack : List Frame)
    (ds : List Char) :
    run ⟨stack, .firstItem⟩ (text ++ ds) = run ⟨.items [] :: stack, .value⟩ (text ++ ds) := by
  obtain ⟨c, cs, rfl, hgap, hclose, -⟩ := h
  have hstep : stepChar ⟨stack, .firstItem⟩ c = stepChar ⟨.items [] :: stack, .value⟩ c := by
    simp [Scanner.stepChar, hgap, hclose, between]
  rw [List.cons_append, run_cons, run_cons, hstep]

theorem Reads.scan {text : List Char} (h : Reads text v) : scan (text.map some) = ⟨v, false⟩ := by
  have hsettle : (start.run text).settle = deliver [] v := (h.value []).settle
  rw [scan_eq_finish, finish, hsettle]
  rfl

-- ---------------------------------------------------------------------------
-- Literals
-- ---------------------------------------------------------------------------

theorem reads_null : Reads ['n', 'u', 'l', 'l'] .null :=
  ⟨_, _, rfl, by decide, by decide, fun _ => .delivered⟩

theorem reads_bool (b : Bool) : Reads (Json.bool b).chars (.bool b) := by
  cases b with
  | true => exact ⟨_, _, rfl, by decide, by decide, fun _ => .delivered⟩
  | false => exact ⟨_, _, rfl, by decide, by decide, fun _ => .delivered⟩

-- ---------------------------------------------------------------------------
-- Strings
-- ---------------------------------------------------------------------------

theorem hexValue?_hexDigit {d : Nat} (h : d < 16) : hexValue? (hexDigit d) = some d := by
  have : ∀ d, d < 16 → hexValue? (hexDigit d) = some d := by decide
  exact this d h

theorem run_escapeChar (stack : List Frame) (role : Role) (read : List Char) (c : Char) :
    run ⟨stack, .string role ⟨read, none, true⟩⟩ (escapeChar c) =
      ⟨stack, .string role ⟨c :: read, none, true⟩⟩ := by
  unfold escapeChar
  split; · next h => subst h; rfl
  next hquote =>
  split; · next h => subst h; rfl
  next hslash =>
  split; · next h => subst h; rfl
  split; · next h => subst h; rfl
  split; · next h => subst h; rfl
  split; · next h => subst h; rfl
  split; · next h => subst h; rfl
  split
  · next hcontrol =>
    have hhigh : c.toNat / 16 < 16 := by omega
    have hlow : c.toNat % 16 < 16 := Nat.mod_lt _ (by decide)
    have hsum : c.toNat / 16 * 16 + c.toNat % 16 = c.toNat := Nat.div_add_mod' ..
    have hzero : hexValue? '0' = some 0 := by decide
    have hunit : ¬(0xD800 ≤ c.toNat ∧ c.toNat ≤ 0xDBFF) ∧
        ¬(0xDC00 ≤ c.toNat ∧ c.toNat ≤ 0xDFFF) := by omega
    simp [stepChar, hzero, hexValue?_hexDigit hhigh, hexValue?_hexDigit hlow, Spelling.pushUnit,
      Spelling.push, hsum, hunit]
  · next hplain =>
    simp [stepChar, hquote, hslash, hplain, Spelling.push]

theorem run_flatMap_escapeChar (stack : List Frame) (role : Role) (read cs : List Char) :
    run ⟨stack, .string role ⟨read, none, true⟩⟩ (cs.flatMap escapeChar) =
      ⟨stack, .string role ⟨cs.reverse ++ read, none, true⟩⟩ := by
  induction cs generalizing read with
  | nil => rfl
  | cons c cs ih =>
    rw [List.flatMap_cons, run_append, run_escapeChar, ih, List.reverse_cons, List.append_assoc]
    rfl

theorem run_string (stack : List Frame) (role : Role) (s : String) :
    run ⟨stack, .string role .empty⟩ (s.toList.flatMap escapeChar ++ ['"']) =
      endString stack role ⟨s.toList.reverse, none, true⟩ := by
  rw [run_append, Spelling.empty, run_flatMap_escapeChar, List.append_nil]
  rfl

theorem text?_reverse (s : String) : Spelling.text? ⟨s.toList.reverse, none, true⟩ = some s := by
  simp [Spelling.text?]

theorem reads_string (s : String) : Reads (stringChars s) (.string (some s)) := by
  refine ⟨_, _, rfl, by decide, by decide, fun stack => ?_⟩
  have hrun := run_string stack .value s
  rw [endString, text?_reverse] at hrun
  exact hrun ▸ .delivered

end Scanner

end PromptRegistry.Json
