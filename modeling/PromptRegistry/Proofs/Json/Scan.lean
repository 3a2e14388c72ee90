import PromptRegistry.Proofs.Json.Number

/-!
# Written values scanned

The compact form of a value is scanned to a draft that has all of it, with the numbers that its
numerals denote (`scan_chars`). Where every number is legible that is the value's own draft.
-/

namespace PromptRegistry.Json

open Scanner

mutual

def Legible : Json → Prop
  | .number n => n.Legible
  | .array items => LegibleItems items
  | .object members => LegibleMembers members
  | _ => True

def LegibleItems : List Json → Prop
  | [] => True
  | v :: vs => v.Legible ∧ LegibleItems vs

def LegibleMembers : List (String × Json) → Prop
  | [] => True
  | (_, v) :: ms => v.Legible ∧ LegibleMembers ms

end

mutual

/-- What is seen of a value in its compact form: of a number, the one that its numeral denotes. -/
def reread : Json → Draft
  | .null => .null
  | .bool b => .bool b
  | .number n => .number (Number.ofChars? n.render.toList)
  | .string s => .string (some s)
  | .array items => .array (rereadItems items) true
  | .object members => .object (rereadMembers members) true

def rereadItems : List Json → List Draft
  | [] => []
  | v :: vs => v.reread :: rereadItems vs

def rereadMembers : List (String × Json) → List (Option String × Draft)
  | [] => []
  | (name, v) :: ms => (some name, v.reread) :: rereadMembers ms

end

mutual

theorem reread_of_legible : (v : Json) → v.Legible → v.reread = v.draft
  | .null, _ | .bool _, _ | .string _, _ => rfl
  | .number _, h => congrArg Draft.number (Number.legible_iff.1 h)
  | .array vs, h => by rw [reread, draft, rereadItems_of_legible vs h]
  | .object ms, h => by rw [reread, draft, rereadMembers_of_legible ms h]

theorem rereadItems_of_legible : (vs : List Json) → LegibleItems vs → rereadItems vs = draftItems vs
  | [], _ => rfl
  | v :: vs, h => by
    rw [rereadItems, draftItems, reread_of_legible v h.1, rereadItems_of_legible vs h.2]

theorem rereadMembers_of_legible :
    (ms : List (String × Json)) → LegibleMembers ms → rereadMembers ms = draftMembers ms
  | [], _ => rfl
  | (name, v) :: ms, h => by
    rw [rereadMembers, draftMembers, reread_of_legible v h.1, rereadMembers_of_legible ms h.2]

end

theorem legibleItems_iff {vs : List Json} : LegibleItems vs ↔ ∀ v ∈ vs, v.Legible := by
  induction vs with
  | nil => simp [LegibleItems]
  | cons v vs ih => simp [LegibleItems, ih]

theorem legibleMembers_iff {ms : List (String × Json)} :
    LegibleMembers ms ↔ ∀ m ∈ ms, m.2.Legible := by
  induction ms with
  | nil => simp [LegibleMembers]
  | cons m ms ih => simp [LegibleMembers, ih]

-- ---------------------------------------------------------------------------
-- Containers
-- ---------------------------------------------------------------------------

theorem reads_emptyArray : Reads ['[', ']'] (.array [] true) :=
  ⟨_, _, rfl, by decide, by decide, fun _ => .delivered⟩

theorem reads_emptyObject : Reads ['\x7b', '\x7d'] (.object [] true) :=
  ⟨_, _, rfl, by decide, by decide, fun _ => .delivered⟩

theorem run_closer {s : Scanner} {stack : List Frame} (h : s.Holds stack v)
    (hc : isCloser c = true) (cs : List Char) :
    s.run (c :: cs) = ((deliver stack v).between c).run cs := by
  rw [run_cons, h.stepChar hc]

theorem run_name (stack : List Frame) (before : List (Option String × Draft)) (name : String) :
    run ⟨stack, .nextName before⟩ (stringChars name ++ [':']) =
      ⟨.members before (some name) :: stack, .value⟩ := by
  have hquote : run ⟨stack, .nextName before⟩ (stringChars name) =
      run ⟨stack, .string (.name before) .empty⟩ (name.toList.flatMap escapeChar ++ ['"']) := rfl
  rw [run_append, hquote, run_string, endString, text?_reverse]
  rfl

theorem itemChars_cons (v : Json) (vs : List Json) :
    ∃ cs, itemChars (v :: vs) = v.chars ++ cs := by
  cases vs with
  | nil => exact ⟨[], (List.append_nil _).symm⟩
  | cons w vs => exact ⟨_, rfl⟩

theorem memberChars_cons (m : String × Json) (ms : List (String × Json)) :
    ∃ cs, memberChars (m :: ms) = '"' :: cs := by
  cases ms with
  | nil => exact ⟨_, rfl⟩
  | cons n ms => exact ⟨_, rfl⟩

-- The items and members are read in the order of the text, with those before them in the frame.
mutual

theorem reads_chars : (v : Json) → Reads v.chars v.reread
  | .null => reads_null
  | .bool b => reads_bool b
  | .number n => n.reads_render
  | .string s => reads_string s
  | .array [] => reads_emptyArray
  | .object [] => reads_emptyObject
  | .array (v :: vs) => by
    refine ⟨_, _, rfl, by decide, by decide, fun stack => ?_⟩
    obtain ⟨cs, hcs⟩ := itemChars_cons v vs
    have hfirst := (reads_chars v).run_firstItem stack (cs ++ [']'])
    rw [← List.append_assoc, ← hcs, run_itemChars [] stack (v :: vs) (List.cons_ne_nil _ _)]
      at hfirst
    exact hfirst ▸ .delivered
  | .object (m :: ms) => by
    refine ⟨_, _, rfl, by decide, by decide, fun stack => ?_⟩
    obtain ⟨cs, hcs⟩ := memberChars_cons m ms
    have hfirst : run ⟨stack, .firstName⟩ (memberChars (m :: ms) ++ ['\x7d']) =
        run ⟨stack, .nextName []⟩ (memberChars (m :: ms) ++ ['\x7d']) := by rw [hcs]; rfl
    rw [run_memberChars [] stack (m :: ms) (List.cons_ne_nil _ _)] at hfirst
    exact hfirst ▸ .delivered

theorem run_itemChars (before : List Draft) (stack : List Frame) :
    (vs : List Json) → vs ≠ [] →
      run ⟨.items before :: stack, .value⟩ (itemChars vs ++ [']']) =
        deliver stack (.array (before.reverse ++ rereadItems vs) true)
  | [], h => absurd rfl h
  | [v], _ => by
    have hread := (reads_chars v).value (.items before :: stack)
    rw [itemChars, run_append, run_closer hread rfl]
    simp [deliver, between, rereadItems]
  | v :: w :: vs, _ => by
    have hread := (reads_chars v).value (.items before :: stack)
    have htext : itemChars (v :: w :: vs) ++ [']'] =
        v.chars ++ ',' :: (itemChars (w :: vs) ++ [']']) := by simp [itemChars]
    have hrest := run_itemChars (v.reread :: before) stack (w :: vs) (List.cons_ne_nil _ _)
    rw [List.reverse_cons, List.append_assoc] at hrest
    rw [htext, run_append, run_closer hread rfl]
    exact hrest

theorem run_memberChars (before : List (Option String × Draft)) (stack : List Frame) :
    (ms : List (String × Json)) → ms ≠ [] →
      run ⟨stack, .nextName before⟩ (memberChars ms ++ ['\x7d']) =
        deliver stack (.object (before.reverse ++ rereadMembers ms) true)
  | [], h => absurd rfl h
  | [(name, v)], _ => by
    have hread := (reads_chars v).value (.members before (some name) :: stack)
    have htext : memberChars [(name, v)] ++ ['\x7d'] =
        stringChars name ++ [':'] ++ (v.chars ++ ['\x7d']) := by simp [memberChars]
    rw [htext, run_append, run_name, run_append, run_closer hread rfl]
    simp [deliver, between, rereadMembers]
  | (name, v) :: n :: ms, _ => by
    have hread := (reads_chars v).value (.members before (some name) :: stack)
    have htext : memberChars ((name, v) :: n :: ms) ++ ['\x7d'] =
        stringChars name ++ [':'] ++ (v.chars ++ ',' :: (memberChars (n :: ms) ++ ['\x7d'])) := by
      simp [memberChars]
    have hrest := run_memberChars ((some name, v.reread) :: before) stack (n :: ms)
      (List.cons_ne_nil _ _)
    rw [List.reverse_cons, List.append_assoc] at hrest
    rw [htext, run_append, run_name, run_append, run_closer hread rfl]
    exact hrest

end

/-- The compact form is read as one value and nothing else. -/
theorem scan_chars (v : Json) : scan (v.chars.map some) = ⟨v.reread, false⟩ :=
  (reads_chars v).scan

end PromptRegistry.Json
