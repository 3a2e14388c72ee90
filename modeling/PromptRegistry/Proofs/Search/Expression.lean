import PromptRegistry.Proofs.Search.Wildcard
import PromptRegistry.Search.Expression

/-!
# What the expression of a pattern finds

The text made of a pattern reads as the expression it is meant to be, whatever characters the
pattern has (`Expression.read?_expressionOf`). That expression finds the texts that the pattern
matches (`Expression.ofPattern_finds`), so a condition says the same with any matcher of regular
expressions as with the matching of patterns.
-/

namespace PromptRegistry.Search

-- ---------------------------------------------------------------------------
-- Reading the text of an expression
-- ---------------------------------------------------------------------------

def Wildcard.signs : Wildcard → List Expression.Sign
  | .anyRun => [.atom .any, .star]
  | .anyOne => [.atom .any]
  | .char c => [.atom (.char c)]

def Wildcard.part : Wildcard → Part
  | .anyRun => .many .any
  | .anyOne => .one .any
  | .char c => .one (.char c)

namespace Expression

theorem sign?_of_not_isMeta (h : isMeta c = false) : sign? c = some (.atom (.char c)) := by
  have hne : ∀ d, isMeta d = true → c ≠ d := by
    rintro d hd rfl
    rw [h] at hd
    cases hd
  simp only [sign?, hne '^' (by decide), hne '$' (by decide), hne '*' (by decide),
    hne '.' (by decide), h, ↓reduceIte, Bool.false_eq_true]

theorem readSigns_of_sign? (hc : c ≠ '\\') (hs : sign? c = some s) :
    readSigns (c :: cs) = (readSigns cs).map (s :: ·) := by
  rw [readSigns, hs]
  · cases readSigns cs <;> rfl
  · rintro d ds rfl -
    exact hc rfl

theorem readSigns_source (w : Wildcard) (rest : List Char) :
    readSigns (w.source ++ rest) = (readSigns rest).map (w.signs ++ ·) := by
  cases w with
  | anyRun =>
    show readSigns ('.' :: '*' :: rest) = _
    rw [readSigns_of_sign? (by decide) rfl, readSigns_of_sign? (by decide) rfl, Option.map_map]
    rfl
  | anyOne => exact readSigns_of_sign? (by decide) rfl
  | char c =>
    cases hmeta : isMeta c with
    | true => simp [Wildcard.source, Wildcard.signs, escape, readSigns, hmeta]
    | false =>
      have hc : c ≠ '\\' := by
        rintro rfl
        cases hmeta
      simp [Wildcard.source, Wildcard.signs, escape, hmeta,
        readSigns_of_sign? hc (sign?_of_not_isMeta hmeta)]

theorem readSigns_sources (ws : List Wildcard) :
    readSigns (ws.flatMap Wildcard.source ++ ['$']) =
      some (ws.flatMap Wildcard.signs ++ [.stop]) := by
  induction ws with
  | nil => rfl
  | cons w ws ih =>
    rw [List.flatMap_cons, List.append_assoc, readSigns_source, ih, Option.map_some,
      List.flatMap_cons, List.append_assoc]

theorem readParts_atom (h : ∀ rest, signs ≠ .star :: rest) :
    readParts (.atom a :: signs) = (readParts signs).map (.one a :: ·) := by
  rw [readParts]
  exact h

theorem signs_ne_star (ws : List Wildcard) (rest : List Sign) :
    ws.flatMap Wildcard.signs ++ [.stop] ≠ .star :: rest := by
  cases ws with
  | nil => simp
  | cons w ws => cases w <;> simp [Wildcard.signs]

theorem readParts_signs (ws : List Wildcard) :
    readParts (ws.flatMap Wildcard.signs ++ [.stop]) = some (ws.map Wildcard.part ++ [.stop]) := by
  induction ws with
  | nil => rfl
  | cons w ws ih =>
    rw [List.flatMap_cons, List.append_assoc]
    cases w with
    | anyRun =>
      rw [Wildcard.signs, List.cons_append, List.cons_append, List.nil_append, readParts, ih]
      rfl
    | anyOne | char =>
      rw [Wildcard.signs, List.cons_append, List.nil_append, readParts_atom (signs_ne_star ws), ih]
      rfl

theorem readBody_sources (ws : List Wildcard) :
    readBody ('^' :: (ws.flatMap Wildcard.source ++ ['$'])) =
      some (.start :: (ws.map Wildcard.part ++ [.stop])) := by
  rw [readBody, readSigns_of_sign? (by decide) rfl, readSigns_sources, Option.map_some,
    Option.bind_eq_bind, Option.bind_some, readParts, readParts_signs, Option.map_some]

def ofPattern (ignoreCase : Bool) (pattern : String) : Expression :=
  ⟨ignoreCase, true, .start :: ((Wildcard.ofString pattern).map Wildcard.part ++ [.stop])⟩

theorem read?_expressionOf (ignoreCase : Bool) (pattern : String) :
    read? (expressionOf ignoreCase pattern) = some (ofPattern ignoreCase pattern) := by
  have hhead : ∀ cs, readHead ((if ignoreCase then "(?is)^" else "(?s)^").toList ++ cs) =
      some (⟨ignoreCase, true, []⟩, '^' :: cs) := by
    intro cs
    cases ignoreCase <;> rfl
  rw [read?, expressionOf, String.toList_ofList, hhead, Option.bind_eq_bind, Option.bind_some]
  show (readBody _).bind (fun parts => some (Expression.mk ignoreCase true parts)) = _
  rw [readBody_sources, Option.bind_some, ofPattern]

example : read? "(?s)^a\\..*$" =
    some ⟨false, true, [.start, .one (.char 'a'), .one (.char '.'), .many .any, .stop]⟩ := rfl

-- ---------------------------------------------------------------------------
-- What the parts match
-- ---------------------------------------------------------------------------

variable {takes : Atom → Char → Bool} {before after : List Char}

theorem matches_start :
    Matches takes (.start :: ps) before after ↔ before = [] ∧ Matches takes ps [] after := by
  constructor
  · intro h
    cases h with
    | start h => exact ⟨rfl, h⟩
  · rintro ⟨rfl, h⟩
    exact .start h

theorem matches_stop :
    Matches takes (.stop :: ps) before after ↔ after = [] ∧ Matches takes ps before [] := by
  constructor
  · intro h
    cases h with
    | stop h => exact ⟨rfl, h⟩
  · rintro ⟨rfl, h⟩
    exact .stop h

theorem matches_one : Matches takes (.one a :: ps) before after ↔
    ∃ c rest, after = c :: rest ∧ takes a c = true ∧ Matches takes ps (before ++ [c]) rest := by
  constructor
  · intro h
    cases h with
    | one hc h => exact ⟨_, _, rfl, hc, h⟩
  · rintro ⟨c, rest, rfl, hc, h⟩
    exact .one hc h

theorem matches_many : Matches takes (.many a :: ps) before after ↔
    ∃ run rest, after = run ++ rest ∧ (∀ c ∈ run, takes a c = true) ∧
      Matches takes ps (before ++ run) rest := by
  constructor
  · intro h
    induction after generalizing before with
    | nil =>
      cases h with
      | none h => exact ⟨[], [], rfl, by simp, by simpa using h⟩
    | cons c after ih =>
      cases h with
      | none h => exact ⟨[], c :: after, rfl, by simp, by simpa using h⟩
      | more hc h =>
        obtain ⟨run, rest, rfl, hrun, h⟩ := ih h
        exact ⟨c :: run, rest, rfl, by simpa using ⟨hc, hrun⟩, by simpa using h⟩
  · rintro ⟨run, rest, rfl, hrun, h⟩
    induction run generalizing before with
    | nil => exact .none (by simpa using h)
    | cons c run ih =>
      rw [List.forall_mem_cons] at hrun
      exact .more hrun.1 (ih hrun.2 (by simpa using h))

/-- What stands before the place does not matter to the parts of a pattern. -/
theorem matches_parts (hany : ∀ d, takes .any d = true) :
    Matches takes (ws.map Wildcard.part ++ [.stop]) before text ↔
      Wildcard.isMatch (fun c => takes (.char c)) ws text = true := by
  induction ws generalizing before text with
  | nil =>
    rw [Wildcard.isMatch_nil, List.map_nil, List.nil_append, matches_stop]
    exact and_iff_left .done
  | cons w ws ih =>
    rw [List.map_cons, List.cons_append]
    cases w with
    | anyRun =>
      rw [Wildcard.part, matches_many, Wildcard.isMatch_anyRun]
      simp only [ih, hany, implies_true, true_and]
    | anyOne =>
      rw [Wildcard.part, matches_one, Wildcard.isMatch_anyOne]
      simp only [ih, hany, true_and]
    | char c =>
      rw [Wildcard.part, matches_one, Wildcard.isMatch_char]
      simp only [ih]

theorem ofPattern_finds (ignoreCase : Bool) (pattern text : String) :
    (ofPattern ignoreCase pattern).Finds text ↔
      (if ignoreCase then isLikeFolded pattern text else isLike pattern text) = true := by
  have hparts : ∀ after, Matches (ofPattern ignoreCase pattern).takes
      ((Wildcard.ofString pattern).map Wildcard.part ++ [.stop]) [] after ↔
        Wildcard.isMatch (fun c => (ofPattern ignoreCase pattern).takes (.char c))
          (Wildcard.ofString pattern) after = true :=
    fun after => matches_parts fun _ => rfl
  have hfinds : (ofPattern ignoreCase pattern).Finds text ↔
      Wildcard.isMatch (fun c => (ofPattern ignoreCase pattern).takes (.char c))
        (Wildcard.ofString pattern) text.toList = true := by
    rw [← hparts]
    constructor
    · rintro ⟨before, after, htext, h⟩
      obtain ⟨rfl, h⟩ := matches_start.1 h
      rwa [htext]
    · exact fun h => ⟨[], _, rfl, matches_start.2 ⟨rfl, h⟩⟩
  rw [hfinds]
  cases ignoreCase <;> rfl

-- ---------------------------------------------------------------------------
-- Matching by the meaning of expressions
-- ---------------------------------------------------------------------------

theorem exists_cut {holds : List Char → List Char → Prop} {text : List Char} :
    (∃ n < text.length + 1, holds (text.take n) (text.drop n)) ↔
      ∃ before after, text = before ++ after ∧ holds before after := by
  constructor
  · rintro ⟨n, -, h⟩
    exact ⟨_, _, (List.take_append_drop n text).symm, h⟩
  · rintro ⟨before, after, rfl, h⟩
    refine ⟨before.length, ?_, by simpa using h⟩
    rw [List.length_append]
    omega

instance decidableMatches (takes : Atom → Char → Bool) : ∀ (ps : List Part)
    (before after : List Char), Decidable (Matches takes ps before after)
  | [], _, _ => .isTrue .done
  | .start :: ps, _, after =>
    have := decidableMatches takes ps [] after
    decidable_of_iff _ matches_start.symm
  | .stop :: ps, before, _ =>
    have := decidableMatches takes ps before []
    decidable_of_iff _ matches_stop.symm
  | .one _ :: _, _, [] => .isFalse nofun
  | .one a :: ps, before, c :: after =>
    have := decidableMatches takes ps (before ++ [c]) after
    decidable_of_iff (takes a c = true ∧ Matches takes ps (before ++ [c]) after)
      ⟨fun h => .one h.1 h.2, fun | .one hc h => ⟨hc, h⟩⟩
  | .many _ :: ps, before, _ =>
    have := fun run rest => decidableMatches takes ps (before ++ run) rest
    decidable_of_iff _ (exists_cut.trans matches_many.symm)

instance (e : Expression) (text : String) : Decidable (e.Finds text) :=
  decidable_of_iff _ exists_cut

end Expression

def Matcher.byMeaning : Matcher where
  compile source := (Expression.read? source).map fun e text => decide (e.Finds text)

theorem Matcher.byMeaning_documented : Matcher.byMeaning.Documented := by
  intro source e test he htest text
  simp only [byMeaning, he, Option.map_some, Option.some.injEq] at htest
  rw [← htest, decide_eq_true_iff]

-- ---------------------------------------------------------------------------
-- Conditions
-- ---------------------------------------------------------------------------

variable {m : Matcher} {ignoreCase : Bool} {pattern : String} {test : String → Bool}

theorem Matcher.Documented.test_eq (hm : m.Documented)
    (htest : m.compile (expressionOf ignoreCase pattern) = some test) (text : String) :
    test text = if ignoreCase then isLikeFolded pattern text else isLike pattern text := by
  rw [Bool.eq_iff_iff, ← Expression.ofPattern_finds]
  exact hm _ _ _ (Expression.read?_expressionOf ignoreCase pattern) htest text

/-- A condition made ready for a matcher says what it says without one. -/
theorem Condition.build?_holds {c : Condition} (hm : m.Documented) (hb : c.build? m = some b)
    (p : Prompt) : b.holds p = c.holds p := by
  obtain ⟨subject, comparator, value⟩ := c
  cases comparator with
  | like | ilike =>
    obtain ⟨test, htest, rfl⟩ := Option.map_eq_some_iff.1 hb
    simp only [BuiltCondition.holds, Condition.holds, Comparator.test]
    cases subject.of? p with
    | none => rfl
    | some text => exact hm.test_eq htest text
  | equal | unequal =>
    cases hb
    simp only [BuiltCondition.holds, Condition.holds, Comparator.test]
    cases subject.of? p <;> rfl

theorem Condition.holds_eq_true {c : Condition} {p : Prompt} : c.holds p = true ↔
    ∃ text, c.subject.of? p = some text ∧ c.comparator.test text c.value = true := by
  unfold holds
  cases c.subject.of? p with
  | none => simp
  | some text => exact ⟨fun h => ⟨text, rfl, h⟩, fun ⟨_, rfl, h⟩ => h⟩

/-- A prompt satisfies a condition with a pattern just if it has the attribute and the whole text
of it splits along the pattern. Without the tag it satisfies no condition on a tag. Conditions made
ready for a matcher of regular expressions say nothing else. -/
theorem Condition.holds_wildcards (p : Prompt) :
    (∀ subject pattern, (⟨subject, .like, pattern⟩ : Condition).holds p = true ↔
      ∃ text, subject.of? p = some text ∧
        SplitsAlong (fun c d => c == d) pattern.toList text.toList) ∧
    (∀ subject pattern, (⟨subject, .ilike, pattern⟩ : Condition).holds p = true ↔
      ∃ text, subject.of? p = some text ∧
        SplitsAlong Text.sameFolded pattern.toList text.toList) ∧
    (∀ key comparator value, p.tags.get? key = none →
      (⟨.tag key, comparator, value⟩ : Condition).holds p = false) ∧
    ∀ m : Matcher, m.Documented → ∀ (c : Condition) b, c.build? m = some b →
      b.holds p = c.holds p := by
  refine ⟨fun subject pattern => ?_, fun subject pattern => ?_, fun key comparator value hkey => ?_,
    fun m hm c b hb => build?_holds hm hb p⟩
  · rw [holds_eq_true]
    exact exists_congr fun text => and_congr_right fun _ => isMatch_iff_splitsAlong _ _ _
  · rw [holds_eq_true]
    exact exists_congr fun text => and_congr_right fun _ => isMatch_iff_splitsAlong _ _ _
  · simp only [holds, Attribute.of?, hkey]

theorem Condition.holds_wildcards_lines :
    let p : Prompt := .new default ⟨"greeting", rfl⟩ none (.ofList [("note", "a (b).\nSee É*!")])
    let c : Condition := ⟨.tag "note", .ilike, "%(_).%é*%"⟩
    (∃ b, c.build? .byMeaning = some b ∧ b.holds p = true) ∧
    SplitsAlong Text.sameFolded c.value.toList "a (b).\nSee É*!".toList ∧
    (⟨.tag "owner", .unequal, "me"⟩ : Condition).holds p = false := by
  intro p c
  obtain ⟨-, hilike, habsent, hbuilt⟩ := holds_wildcards p
  have hc : c.holds p = true := by decide +kernel
  refine ⟨?_, ?_, habsent "owner" .unequal "me" (by decide +kernel)⟩
  · refine ⟨⟨c, some fun text => decide ((Expression.ofPattern true c.value).Finds text)⟩, ?_, ?_⟩
    · simp [c, build?, Matcher.byMeaning, Expression.read?_expressionOf]
    · rw [hbuilt .byMeaning Matcher.byMeaning_documented c _ _, hc]
      simp [c, build?, Matcher.byMeaning, Expression.read?_expressionOf]
  · obtain ⟨text, htext, h⟩ := (hilike _ _).1 hc
    cases htext
    exact h

end PromptRegistry.Search
