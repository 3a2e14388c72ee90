import PromptRegistry.Proofs.Search.Token
import PromptRegistry.Search.Filter

/-!
# Texts of filters

`Filter.Spelled f ts` is the grammar of filters on tokens. A text reads as a filter just when it is
blank and the filter has no conditions, or it lays out tokens that spell the filter
(`Filter.parse_eq_ok_iff`).
-/

namespace PromptRegistry.Search

open Search.Filter (isKeyword)

-- ---------------------------------------------------------------------------
-- The grammar
-- ---------------------------------------------------------------------------

inductive KeySpelled : String → List Token → Prop
  | backticked (hne : key ≠ "") : KeySpelled key [.backticked key]
  | words (hne : words ≠ []) :
      KeySpelled (".".intercalate words) ((words.map Token.word).intersperse .dot)

inductive Attribute.Spelled : Attribute → List Token → Prop
  | name (h : isKeyword "name" w = true) : Spelled .name [.word w]
  | tag (h : isKeyword "tags" w = true ∨ isKeyword "tag" w = true) (hkey : KeySpelled key ts) :
      Spelled (.tag key) (.word w :: .dot :: ts)

inductive Comparator.Spelled : Comparator → Token → Prop
  | equal : Spelled .equal .equal
  | unequal : Spelled .unequal .unequal
  | like (h : isKeyword "like" w = true) : Spelled .like (.word w)
  | ilike (h : isKeyword "ilike" w = true) : Spelled .ilike (.word w)

def Condition.Spelled (c : Condition) (ts : List Token) : Prop :=
  ∃ front t, c.subject.Spelled front ∧ c.comparator.Spelled t ∧ ts = front ++ [t, .quoted c.value]

inductive Filter.Spelled : Filter → List Token → Prop
  | one (hc : c.Spelled ts) : Spelled [c] ts
  | and (hc : c.Spelled ts) (hw : isKeyword "and" w = true) (hf : Spelled f us) :
      Spelled (c :: f) (ts ++ .word w :: us)

namespace Filter

-- ---------------------------------------------------------------------------
-- Keys
-- ---------------------------------------------------------------------------

def dotted (words : List String) : List Token := words.flatMap fun w => [.dot, .word w]

theorem intersperse_words (w : String) (words : List String) :
    ((w :: words).map Token.word).intersperse .dot = .word w :: dotted words := by
  induction words generalizing w with
  | nil => rfl
  | cons v words ih =>
    show Token.word w :: .dot :: ((v :: words).map Token.word).intersperse .dot = _
    rw [ih]
    rfl

theorem readKeyWords_dotted (hrest : rest.head? ≠ some .dot) :
    readKeyWords key (dotted words ++ rest) = .ok (".".intercalate (key :: words), rest) := by
  induction words generalizing key with
  | nil =>
    cases rest with
    | nil => rfl
    | cons t rest =>
      cases t with
      | dot => exact absurd rfl hrest
      | _ => rfl
  | cons w words ih => exact ih

theorem readKeyWords_eq_ok (h : readKeyWords key ts = .ok (k, rest)) :
    ∃ words, ts = dotted words ++ rest ∧ k = ".".intercalate (key :: words) := by
  fun_induction readKeyWords key ts with
  | case1 key part ts ih =>
    obtain ⟨words, rfl, rfl⟩ := ih h
    exact ⟨part :: words, rfl, rfl⟩
  | case2 => cases h
  | case3 key ts => cases h; exact ⟨[], rfl, rfl⟩

theorem readKey_spelled (h : KeySpelled key ts) (hrest : rest.head? ≠ some .dot) :
    readKey (ts ++ rest) = .ok (key, rest) := by
  cases h with
  | backticked hne => exact if_neg (by simpa using hne)
  | @words words hne =>
    obtain ⟨w, words, rfl⟩ := List.exists_cons_of_ne_nil hne
    rw [intersperse_words]
    exact readKeyWords_dotted hrest

theorem readKey_eq_ok (h : readKey ts = .ok (key, rest)) :
    ∃ front, KeySpelled key front ∧ ts = front ++ rest := by
  unfold readKey at h
  split at h
  · split at h
    · cases h
    · next hne => cases h; exact ⟨_, .backticked (by simpa using hne), rfl⟩
  · next w ts =>
    obtain ⟨words, rfl, rfl⟩ := readKeyWords_eq_ok h
    exact ⟨_, .words (List.cons_ne_nil w words), by rw [intersperse_words]; rfl⟩
  · cases h

-- ---------------------------------------------------------------------------
-- Conditions
-- ---------------------------------------------------------------------------

theorem isKeyword_unique (h : isKeyword k w = true) :
    isKeyword l w = Text.sameIgnoringCase k l := by
  simp only [isKeyword, Text.sameIgnoringCase, beq_iff_eq] at h ⊢
  rw [h]

theorem readAttribute_spelled {a : Attribute} (h : a.Spelled ts) (hrest : rest.head? ≠ some .dot) :
    readAttribute (ts ++ rest) = .ok (a, rest) := by
  cases h with
  | name h => exact if_pos h
  | @tag w key ts h hkey =>
    have hname : isKeyword "name" w = false := by
      rcases h with h | h <;> exact isKeyword_unique h
    show readAttribute (.word w :: .dot :: (ts ++ rest)) = _
    simp only [readAttribute, hname, Bool.false_eq_true, if_false, Bool.or_eq_true, if_pos h,
      readKey_spelled hkey hrest]
    rfl

theorem readAttribute_eq_ok (h : readAttribute ts = .ok (a, rest)) :
    ∃ front, a.Spelled front ∧ ts = front ++ rest := by
  unfold readAttribute at h
  split at h
  · next w ts =>
    split at h
    · next hw => cases h; exact ⟨_, .name hw, rfl⟩
    · split at h
      · next hw =>
        split at h
        · next ts =>
          obtain ⟨⟨key, rest⟩, hkey, heq⟩ := map_eq_ok.1 h
          cases heq
          obtain ⟨front, hfront, rfl⟩ := readKey_eq_ok hkey
          exact ⟨_, .tag (by simpa using hw) hfront, rfl⟩
        · cases h
      · cases h
  · cases h

theorem readComparator_spelled {c : Comparator} (h : c.Spelled t) :
    readComparator (t :: rest) = .ok (c, rest) := by
  cases h with
  | equal => rfl
  | unequal => rfl
  | like h => exact if_pos h
  | @ilike w h =>
    have hlike : isKeyword "like" w = false := isKeyword_unique h
    simp only [readComparator, hlike, h, Bool.false_eq_true, if_false, if_true]

theorem readComparator_eq_ok (h : readComparator ts = .ok (c, rest)) :
    ∃ t, c.Spelled t ∧ ts = t :: rest := by
  unfold readComparator at h
  split at h
  · cases h; exact ⟨_, .equal, rfl⟩
  · cases h; exact ⟨_, .unequal, rfl⟩
  · split at h
    · next hw => cases h; exact ⟨_, .like hw, rfl⟩
    · split at h
      · next hw => cases h; exact ⟨_, .ilike hw, rfl⟩
      · cases h
  · cases h

theorem readValue_eq_ok (h : readValue ts = .ok (v, rest)) : ts = .quoted v :: rest := by
  unfold readValue at h
  split at h
  · cases h; rfl
  · cases h

theorem ne_dot_of_spelled {c : Comparator} (h : c.Spelled t) : t ≠ .dot := by
  cases h <;> exact nofun

/-- A clause ends with its value, so that nothing that follows belongs to it. -/
theorem readClause_eq_ok : readClause ts = .ok (c, rest) ↔
    ∃ front, c.Spelled front ∧ ts = front ++ rest := by
  simp only [readClause, bind_eq_ok, Except.ok.injEq, Prod.exists, Prod.mk.injEq]
  constructor
  · rintro ⟨a, _, ha, b, _, hb, v, _, hv, rfl, rfl⟩
    obtain ⟨front, hfront, rfl⟩ := readAttribute_eq_ok ha
    obtain ⟨t, ht, rfl⟩ := readComparator_eq_ok hb
    obtain rfl := readValue_eq_ok hv
    exact ⟨_, ⟨front, t, hfront, ht, rfl⟩, by simp⟩
  · rintro ⟨_, ⟨front, t, hfront, ht, rfl⟩, rfl⟩
    have hdot : (t :: .quoted c.value :: rest).head? ≠ some .dot := fun h =>
      ne_dot_of_spelled ht (Option.some.inj h)
    have happend : front ++ [t, .quoted c.value] ++ rest =
        front ++ t :: .quoted c.value :: rest := by simp
    rw [happend]
    exact ⟨_, _, readAttribute_spelled hfront hdot, _, _, readComparator_spelled ht, _, _, rfl, rfl,
      rfl⟩

-- ---------------------------------------------------------------------------
-- Filters
-- ---------------------------------------------------------------------------

theorem readClauses_last (h : readClause ts = .ok (c, [])) : readClauses ts = .ok [c] := by
  rw [readClauses.eq_def]
  split
  · next heq => rw [h] at heq; cases heq
  · next heq => rw [h] at heq; cases heq; rfl
  · next heq => rw [h] at heq; cases heq
  · next heq => rw [h] at heq; cases heq

theorem readClauses_and (h : readClause ts = .ok (c, .word w :: us))
    (hw : isKeyword "and" w = true) : readClauses ts = (readClauses us).map (c :: ·) := by
  rw [readClauses.eq_def]
  split
  · next heq => rw [h] at heq; cases heq
  · next heq => rw [h] at heq; cases heq
  · next heq => rw [h] at heq; cases heq; exact if_pos hw
  · next hne heq => rw [h] at heq; cases heq; exact absurd rfl (hne _)

theorem readClauses_spelled {f : Filter} (h : f.Spelled ts) : readClauses ts = .ok f := by
  induction h with
  | one hc => exact readClauses_last (readClause_eq_ok.2 ⟨_, hc, (List.append_nil _).symm⟩)
  | and hc hw hf ih =>
    rw [readClauses_and (readClause_eq_ok.2 ⟨_, hc, rfl⟩) hw, ih]
    rfl

theorem readClauses_eq_ok {f : Filter} : readClauses ts = .ok f ↔ f.Spelled ts := by
  refine ⟨fun h => ?_, readClauses_spelled⟩
  fun_induction readClauses ts generalizing f with
  | case2 ts c hfirst =>
    cases h
    obtain ⟨front, hc, rfl⟩ := readClause_eq_ok.1 hfirst
    rw [List.append_nil]
    exact .one hc
  | case3 ts c w rest hfirst hw ih =>
    obtain ⟨f, hf, rfl⟩ := map_eq_ok.1 h
    obtain ⟨front, hc, rfl⟩ := readClause_eq_ok.1 hfirst
    exact .and hc hw (ih hf)
  | case1 | case4 | case5 => cases h

theorem Spelled.ne_nil {f : Filter} (h : f.Spelled ts) : ts ≠ [] := by
  cases h with
  | one hc =>
    obtain ⟨front, t, -, -, rfl⟩ := hc
    exact List.append_ne_nil_of_right_ne_nil _ (List.cons_ne_nil _ _)
  | and hc hw hf => exact List.append_ne_nil_of_right_ne_nil _ (List.cons_ne_nil _ _)

theorem ofTokens_eq_ok {f : Filter} :
    ofTokens ts = .ok f ↔ ts = [] ∧ f = [] ∨ f.Spelled ts := by
  cases ts with
  | nil =>
    have hnil : ¬f.Spelled [] := fun h => h.ne_nil rfl
    simp only [ofTokens, Except.ok.injEq, true_and, hnil, or_false]
    exact eq_comm
  | cons t ts => simp only [ofTokens, readClauses_eq_ok, List.cons_ne_nil, false_and, false_or]

theorem parse_of_blank {text : String} (h : Text.isBlankText text = true) :
    parse text = .ok [] := by
  rw [parse, Token.scan_eq_ok.2 (.nil (List.all_eq_true.1 h))]
  rfl

/-- A text reads as a filter just when it is blank and the filter is the one without conditions, or
it lays out tokens that spell the filter. -/
theorem parse_eq_ok_iff (text : String) (f : Filter) :
    parse text = .ok f ↔ Text.isBlankText text = true ∧ f = [] ∨
      ∃ ts, f.Spelled ts ∧ Token.Layout ts text.toList := by
  have hblank : Token.Layout [] text.toList ↔ Text.isBlankText text = true := by
    rw [Text.isBlankText, List.all_eq_true]
    constructor
    · intro h
      cases h with
      | nil hgap => exact hgap
    · exact .nil
  simp only [parse, bind_eq_ok, Token.scan_eq_ok, ofTokens_eq_ok]
  constructor
  · rintro ⟨ts, hts, ⟨rfl, rfl⟩ | hf⟩
    · exact .inl ⟨hblank.1 hts, rfl⟩
    · exact .inr ⟨ts, hf, hts⟩
  · rintro (⟨htext, rfl⟩ | ⟨ts, hf, hts⟩)
    · exact ⟨[], hblank.2 htext, .inl ⟨rfl, rfl⟩⟩
    · exact ⟨ts, hts, .inr hf⟩

end Filter

end PromptRegistry.Search
