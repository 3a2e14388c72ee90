import PromptRegistry.Proofs.Except
import PromptRegistry.Proofs.Text.Stretch
import PromptRegistry.Search.Token

/-!
# Texts of tokens

`Layout ts cs` says that a text lays out tokens: blanks may stand around each of them, and must
stand between two words. The scanner reads a text as tokens just when the text lays them out
(`scan_eq_ok`).
-/

namespace PromptRegistry

-- ---------------------------------------------------------------------------
-- Classes of characters
-- ---------------------------------------------------------------------------

namespace Text

def blankPoints : List Nat :=
  [9, 10, 11, 12, 13, 32, 0x85, 0xA0, 0x1680, 0x2000, 0x2001, 0x2002, 0x2003, 0x2004, 0x2005,
    0x2006, 0x2007, 0x2008, 0x2009, 0x200A, 0x2028, 0x2029, 0x202F, 0x205F, 0x3000]

theorem mem_blankPoints {c : Char} (h : isBlank c = true) : c.toNat ∈ blankPoints := by
  simp only [isBlank, Bool.or_eq_true, Bool.and_eq_true, decide_eq_true_eq, beq_iff_eq] at h
  simp only [blankPoints, List.mem_cons, List.not_mem_nil, or_false]
  omega

theorem isAlphanumeric_of_isBlank {c : Char} (h : isBlank c = true) : isAlphanumeric c = false := by
  have hall : ∀ n ∈ blankPoints, inRanges n alphanumericRanges = false := by decide +kernel
  exact hall _ (mem_blankPoints h)

end Text

namespace Search.Token

open Text (isBlank)

def isMark (c : Char) : Bool := isQuote c || c = '.' || c = '=' || c = '!'

theorem isBlank_of_isMark {c : Char} (h : isMark c = true) : isBlank c = false := by
  simp only [isMark, isQuote, Bool.or_eq_true, decide_eq_true_eq] at h
  rcases h with ((((rfl | rfl) | rfl) | rfl) | rfl) | rfl <;> decide

theorem isWordChar_of_isMark {c : Char} (h : isMark c = true) : isWordChar c = false := by
  simp only [isMark, isQuote, Bool.or_eq_true, decide_eq_true_eq] at h
  rcases h with ((((rfl | rfl) | rfl) | rfl) | rfl) | rfl <;> decide

theorem isWordChar_of_isBlank {c : Char} (h : isBlank c = true) : isWordChar c = false := by
  rw [isWordChar, Text.isAlphanumeric_of_isBlank h, Bool.false_or, Bool.or_eq_false_iff,
    decide_eq_false_iff_not, decide_eq_false_iff_not]
  constructor
  · rintro rfl
    exact absurd h (by decide)
  · rintro rfl
    exact absurd h (by decide)

-- ---------------------------------------------------------------------------
-- Layouts
-- ---------------------------------------------------------------------------

/-- The characters of a token. A value stands between two quotes that it does not contain. -/
inductive Spelled : Token → List Char → Prop
  | word (hne : w ≠ []) (hw : ∀ c ∈ w, isWordChar c = true) : Spelled (.word (String.ofList w)) w
  | quoted (hquote : q = '\'' ∨ q = '"') (hv : q ∉ v) :
      Spelled (.quoted (String.ofList v)) (q :: v ++ [q])
  | backticked (hk : '\x60' ∉ k) :
      Spelled (.backticked (String.ofList k)) ('\x60' :: k ++ ['\x60'])
  | dot : Spelled .dot ['.']
  | equal : Spelled .equal ['=']
  | unequal : Spelled .unequal ['!', '=']

def isWord : Token → Bool
  | .word _ => true
  | _ => false

/-- A text that consists of tokens. Blanks may stand before and behind each of them, and stand
between two words. -/
inductive Layout : List Token → List Char → Prop
  | nil (hgap : ∀ c ∈ gap, isBlank c = true) : Layout [] gap
  | cons (hgap : ∀ c ∈ gap, isBlank c = true) (ht : t.Spelled cs) (hts : Layout ts rest)
      (hapart : t.isWord = true → ts.head?.any isWord = true → rest.head?.any isBlank = true) :
      Layout (t :: ts) (gap ++ cs ++ rest)

theorem Layout.blank (h : Layout ts cs) (hc : isBlank c = true) : Layout ts (c :: cs) := by
  cases h with
  | nil hgap => exact .nil (List.forall_mem_cons.2 ⟨hc, hgap⟩)
  | cons hgap ht hts hapart => exact .cons (List.forall_mem_cons.2 ⟨hc, hgap⟩) ht hts hapart

theorem Layout.next (ht : Spelled t cs) (hword : t.isWord = false) (hts : Layout ts rest) :
    Layout (t :: ts) (cs ++ rest) := by
  have hgap : ∀ c ∈ ([] : List Char), isBlank c = true := nofun
  exact .cons hgap ht hts fun h => by rw [hword] at h; cases h

theorem Spelled.head (h : Spelled t cs) :
    ∃ c rest, cs = c :: rest ∧ if t.isWord then isWordChar c = true else isMark c = true := by
  cases h with
  | @word w hne hw =>
    obtain ⟨c, rest, rfl⟩ := List.exists_cons_of_ne_nil hne
    exact ⟨c, rest, rfl, hw c (List.mem_cons_self ..)⟩
  | @quoted q v hquote hv => exact ⟨q, _, rfl, by rcases hquote with rfl | rfl <;> rfl⟩
  | backticked hk => exact ⟨_, _, rfl, rfl⟩
  | dot => exact ⟨_, _, rfl, rfl⟩
  | equal => exact ⟨_, _, rfl, rfl⟩
  | unequal => exact ⟨_, _, rfl, rfl⟩

theorem Layout.head (h : Layout ts (c :: cs)) :
    isBlank c = true ∨ ts.head?.any isWord = true ∧ isWordChar c = true ∨
      ts.head?.any isWord = false ∧ isMark c = true := by
  generalize hall : c :: cs = all at h
  cases h with
  | nil hgap => exact .inl (hgap c (hall ▸ List.mem_cons_self ..))
  | @cons gap ts rest t cs' hgap ht hts hapart =>
    cases gap with
    | cons b gap =>
      obtain ⟨rfl, -⟩ := List.cons.inj hall
      exact .inl (hgap c (List.mem_cons_self ..))
    | nil =>
      obtain ⟨d, tail, rfl, hd⟩ := ht.head
      obtain ⟨rfl, -⟩ := List.cons.inj hall
      cases hword : t.isWord with
      | true => rw [hword] at hd; exact .inr (.inl ⟨by simpa using hword, by simpa using hd⟩)
      | false => rw [hword] at hd; exact .inr (.inr ⟨by simpa using hword, by simpa using hd⟩)

theorem Layout.eq_nil (h : Layout ts []) : ts = [] := by
  generalize hall : [] = all at h
  cases h with
  | nil hgap => rfl
  | cons hgap ht hts hapart =>
    obtain ⟨c, rest, rfl, -⟩ := ht.head
    simp at hall

theorem Layout.not_isWordChar (h : Layout ts (c :: cs))
    (hapart : ts.head?.any isWord = true → isBlank c = true) : isWordChar c = false := by
  rcases h.head with hblank | ⟨hword, -⟩ | ⟨-, hmark⟩
  · exact isWordChar_of_isBlank hblank
  · exact isWordChar_of_isBlank (hapart hword)
  · exact isWordChar_of_isMark hmark

-- ---------------------------------------------------------------------------
-- Scanning
-- ---------------------------------------------------------------------------

theorem scan_blank (hc : isBlank c = true) : scan (c :: cs) = scan cs := by
  rw [scan.eq_def]
  exact if_pos hc

theorem scan_quote (hc : isQuote c = true) (hclosed : cs.dropWhile (· ≠ c) = c :: rest) :
    scan (c :: cs) = (scan rest).map (ofQuote c (cs.takeWhile (· ≠ c)) :: ·) := by
  have hblank : isBlank c = false := isBlank_of_isMark (by simp [isMark, hc])
  rw [scan.eq_def]
  simp only [hblank, hc, Bool.false_eq_true, if_false, if_true]
  split
  · next h => rw [hclosed] at h; cases h
  · next h => rw [hclosed] at h; cases h; rfl

theorem scan_wordChar (hc : isWordChar c = true) :
    scan (c :: cs) = (scan (cs.dropWhile isWordChar)).map
      (.word (String.ofList (c :: cs.takeWhile isWordChar)) :: ·) := by
  have hblank : isBlank c = false := Bool.eq_false_iff.2 fun h => by
    rw [isWordChar_of_isBlank h] at hc
    cases hc
  have hmark : isMark c = false := Bool.eq_false_iff.2 fun h => by
    rw [isWordChar_of_isMark h] at hc
    cases hc
  simp only [isMark, Bool.or_eq_false_iff, decide_eq_false_iff_not] at hmark
  obtain ⟨⟨⟨hquote, hdot⟩, hequal⟩, hbang⟩ := hmark
  rw [scan.eq_def]
  simp only [hblank, hquote, hdot, hequal, hbang, hc, Bool.false_eq_true, if_false, if_true]

theorem scan_blanks {gap : List Char} (h : ∀ c ∈ gap, isBlank c = true) :
    scan (gap ++ cs) = scan cs := by
  induction gap with
  | nil => rfl
  | cons c gap ih =>
    rw [List.forall_mem_cons] at h
    rw [List.cons_append, scan_blank h.1, ih h.2]

theorem scan_quoted (hq : isQuote q = true) (hv : q ∉ v) :
    scan (q :: v ++ [q] ++ rest) = (scan rest).map (ofQuote q v :: ·) := by
  have hbody : ∀ c ∈ v, decide (c ≠ q) = true := fun c hc => decide_eq_true fun h => hv (h ▸ hc)
  obtain ⟨htake, hdrop⟩ := Text.takeWhile_stretch hbody (q :: rest) (by simp)
  rw [List.cons_append, List.cons_append, List.append_assoc, List.singleton_append,
    scan_quote hq hdrop, htake]

theorem scan_word (hne : w ≠ []) (hw : ∀ c ∈ w, isWordChar c = true)
    (hrest : ∀ c ∈ rest.head?, isWordChar c = false) :
    scan (w ++ rest) = (scan rest).map (.word (String.ofList w) :: ·) := by
  obtain ⟨c, w, rfl⟩ := List.exists_cons_of_ne_nil hne
  rw [List.forall_mem_cons] at hw
  obtain ⟨htake, hdrop⟩ := Text.takeWhile_stretch hw.2 rest
    (by simpa [Option.all_eq_true] using hrest)
  rw [List.cons_append, scan_wordChar hw.1, hdrop, htake]

theorem scan_spelled (h : Spelled t cs)
    (hrest : t.isWord = true → ∀ c ∈ rest.head?, isWordChar c = false) :
    scan (cs ++ rest) = (scan rest).map (t :: ·) := by
  cases h with
  | word hne hw => exact scan_word hne hw (hrest rfl)
  | @quoted q v hquote hv =>
    rw [scan_quoted (by rcases hquote with rfl | rfl <;> rfl) hv]
    rcases hquote with rfl | rfl <;> rfl
  | backticked hk => exact scan_quoted rfl hk
  | dot => rw [List.singleton_append, scan.eq_def]; rfl
  | equal => rw [List.singleton_append, scan.eq_def]; rfl
  | unequal => rw [List.cons_append, List.singleton_append, scan.eq_def]; rfl

theorem Layout.scan (h : Layout ts cs) : Token.scan cs = .ok ts := by
  induction h with
  | @nil gap hgap =>
    rw [← List.append_nil gap, scan_blanks hgap, scan.eq_def]
  | @cons gap ts rest t cs hgap ht hts hapart ih =>
    rw [List.append_assoc, scan_blanks hgap, scan_spelled ht, ih]
    · rfl
    · intro hword c hc
      obtain ⟨tail, rfl⟩ := List.head?_eq_some_iff.1 hc
      exact hts.not_isWordChar fun h => by simpa using hapart hword h

theorem head_dropWhile {p : Char → Bool} {cs : List Char} (h : cs.dropWhile p = d :: rest) :
    p d = false := by
  have := List.head?_dropWhile_not p cs
  rw [h] at this
  exact this

theorem spelled_ofQuote (hq : isQuote q = true) (hv : q ∉ v) :
    Spelled (ofQuote q v) (q :: v ++ [q]) := by
  simp only [isQuote, Bool.or_eq_true, decide_eq_true_eq] at hq
  rcases hq with (rfl | rfl) | rfl
  · exact .quoted (.inl rfl) hv
  · exact .quoted (.inr rfl) hv
  · exact .backticked hv

theorem isWord_ofQuote (q : Char) (v : List Char) : (ofQuote q v).isWord = false := by
  unfold ofQuote
  split <;> rfl

theorem layout_of_scan {ts : List Token} (h : Token.scan cs = .ok ts) : Layout ts cs := by
  fun_induction Token.scan cs generalizing ts with
  | case1 => cases h; exact .nil nofun
  | case2 c cs hblank ih => exact (ih h).blank hblank
  | case4 c cs _ hquote d rest hclosed ih =>
    obtain ⟨us, hus, rfl⟩ := map_eq_ok.1 h
    have hd : d = c := by simpa using head_dropWhile hclosed
    have hv : c ∉ cs.takeWhile (· ≠ c) := fun hmem => by
      simpa using Text.all_of_mem_takeWhile c hmem
    have hcs : c :: cs = c :: cs.takeWhile (· ≠ c) ++ [c] ++ rest := by
      rw [List.cons_append, List.cons_append, List.append_assoc, List.singleton_append, ← hd,
        ← hclosed, hd, List.takeWhile_append_dropWhile]
    rw [hcs]
    exact .next (spelled_ofQuote hquote hv) (isWord_ofQuote _ _) (ih hus)
  | case5 cs _ _ ih =>
    obtain ⟨us, hus, rfl⟩ := map_eq_ok.1 h
    exact .next .dot rfl (ih hus)
  | case6 cs _ _ _ ih =>
    obtain ⟨us, hus, rfl⟩ := map_eq_ok.1 h
    exact .next .equal rfl (ih hus)
  | case7 rest _ _ _ _ ih =>
    obtain ⟨us, hus, rfl⟩ := map_eq_ok.1 h
    exact .next .unequal rfl (ih hus)
  | case9 c cs _ _ _ _ _ hword ih =>
    obtain ⟨us, hus, rfl⟩ := map_eq_ok.1 h
    have hw : ∀ d ∈ c :: cs.takeWhile isWordChar, isWordChar d = true :=
      List.forall_mem_cons.2 ⟨hword, Text.all_of_mem_takeWhile⟩
    have hcs : c :: cs = [] ++ (c :: cs.takeWhile isWordChar) ++ cs.dropWhile isWordChar := by
      rw [List.nil_append, List.cons_append, List.takeWhile_append_dropWhile]
    rw [hcs]
    refine .cons nofun (.word (List.cons_ne_nil _ _) hw) (ih hus) fun _ hnext => ?_
    -- the word took all it could, so that a word which follows has a blank in front
    cases hrest : cs.dropWhile isWordChar with
    | nil =>
      have hnil := (hrest ▸ ih hus).eq_nil
      rw [hnil] at hnext
      cases hnext
    | cons d rest =>
      rcases (hrest ▸ ih hus).head with hblank | ⟨-, hd⟩ | ⟨hnone, -⟩
      · exact hblank
      · rw [head_dropWhile hrest] at hd
        cases hd
      · rw [hnone] at hnext
        cases hnext
  | case3 | case8 | case10 => cases h

/-- The scanner reads the texts that lay out the tokens, and no other text as them. -/
theorem scan_eq_ok : scan cs = .ok ts ↔ Layout ts cs := ⟨layout_of_scan, Layout.scan⟩

end Search.Token

end PromptRegistry
