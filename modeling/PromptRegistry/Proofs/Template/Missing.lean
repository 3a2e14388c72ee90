import PromptRegistry.Proofs.Dict
import PromptRegistry.Proofs.Template.Format
import PromptRegistry.Proofs.Text.ByteOrder

/-!
# Missing values

A template is formatted unless a variable has no value, and then it is known which ones have none.
Of the values only those of the variables matter (`format_missing`).
-/

namespace PromptRegistry.Template

variable {t : Template} {values values' : Dict String}

theorem mem_occurrences {content : String} : name ∈ occurrences content ↔
    ∃ p, Piece.placeholder p ∈ Piece.cut content ∧ String.ofList p.name = name := by
  rw [occurrences, List.mem_filterMap]
  constructor
  · rintro ⟨piece, hpiece, hname⟩
    cases piece with
    | literal cs => cases hname
    | placeholder p => exact ⟨p, hpiece, Option.some.inj hname⟩
  · rintro ⟨p, hp, rfl⟩
    exact ⟨_, hp, rfl⟩

theorem fill_congr {content : String}
    (h : ∀ name ∈ occurrences content, values.get? name = values'.get? name) :
    fill values content = fill values' content := by
  refine congrArg String.ofList (List.flatMap_congr fun piece hpiece => ?_)
  cases piece with
  | literal cs => rfl
  | placeholder p => simp only [h _ (mem_occurrences.2 ⟨p, hpiece, rfl⟩)]

theorem mem_variableNames_of_content {content : String} (hcontent : content ∈ t.contents)
    (h : name ∈ occurrences content) : name ∈ t.variableNames :=
  List.mem_eraseDups.2 (List.mem_flatMap.2 ⟨content, hcontent, h⟩)

-- ---------------------------------------------------------------------------
-- Variables without a value
-- ---------------------------------------------------------------------------

theorem mem_missing :
    name ∈ t.missing values ↔ name ∈ t.variableNames ∧ values.get? name = none := by
  rw [missing, Dict.mem_keys_ofList, List.map_map]
  simp [Function.comp_def]

theorem missing_eq_nil :
    t.missing values = [] ↔ ∀ name ∈ t.variableNames, ∃ value, values.get? name = some value := by
  simp only [List.eq_nil_iff_forall_not_mem, mem_missing, not_and, ← Option.ne_none_iff_exists']

theorem missing_congr (h : ∀ name ∈ t.variableNames, values.get? name = values'.get? name) :
    t.missing values = t.missing values' := by
  rw [missing, missing]
  refine congrArg (fun names => (Dict.ofList (names.map (·, ()))).keys) (List.filter_congr ?_)
  intro name hname
  rw [Dict.contains, Dict.contains, h name hname]

-- ---------------------------------------------------------------------------
-- Formatting
-- ---------------------------------------------------------------------------

theorem format_partial (t : Template) (values : Dict String) :
    ∃ f, t.format values true = .ok f := ⟨_, rfl⟩

theorem format_of_missing_nil (h : t.missing values = []) (allowPartial : Bool) :
    t.format values allowPartial = t.format values true := by
  simp [format, h]

theorem format_of_missing (h : t.missing values ≠ []) :
    t.format values false = .error (.missingVariables (t.missing values)) := by
  simp [format, h]

theorem format_congr (h : ∀ name ∈ t.variableNames, values.get? name = values'.get? name)
    (allowPartial : Bool) : t.format values allowPartial = t.format values' allowPartial := by
  have hfill (content : String) (hcontent : content ∈ t.contents) :
      fill values content = fill values' content :=
    fill_congr fun name hname => h name (mem_variableNames_of_content hcontent hname)
  unfold format
  rw [missing_congr h]
  cases t with
  | text content => simp only [hfill content (List.mem_singleton_self _)]
  | chat ms =>
    have hms : ms.map (fun m => (⟨m.role, fill values m.content⟩ : Message)) =
        ms.map fun m => ⟨m.role, fill values' m.content⟩ := by
      refine List.map_congr_left fun m hm => ?_
      rw [hfill m.content (List.mem_map_of_mem hm)]
    simp only [hms]

/-- A template is formatted just if all of its variables have values. Else those that have none are
named, each once and in ascending order of the bytes. When values may be missing it is always
formatted, and as it is without leave if that succeeds. Values of the same variables give the same
result, whatever other names have values. -/
theorem format_missing (t : Template) (values : Dict String) :
    ((∃ f, t.format values false = .ok f) ↔
      ∀ name ∈ t.variableNames, ∃ value, values.get? name = some value) ∧
    (∀ e, t.format values false = .error e → ∃ names, e = .missingVariables names ∧
      (∀ name, name ∈ names ↔ name ∈ t.variableNames ∧ values.get? name = none) ∧
      names.Pairwise fun n m => Text.Utf8.encode n < Text.Utf8.encode m) ∧
    (∃ f, t.format values true = .ok f ∧ ∀ g, t.format values false = .ok g → g = f) ∧
    ∀ values' : Dict String, (∀ name ∈ t.variableNames, values.get? name = values'.get? name) →
      ∀ allowPartial, t.format values allowPartial = t.format values' allowPartial := by
  obtain ⟨f, hf⟩ := t.format_partial values
  refine ⟨?_, ?_, ⟨f, hf, ?_⟩, fun values' h => format_congr h⟩
  · rw [← missing_eq_nil]
    constructor
    · rintro ⟨g, hg⟩
      by_contra hmissing
      cases (format_of_missing hmissing).symm.trans hg
    · intro hmissing
      exact ⟨f, (format_of_missing_nil hmissing false).trans hf⟩
  · intro e he
    by_cases hmissing : t.missing values = []
    · cases (format_of_missing_nil hmissing false).symm.trans he
    · cases (format_of_missing hmissing).symm.trans he
      exact ⟨_, rfl, fun name => mem_missing,
        (Dict.keys_pairwise _).imp fun h => Text.Utf8.encode_lt h⟩
  · intro g hg
    by_cases hmissing : t.missing values = []
    · cases ((format_of_missing_nil hmissing false).trans hf).symm.trans hg
      rfl
    · cases (format_of_missing hmissing).symm.trans hg

theorem format_missing_two :
    let t : Template := .chat [⟨"system", "\x7b\x7b zeta \x7d\x7d \x7b\x7bpresent\x7d\x7d"⟩,
      ⟨"user", "\x7b\x7balpha\x7d\x7d \x7b\x7bzeta\x7d\x7d"⟩]
    let values : Dict String := .ofList [("present", "x")]
    let values' : Dict String := .ofList [("present", "x"), ("other", "y")]
    t.format values false = .error (.missingVariables ["alpha", "zeta"]) ∧
      (["alpha", "zeta"].Pairwise fun n m => Text.Utf8.encode n < Text.Utf8.encode m) ∧
      t.format values true = t.format values' true := by
  intro t values values'
  have herror : t.format values false = .error (.missingVariables ["alpha", "zeta"]) := by
    decide +kernel
  have hagree : ∀ name ∈ t.variableNames, values.get? name = values'.get? name := by
    decide +kernel
  obtain ⟨-, hmissing, -, hcongr⟩ := format_missing t values
  obtain ⟨names, hnames, -, hsorted⟩ := hmissing _ herror
  cases hnames
  exact ⟨herror, hsorted, hcongr values' hagree true⟩

end PromptRegistry.Template
