import PromptRegistry.Proofs.Registry.Reading
import PromptRegistry.Proofs.Registry.WellFormed

/-!
# Aliases

What an alias finds is decided by the history alone: the version that it was last pointed at, if
neither the alias nor the version nor the prompt was deleted since (`Course.aliases_iff`). The alias
for the highest version finds the highest of the versions that stand (`Course.snapshots_eq`).
-/

namespace PromptRegistry

-- ---------------------------------------------------------------------------
-- The highest version
-- ---------------------------------------------------------------------------

theorem Prompt.number_later (v w : Version) :
    v.number ≤ (later v w).number ∧ w.number ≤ (later v w).number := by
  unfold later
  split
  · next h => exact ⟨UInt32.le_refl _, UInt32.le_of_lt h⟩
  · next h => exact ⟨UInt32.not_lt.1 h, UInt32.le_refl _⟩

theorem Prompt.later_eq (v w : Version) : later v w = v ∨ later v w = w := by
  unfold later
  split
  · exact .inl rfl
  · exact .inr rfl

theorem Prompt.foldl_later (vs : List Version) (v : Version) :
    vs.foldl later v ∈ v :: vs ∧ ∀ w ∈ v :: vs, w.number ≤ (vs.foldl later v).number := by
  induction vs generalizing v with
  | nil => simp
  | cons w vs ih =>
    obtain ⟨hmem, hle⟩ := ih (later v w)
    have hhead := hle _ (List.mem_cons_self ..)
    simp only [List.foldl_cons, List.forall_mem_cons]
    refine ⟨?_, ?_, ?_, fun u hu => hle u (List.mem_cons_of_mem _ hu)⟩
    · rcases List.mem_cons.1 hmem with hmem | hmem
      · rw [hmem]
        rcases later_eq v w with h | h <;> simp [h]
      · exact List.mem_cons_of_mem _ (List.mem_cons_of_mem _ hmem)
    · exact UInt32.le_trans (number_later v w).1 hhead
    · exact UInt32.le_trans (number_later v w).2 hhead

theorem Prompt.latest?_eq_none {p : Prompt} : p.latest? = none ↔ p.versions = [] := by
  unfold latest?
  split <;> simp_all

theorem Prompt.latest?_eq_some {p : Prompt} (h : p.latest? = some v) :
    v ∈ p.versions ∧ ∀ w ∈ p.versions, w.number ≤ v.number := by
  unfold latest? at h
  split at h
  · cases h
  · next w vs hversions =>
    cases h
    rw [hversions]
    exact foldl_later vs w

-- ---------------------------------------------------------------------------
-- One change
-- ---------------------------------------------------------------------------

def Change.Unsets (a : String) (n : UInt32) : Change → Prop
  | .point b _ | .unpoint b => b = a
  | .drop m => m = n
  | .clear => True
  | .keep | .add _ => False

theorem Core.aliases_apply (c : Core) (change : Change) :
    (c.apply change).aliases.get? a = some n ↔
      change = .point a n ∨ c.aliases.get? a = some n ∧ ¬change.Unsets a n := by
  cases change with
  | keep | add v => simp [apply, Change.Unsets]
  | drop m =>
    simp only [apply, Change.Unsets, Dict.get?_filter_eq_some, decide_eq_true_eq, reduceCtorEq,
      false_or]
    rw [ne_comm, ne_eq]
  | point b m =>
    simp only [apply, Dict.get?_insert, Change.Unsets, Change.point.injEq]
    by_cases hb : a = b
    · simp [hb]
    · simp [hb, Ne.symm hb]
  | unpoint b =>
    simp only [apply, Dict.get?_erase, Change.Unsets]
    by_cases hb : a = b
    · simp [hb]
    · simp [hb, Ne.symm hb]
  | clear => simp [apply, empty, Change.Unsets]

namespace Registry

/-- The versions of a prompt that stand after an exchange. A deletion takes one of its number
out. -/
def Exchange.stand (name : String) (vs : List Version) (x : Exchange) : List Version :=
  match x.change name with
  | .add v => vs ++ [v]
  | .drop n => vs.eraseP (·.number = n)
  | .clear => []
  | .keep | .point .. | .unpoint _ => vs

/-- The versions that were added under a name, as they were answered, and not deleted since the
prompt was created. -/
def standing (name : String) (xs : List Exchange) : List Version :=
  xs.foldl (Exchange.stand name) []

theorem Exchange.snapshots_apply (x : Exchange) (name : String) (c : Core)
    (hc : c.snapshots = vs.map Version.snapshot) :
    (c.apply (x.change name)).snapshots = (x.stand name vs).map Version.snapshot := by
  unfold stand
  cases x.change name with
  | keep | point a n | unpoint a => exact hc
  | add v => simp [Core.apply, hc]
  | drop n =>
    simp only [Core.apply, hc, List.eraseP_map]
    rfl
  | clear => rfl

-- ---------------------------------------------------------------------------
-- Histories
-- ---------------------------------------------------------------------------

theorem Course.snapshots_eq (h : Course name .empty xs c) :
    c.snapshots = (standing name xs).map Version.snapshot := by
  induction h with
  | start => rfl
  | next h hx ih =>
    rw [standing, List.foldl_append, List.foldl_cons, List.foldl_nil]
    exact Exchange.snapshots_apply _ name _ ih

theorem Course.aliases_iff (h : Course name .empty xs c) : c.aliases.get? a = some n ↔
    Since (fun x => x.change name = .point a n) (fun x => (x.change name).Unsets a n) xs := by
  induction h with
  | start => simp [Core.empty, not_since_nil]
  | next h hx ih => rw [Core.aliases_apply, ih, since_concat]

def Exchange.Unsets (name a : String) (n : UInt32) (x : Exchange) : Prop :=
  (∃ m, x.Succeeds (.setAlias name a m)) ∨ x.Succeeds (.deleteAlias name a) ∨
    x.Succeeds (.deleteVersion name n) ∨ x.Succeeds (.deletePrompt name)

theorem Exchange.unsets_iff {x : Exchange} :
    x.Unsets name a n ↔ (x.change name).Unsets a n := by
  simp only [Unsets, succeeds_setAlias, succeeds_deleteAlias, succeeds_deleteVersion,
    succeeds_deletePrompt]
  cases x.change name <;> simp [Change.Unsets]

/-- An alias that is kept points at a version, so that it finds the number it points at. -/
theorem number_resolve_byAlias {o : Option Prompt} (ho : ∀ p, o = some p → p.Checked) :
    (o.bind fun p => (p.resolve (.byAlias a)).map p.details).map (·.version.number) = some n ↔
      (Core.of o).aliases.get? a = some n := by
  cases o with
  | none => simp [Core.of, Core.empty]
  | some p =>
    simp only [Option.bind_some, Option.map_map, Prompt.resolve, Core.of, Prompt.core]
    constructor
    · intro h
      obtain ⟨v, hv, hn⟩ := Option.map_eq_some_iff.1 h
      obtain ⟨m, hm, hv⟩ := Option.bind_eq_some_iff.1 hv
      rw [hm, ← (Prompt.mem_versions_of_version? hv).2]
      exact congrArg some hn
    · intro h
      obtain ⟨v, hv⟩ := Option.isSome_iff_exists.1 ((ho p rfl).aliases a n h).2
      rw [h, Option.bind_some, hv]
      exact congrArg some (Prompt.mem_versions_of_version? hv).2

theorem highest_resolve_latest {o : Option Prompt} {r : Option Details}
    (hr : (o.bind fun p => (p.resolve .latest).map p.details) = r) :
    (r = none ↔ (Core.of o).snapshots = []) ∧
      ∀ d, r = some d → d.version.snapshot ∈ (Core.of o).snapshots ∧
        ∀ v ∈ (Core.of o).snapshots, v.number ≤ d.version.number := by
  subst hr
  cases o with
  | none => exact ⟨⟨fun _ => rfl, fun _ => rfl⟩, nofun⟩
  | some p =>
    simp only [Option.bind_some, Prompt.resolve, Core.of, Prompt.core, List.map_eq_nil_iff,
      Option.map_eq_none_iff, List.forall_mem_map]
    refine ⟨Prompt.latest?_eq_none, fun d hd => ?_⟩
    obtain ⟨v, hv, rfl⟩ := Option.map_eq_some_iff.1 hd
    obtain ⟨hmem, hle⟩ := Prompt.latest?_eq_some hv
    exact ⟨List.mem_map_of_mem hmem, hle⟩

variable {σ : Type} {st : Storage σ} {contents : σ → Contents} {s s₀ : σ}

/-- After any run from no prompts on, an alias finds a number just when it was pointed at it and
has not been taken away from it since. The alias for the highest version finds the highest of those
that stand, if there is any. -/
theorem getByAlias_history (hst : st.Atomic contents) (h₀ : contents s₀ = ∅)
    (h : Run sizes st s₀ xs s) (name : PromptName) (a : String) :
    ∃ r, found (getByAlias name.text a) (contents s) = .ok r ∧
      (Rules.isLatest a = false → ∀ n, r.map (·.version.number) = some n ↔
        Since (·.Succeeds (.setAlias name.text a n)) (·.Unsets name.text a n) xs) ∧
      (Rules.isLatest a = true →
        (r = none ↔ standing name.text xs = []) ∧
        ∀ d, r = some d → d.version.snapshot ∈ (standing name.text xs).map Version.snapshot ∧
          ∀ v ∈ standing name.text xs, v.number ≤ d.version.number) := by
  have hcourse := h.course hst (h₀ ▸ Contents.keyed_empty) name.text
  rw [h₀] at hcourse
  have hchecked := h.checked hst h₀ name.text
  refine ⟨_, found_resolve name _ (contents s), ?_, ?_⟩
  · intro ha n
    simp only [ha, Bool.false_eq_true, if_false, number_resolve_byAlias hchecked,
      Exchange.succeeds_setAlias, Exchange.unsets_iff]
    exact hcourse.aliases_iff
  · intro ha
    simp only [ha, if_true]
    have hhighest := highest_resolve_latest (o := (contents s).get? name.text) rfl
    rw [hcourse.snapshots_eq, List.map_eq_nil_iff] at hhighest
    simp only [List.forall_mem_map, Version.snapshot_number] at hhighest
    exact hhighest

theorem getByAlias_history_greeting :
    ∃ xs s, Run ⟨20, 100⟩ .memory (∅ : Contents) xs s ∧
      ∃ r, found (getByAlias "greeting" "live") s = .ok r ∧ r.map (·.version.number) = some 1 := by
  have hstart : Run ⟨20, 100⟩ .memory (∅ : Contents) [] ∅ := .start
  have h := (hstart.next default
    (.register ⟨"greeting", ⟨.text "Hello", none, ∅, none⟩, none, ∅⟩)).next default
    (.setAlias "greeting" "live" 1)
  obtain ⟨r, hr, halias, -⟩ := getByAlias_history Storage.memory_atomic rfl h
    ⟨"greeting", by decide⟩ "live"
  exact ⟨_, _, h, r, hr, (halias (by decide) 1).2 ⟨_, _, [], rfl, ⟨rfl, _, rfl⟩, by simp⟩⟩

end Registry

end PromptRegistry
