import PromptRegistry.Proofs.Registry.Effect

/-!
# What the log tells of operations

An operation that fails reports nothing of note. One that succeeds reports its announcement, which
can be read off what stood there before and the answer, and a warning just when aliases were lost
with a version: those that are there before and not after (`Operation.run_reports`).
-/

namespace PromptRegistry.Registry

def aliasesUnder (c : Contents) (name : String) : Dict UInt32 := (Core.of (c.get? name)).aliases

def aliasesLost (c c' : Contents) (name : String) : List String :=
  (aliasesUnder c name).keys.filter fun a => !(aliasesUnder c' name).contains a

theorem mem_aliasesLost {c c' : Contents} : a ∈ aliasesLost c c' name ↔
    (aliasesUnder c name).contains a = true ∧ (aliasesUnder c' name).contains a = false := by
  simp only [aliasesLost, Dict.mem_keys, List.mem_filter, Bool.not_eq_true']

theorem aliasesLost_ascending (c c' : Contents) (name : String) :
    (aliasesLost c c' name).Pairwise (· < ·) :=
  (List.pairwise_map.2 (aliasesUnder c name).ascending).filter _

namespace Operation

/-- What an operation announces that succeeds on contents with an answer. -/
def announcement? (c : Contents) : (op : Operation) → op.Answer → Option Event
  | .createPrompt d, _ => some (.promptCreated d.name)
  | .updatePrompt name _, _ => some (.promptUpdated name)
  | .deletePrompt name, _ => some (.promptDeleted name)
  | .createVersion name _, d => some (.versionCreated name d.version.number)
  | .register r, d => some (.registered r.name d.version.number (c.get? r.name).isNone)
  | .deleteVersion name n, _ => some (.versionDeleted name n)
  | .setAlias name a n, _ => some (.aliasSet name a n ((aliasesUnder c name).get? a))
  | .deleteAlias name a, _ => some (.aliasDeleted name a)
  | _, _ => none

/-- What an operation warns of that makes contents of others. -/
def warning? (c c' : Contents) : Operation → Option Event
  | .deleteVersion name n =>
    if (aliasesUnder c' name).size < (aliasesUnder c name).size then
      some (.aliasesLost name n (aliasesLost c c' name))
    else none
  | _ => none

def eventsAt (level : Level) (es : List Event) : List Event := es.filter (·.level = level)

structure Reports (c : Contents) (op : Operation) (r : Except Failure op.Answer) (c' : Contents)
    (es : List Event) : Prop where
  failed : ∀ e, r = .error e → ∀ event ∈ es, event.level = .debug
  announced : ∀ a, r = .ok a → eventsAt .info es = (op.announcement? c a).toList
  warned : ∀ a, r = .ok a → eventsAt .warning es = (op.warning? c c').toList

-- ---------------------------------------------------------------------------
-- Operations that succeed
-- ---------------------------------------------------------------------------

section
variable {c c' : Contents} {op : Operation} {a : op.Answer} {o o' : Option Prompt}
  {es : List Event}

theorem eventsAt_of_debug (h : ∀ e ∈ es, e.level = .debug) (hlevel : level ≠ .debug) :
    eventsAt level es = [] := by
  refine List.filter_eq_nil_iff.2 fun e he => ?_
  simpa [h e he] using hlevel.symm

theorem silent_of_isReading (hop : op.isReading = true) (c c' : Contents) (a : op.Answer) :
    op.announcement? c a = none ∧ op.warning? c c' = none := by
  cases op with
  | getPrompt | requirePrompt | searchPrompts | getVersion | getByAlias | load | searchVersions
  | format | formatVersion | count => exact ⟨rfl, rfl⟩
  | _ => cases hop

theorem Effect.announced (hop : op.name? = some name) (h : op.Effect now (c.get? name) a o' es) :
    eventsAt .info es = (op.announcement? c a).toList := by
  generalize ho : c.get? name = o at h
  cases h with
  | register =>
    cases hop
    simp [eventsAt, Event.level, announcement?, Prompt.details, ho]
  | setAlias =>
    cases hop
    simp [eventsAt, Event.level, announcement?, aliasesUnder, Core.of, Prompt.core, ho]
  | deleteVersion =>
    split
    · rfl
    · rfl
  | _ => rfl

/-- The aliases that pointed at the number of a version are those that go with it. -/
theorem Effect.warned (hop : op.name? = some name) (h : op.Effect now (c.get? name) a o' es)
    (ho' : c'.get? name = o') : eventsAt .warning es = (op.warning? c c').toList := by
  generalize ho : c.get? name = o at h
  cases h with
  | @deleteVersion n _ p q _ hq =>
    cases hop
    obtain ⟨-, -, haliases, -, -⟩ := Prompt.deleteVersion?_eq_some hq
    have hbefore : aliasesUnder c name = p.aliases := by rw [aliasesUnder, ho]; rfl
    have hafter : aliasesUnder c' name = p.aliases.filter fun _ m => m ≠ n := by
      rw [aliasesUnder, ho', ← haliases]; rfl
    have hlost : p.aliasesOf n = aliasesLost c c' name := by
      rw [aliasesLost, hbefore, hafter, Dict.keys_filter_not_contains]
      simp [Prompt.aliasesOf]
    have hsize : (aliasesUnder c' name).size < (aliasesUnder c name).size ↔
        aliasesLost c c' name ≠ [] := by
      rw [← hlost, hbefore, hafter, Dict.size_filter_lt]
      simp [Prompt.aliasesOf]
    rw [warning?, hlost]
    by_cases hnone : aliasesLost c c' name = []
    · rw [if_pos (by simpa using hnone), if_neg (by simpa [hsize] using hnone)]
      rfl
    · rw [if_neg (by simpa using hnone), if_pos (hsize.2 hnone)]
      rfl
  | _ => rfl

theorem Reports.of_ok (hinfo : eventsAt .info es = (op.announcement? c a).toList)
    (hwarning : eventsAt .warning es = (op.warning? c c').toList) : op.Reports c (.ok a) c' es := by
  refine ⟨nofun, ?_, fun _ _ => hwarning⟩
  rintro _ ⟨⟩
  exact hinfo

theorem Done.reports (h : op.Done now c a c' es) : op.Reports c (.ok a) c' es := by
  cases h with
  | read hop hes =>
    obtain ⟨hannounced, hwarned⟩ := silent_of_isReading hop c c a
    refine .of_ok ?_ ?_
    · rw [hannounced]
      exact eventsAt_of_debug hes (by decide)
    · rw [hwarned]
      exact eventsAt_of_debug hes (by decide)
  | put hop h => exact .of_ok (h.announced hop) (h.warned hop (by simp [Contents.put]))
  | erase hop h => exact .of_ok (h.announced hop) (h.warned hop (by simp))

end

-- ---------------------------------------------------------------------------
-- Runs
-- ---------------------------------------------------------------------------

theorem Reports.lost {op : Operation} {r : Except Failure op.Answer} (h : op.Reports c r c' es)
    (he : .aliasesLost name n as ∈ es) :
    as.Pairwise (· < ·) ∧ ∀ a, a ∈ as ↔
      (aliasesUnder c name).contains a = true ∧ (aliasesUnder c' name).contains a = false := by
  cases r with
  | error e => exact absurd (h.failed e rfl _ he) (by simp [Event.level])
  | ok answer =>
    have hwarned : .aliasesLost name n as ∈ (op.warning? c c').toList :=
      h.warned answer rfl ▸ List.mem_filter.2 ⟨he, by simp [Event.level]⟩
    rw [Option.mem_toList] at hwarned
    cases op with
    | deleteVersion =>
      rw [warning?] at hwarned
      split at hwarned
      · cases hwarned
        exact ⟨aliasesLost_ascending c c' name, fun a => mem_aliasesLost⟩
      · cases hwarned
    | _ => cases hwarned

/-- Whichever calls of the storage fail, the events of an operation are true to what came of it. -/
theorem run_reports {st : Storage σ} {contents : σ → Contents} (hst : st.Atomic contents) {s : σ}
    (hc : (contents s).Keyed) (sizes : Search.PageSizes) (now : Timestamp) (op : Operation) :
    let o := op.run sizes st now s
    op.Reports (contents s) o.result (contents o.state) o.events := by
  intro o
  have hensures : (op.procedure sizes now).Ensures (op.Done now (contents s))
      (Procedure.Untouched (contents s)) (contents s) [] := op.procedure_ensures hc
  have h := hensures.run hst
  rw [List.nil_append] at h
  change Procedure.Post.of _ _ o.result (contents o.state) o.events at h
  cases hr : o.result with
  | ok a =>
    rw [hr] at h
    exact Done.reports h
  | error e =>
    rw [hr] at h
    exact ⟨fun _ _ => h.2, nofun, nofun⟩

theorem run_reports_deleteVersion :
    let empty := Prompt.new default ⟨"greeting", rfl⟩ none ∅
    let q := empty.append default (empty.newVersion default 1 ⟨.text "Hello", none, ∅, none⟩)
    let p : Prompt := { q with aliases := (∅ : Dict UInt32).insert "live" 1 }
    let s : Interruptible Contents := ⟨.put ∅ p, none⟩
    let o := (Operation.deleteVersion "greeting" 1).run ⟨20, 100⟩ (.interruptible .memory) default s
    o.result = .ok () ∧ eventsAt .warning o.events = [.aliasesLost "greeting" 1 ["live"]] ∧
      eventsAt .info o.events = [.versionDeleted "greeting" 1] := by
  intro empty q p s o
  have h := run_reports Storage.memory_atomic.interruptible (s := s)
    (Contents.keyed_empty.put p) ⟨20, 100⟩ default (.deleteVersion "greeting" 1)
  have hdeleted : o.result = .ok () := rfl
  refine ⟨hdeleted, (h.warned () hdeleted).trans ?_, h.announced () hdeleted⟩
  decide +kernel

end Operation

end PromptRegistry.Registry
