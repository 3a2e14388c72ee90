import Mathlib.Data.List.Induction
import PromptRegistry.Proofs.Prompt.Edit
import PromptRegistry.Proofs.Prompt.WellFormed
import PromptRegistry.Proofs.Time.Order

/-!
# The times of a prompt

Under a clock that is never set back, edits leave the times of a prompt in order
(`Prompt.Chronological.after`). No number is given out a second time, so that the versions are
also in order of their numbers and one with a higher number is not older.
-/

namespace PromptRegistry

structure DatedEdit where
  time : Timestamp
  edit : Edit

def Version.stamp (v : Version) : UInt32 × Timestamp := (v.number, v.createdAt)

namespace Prompt

def after (p : Prompt) (steps : List DatedEdit) : Prompt :=
  steps.foldl (fun p s => (s.edit.perform s.time p).2) p

def dates (p : Prompt) : List Timestamp :=
  p.createdAt :: p.versions.map Version.createdAt ++ [p.updatedAt]

/-- Nothing of a prompt is older than what stands before it. -/
def Chronological (p : Prompt) : Prop := p.dates.Pairwise (· ≤ ·)

end Prompt

variable {now : Timestamp} {p q : Prompt} {e : Edit}

-- ---------------------------------------------------------------------------
-- What an edit does to numbers and times
-- ---------------------------------------------------------------------------

theorem Edit.Effect.frame (h : e.Effect now p q) :
    q.name = p.name ∧ q.createdAt = p.createdAt ∧ q.updatedAt = now := by
  cases h <;> exact ⟨rfl, rfl, rfl⟩

/-- An effect adds a version that is made now, or it makes none and may take some away. -/
theorem Edit.Effect.stamps (h : e.Effect now p q) :
    (∃ v, v.number.toNat = p.lastVersion.toNat + 1 ∧ v.createdAt = now ∧
      q = { p with versions := p.versions ++ [v], lastVersion := v.number, updatedAt := now }) ∨
    q.lastVersion = p.lastVersion ∧
      (q.versions.map Version.stamp).Sublist (p.versions.map Version.stamp) := by
  cases h with
  | addVersion v name number content names created =>
    exact .inl ⟨v, number, created, rfl⟩
  | deleteVersion split pointed =>
    refine .inr ⟨rfl, .map _ ?_⟩
    rw [split.versions]
    exact (List.sublist_cons_self ..).append_left _
  | setVersionTag split h | deleteVersionTag split there h =>
    -- tags are no part of a stamp
    refine .inr ⟨rfl, ?_⟩
    rw [split.versions, List.map_append, List.map_append]
    exact .refl _
  | setDescription | setTag h | deleteTag there h | setAlias split h | deleteAlias there h =>
    exact .inr ⟨rfl, .refl _⟩

-- ---------------------------------------------------------------------------
-- Times
-- ---------------------------------------------------------------------------

theorem pairwise_le_concat {ts : List Timestamp} :
    (ts ++ [t]).Pairwise (· ≤ ·) ↔ ts.Pairwise (· ≤ ·) ∧ ∀ s ∈ ts, s ≤ t := by
  simp [List.pairwise_append]

theorem Prompt.chronological_new (start : Timestamp) (name : PromptName) (text : Option String)
    (tags : Dict String) : (Prompt.new start name text tags).Chronological := by
  simp [Prompt.Chronological, Prompt.dates, Prompt.new]

theorem Prompt.Chronological.created_updated (h : p.Chronological) : p.createdAt ≤ p.updatedAt :=
  (pairwise_le_concat.1 h).2 _ (List.mem_cons_self ..)

theorem Prompt.Chronological.versions_between (h : p.Chronological) :
    ∀ v ∈ p.versions, p.createdAt ≤ v.createdAt ∧ v.createdAt ≤ p.updatedAt := by
  intro v hv
  have hmem := List.mem_map_of_mem (f := Version.createdAt) hv
  obtain ⟨hdates, hupdated⟩ := pairwise_le_concat.1 h
  exact ⟨(List.pairwise_cons.1 hdates).1 _ hmem, hupdated _ (List.mem_cons_of_mem _ hmem)⟩

theorem Prompt.Chronological.touch (h : p.Chronological) (hnow : p.updatedAt ≤ now) :
    (p.touch now).Chronological := by
  obtain ⟨hdates, hupdated⟩ := pairwise_le_concat.1 h
  exact pairwise_le_concat.2 ⟨hdates, fun s hs => Timestamp.le_trans (hupdated s hs) hnow⟩

theorem Edit.Effect.chronological (h : e.Effect now p q) (hp : p.Chronological)
    (hnow : p.updatedAt ≤ now) : q.Chronological := by
  have htouched := hp.touch hnow
  rcases h.stamps with ⟨v, -, rfl, rfl⟩ | ⟨-, hsub⟩
  · -- the time of the change stands twice: for the new version and for the prompt
    rw [Prompt.Chronological, Prompt.dates, List.map_append, ← List.cons_append]
    refine pairwise_le_concat.2 ⟨htouched, fun s hs => ?_⟩
    rcases List.mem_append.1 hs with hs | hs
    · exact (pairwise_le_concat.1 htouched).2 s hs
    · obtain rfl := List.mem_singleton.1 hs
      exact Timestamp.le_refl _
  · obtain ⟨-, hcreated, hupdated⟩ := h.frame
    have htimes :
        (q.versions.map Version.createdAt).Sublist (p.versions.map Version.createdAt) := by
      simpa [Version.stamp, Function.comp_def] using hsub.map Prod.snd
    refine List.Pairwise.sublist ?_ htouched
    rw [Prompt.dates, hcreated, hupdated]
    exact (htimes.cons_cons _).append_right _

theorem Edit.chronological_perform (e : Edit) (hp : p.Chronological) (hnow : p.updatedAt ≤ now) :
    (e.perform now p).2.Chronological ∧ (e.perform now p).2.updatedAt ≤ now := by
  rcases effect_or_same now p e with h | h
  · refine ⟨h.chronological hp hnow, ?_⟩
    rw [h.frame.2.2]
    exact now.le_refl
  · rw [h]
    exact ⟨hp, hnow⟩

theorem Prompt.Chronological.after {steps : List DatedEdit} (hp : p.Chronological)
    (hclock : (p.updatedAt :: steps.map DatedEdit.time).Pairwise (· ≤ ·)) :
    (p.after steps).Chronological := by
  induction steps generalizing p with
  | nil => exact hp
  | cons s steps ih =>
    rw [List.map_cons, List.pairwise_cons, List.forall_mem_cons, List.pairwise_cons] at hclock
    obtain ⟨⟨hnow, -⟩, hlater, hsteps⟩ := hclock
    obtain ⟨hq, hupdated⟩ := s.edit.chronological_perform hp hnow
    refine ih hq (List.pairwise_cons.2 ⟨fun t ht => ?_, hsteps⟩)
    exact Timestamp.le_trans hupdated (hlater t ht)

-- ---------------------------------------------------------------------------
-- Numbers
-- ---------------------------------------------------------------------------

theorem Prompt.numbered_new (start : Timestamp) (name : PromptName) (text : Option String)
    (tags : Dict String) : (Prompt.new start name text tags).Numbered :=
  ⟨.nil, nofun⟩

theorem Edit.Effect.numbered (h : e.Effect now p q) (hp : p.Numbered) : q.Numbered := by
  rcases h.stamps with ⟨v, hnumber, -, rfl⟩ | ⟨hlast, hsub⟩
  · refine Prompt.numbered_core.1 ?_
    have hcore := (Prompt.numbered_core.2 hp).add hnumber
    simpa [Core.apply, Prompt.core] using hcore
  · refine ⟨?_, ?_⟩
    · have hascending : (p.versions.map Version.stamp).Pairwise fun s t => s.1 < t.1 :=
        List.pairwise_map.2 hp.ascending
      exact (List.pairwise_map (f := Version.stamp)).1 (hascending.sublist hsub)
    · intro v hv
      obtain ⟨w, hw, hstamp⟩ := List.mem_map.1 (hsub.mem (List.mem_map_of_mem hv))
      have hnumber : w.number = v.number := congrArg Prod.fst hstamp
      rw [← hnumber, hlast]
      exact hp.bounds w hw

theorem Edit.numbered_perform (e : Edit) (now : Timestamp) (hp : p.Numbered) :
    (e.perform now p).2.Numbered := by
  rcases effect_or_same now p e with h | h
  · exact h.numbered hp
  · rw [h]
    exact hp

theorem Prompt.Numbered.after (hp : p.Numbered) (steps : List DatedEdit) :
    (p.after steps).Numbered := by
  induction steps generalizing p with
  | nil => exact hp
  | cons s steps ih => exact ih (s.edit.numbered_perform s.time hp)

theorem Prompt.Numbered.createdAt_le (hn : p.Numbered) (hc : p.Chronological) :
    ∀ v ∈ p.versions, ∀ w ∈ p.versions, v.number ≤ w.number → v.createdAt ≤ w.createdAt := by
  have htimes : p.versions.Pairwise fun v w => v.createdAt ≤ w.createdAt :=
    List.pairwise_map.1 (pairwise_le_concat.1 hc).1.of_cons
  intro v hv w hw
  refine List.Pairwise.forall_of_forall_of_flip
    (R := fun v w : Version => v.number ≤ w.number → v.createdAt ≤ w.createdAt) ?_ ?_ ?_ hv hw
  · exact fun v _ _ => Timestamp.le_refl _
  · exact htimes.imp (by intro v w hle _; exact hle)
  · exact hn.ascending.imp fun hlt hle => absurd hlt (UInt32.not_lt.2 hle)

-- ---------------------------------------------------------------------------
-- The main result
-- ---------------------------------------------------------------------------

/-- An edit that reports an effect changes the part that it names and notes the time, any other
changes nothing. So under a clock that is never set back the versions of a prompt are made between
its own making and its last change, and in order of their numbers. -/
theorem edits_chronological {start : Timestamp} {steps : List DatedEdit}
    (hclock : (start :: steps.map DatedEdit.time).Pairwise (· ≤ ·)) (name : PromptName)
    (text : Option String) (tags : Dict String) :
    (∀ (now : Timestamp) (p q : Prompt) (e : Edit),
      (e.perform now p = (.ok true, q) ↔ e.Effect now p q) ∧
      (e.Effect now p q → q.name = p.name ∧ q.createdAt = p.createdAt ∧ q.updatedAt = now) ∧
      ((e.perform now p).1 ≠ .ok true → (e.perform now p).2 = p)) ∧
    let p := (Prompt.new start name text tags).after steps
    p.createdAt ≤ p.updatedAt ∧
    (∀ v ∈ p.versions, p.createdAt ≤ v.createdAt ∧ v.createdAt ≤ p.updatedAt) ∧
    ∀ v ∈ p.versions, ∀ w ∈ p.versions, v.number ≤ w.number → v.createdAt ≤ w.createdAt := by
  refine ⟨fun now p q e => ⟨Edit.perform_eq_changed, Edit.Effect.frame, Edit.perform_unchanged⟩, ?_⟩
  intro p
  have hp : p.Chronological := (Prompt.chronological_new start name text tags).after hclock
  have hn : p.Numbered := (Prompt.numbered_new start name text tags).after steps
  exact ⟨hp.created_updated, hp.versions_between, hn.createdAt_le hp⟩

theorem edits_chronological_greeting :
    let d : NewVersion := ⟨.text "Hello", none, ∅, none⟩
    let steps : List DatedEdit :=
      [⟨⟨1, 0⟩, .addVersion d⟩, ⟨⟨1, 0⟩, .setAlias "live" 1⟩, ⟨⟨1, 5⟩, .addVersion d⟩,
        ⟨⟨2, 0⟩, .deleteVersion 1⟩, ⟨⟨2, 0⟩, .addVersion d⟩, ⟨⟨3, 0⟩, .deleteTag "owner"⟩]
    let p := (Prompt.new ⟨0, 0⟩ ⟨"greeting", by decide⟩ none ∅).after steps
    ((⟨0, 0⟩ : Timestamp) :: steps.map DatedEdit.time).Pairwise (· ≤ ·) ∧
      p.versions.map Version.stamp = [(2, ⟨1, 5⟩), (3, ⟨2, 0⟩)] ∧ p.aliases = ∅ ∧
      p.updatedAt = ⟨2, 0⟩ ∧
      (∀ v ∈ p.versions, p.createdAt ≤ v.createdAt ∧ v.createdAt ≤ p.updatedAt) ∧
      ∀ v ∈ p.versions, ∀ w ∈ p.versions, v.number ≤ w.number → v.createdAt ≤ w.createdAt := by
  intro d steps p
  have hclock : ((⟨0, 0⟩ : Timestamp) :: steps.map DatedEdit.time).Pairwise (· ≤ ·) := by decide
  obtain ⟨-, -, hbetween, hascending⟩ :=
    edits_chronological hclock ⟨"greeting", by decide⟩ none ∅
  exact ⟨hclock, rfl, rfl, rfl, hbetween, hascending⟩

end PromptRegistry
