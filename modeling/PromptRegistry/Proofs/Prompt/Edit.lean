import PromptRegistry.Failure
import PromptRegistry.Proofs.Prompt.Core

/-!
# Edits

An edit is one change of a prompt that is asked for. What it does is said once, part by part
(`Edit.Effect`), and an edit reports an effect exactly if it has that one
(`Edit.perform_eq_changed`). An edit that reports none leaves the prompt as it was.
-/

namespace PromptRegistry

inductive Edit where
  | setDescription (text : Option String)
  | setTag (key value : String)
  | deleteTag (key : String)
  | addVersion (d : NewVersion)
  | deleteVersion (number : UInt32)
  | setAlias (aliasName : String) (number : UInt32)
  | deleteAlias (aliasName : String)
  | setVersionTag (number : UInt32) (key value : String)
  | deleteVersionTag (number : UInt32) (key : String)

def Version.content (v : Version) : NewVersion :=
  ⟨v.template, v.commitMessage, v.tags, v.responseFormat⟩

/-- The versions of a prompt around the first with a number. -/
structure Prompt.SplitsAt (p : Prompt) (n : UInt32) (before : List Version) (v : Version)
    (after : List Version) : Prop where
  versions : p.versions = before ++ v :: after
  number : v.number = n
  first : ∀ w ∈ before, w.number ≠ n

namespace Edit

def removal (p : Prompt) (q? : Option Prompt) : Except Failure Bool × Prompt :=
  (.ok q?.isSome, q?.getD p)

def report (p : Prompt) (e : Failure) : Option (Bool × Prompt) → Except Failure Bool × Prompt
  | some (changed, q) => (.ok changed, q)
  | none => (.error e, p)

def ofVersion (p : Prompt) (n : UInt32) : Option (Bool × Prompt) → Except Failure Bool × Prompt :=
  report p (.missing (.version p.name.text n))

/-- Whether the edit had an effect, or why it failed, and the prompt after it. -/
def perform (now : Timestamp) (p : Prompt) : Edit → Except Failure Bool × Prompt
  | setDescription text => (.ok true, p.setDescription now text)
  | setTag key value => (.ok true, p.setTag now key value)
  | deleteTag key => removal p (p.deleteTag? now key)
  | addVersion d => report p .exhausted ((p.addVersion? now d).map fun r => (true, r.2))
  | deleteVersion n => removal p (p.deleteVersion? now n)
  | setAlias a n => ofVersion p n ((p.setAlias? now a n).map (true, ·))
  | deleteAlias a => removal p (p.deleteAlias? now a)
  | setVersionTag n key value => ofVersion p n ((p.setVersionTag? now n key value).map (true, ·))
  | deleteVersionTag n key => ofVersion p n (p.deleteVersionTag? now n key)

/-- What an edit that has an effect at a time makes of a prompt: the time is noted, and of the
other parts only those that are named differ. -/
inductive Effect (now : Timestamp) (p : Prompt) : Edit → Prompt → Prop
  | setDescription :
    Effect now p (.setDescription text) { p with description := text, updatedAt := now }
  | setTag (h : p.tags.Becomes key (some value) tags) :
    Effect now p (.setTag key value) { p with tags, updatedAt := now }
  | deleteTag (there : p.tags.contains key = true) (h : p.tags.Becomes key none tags) :
    Effect now p (.deleteTag key) { p with tags, updatedAt := now }
  | addVersion (v : Version) (name : v.name = p.name.text)
      (number : v.number.toNat = p.lastVersion.toNat + 1) (content : v.content = d)
      (names : v.variableNames = d.template.variableNames) (created : v.createdAt = now) :
    Effect now p (.addVersion d)
      { p with versions := p.versions ++ [v], lastVersion := v.number, updatedAt := now }
  | deleteVersion (split : p.SplitsAt n before v after)
      (pointed : ∀ a m, aliases.get? a = some m ↔ p.aliases.get? a = some m ∧ m ≠ n) :
    Effect now p (.deleteVersion n)
      { p with versions := before ++ after, aliases, updatedAt := now }
  | setAlias (split : p.SplitsAt n before v after) (h : p.aliases.Becomes a (some n) aliases) :
    Effect now p (.setAlias a n) { p with aliases, updatedAt := now }
  | deleteAlias (there : p.aliases.contains a = true) (h : p.aliases.Becomes a none aliases) :
    Effect now p (.deleteAlias a) { p with aliases, updatedAt := now }
  | setVersionTag (split : p.SplitsAt n before v after)
      (h : v.tags.Becomes key (some value) tags) :
    Effect now p (.setVersionTag n key value)
      { p with versions := before ++ { v with tags } :: after, updatedAt := now }
  | deleteVersionTag (split : p.SplitsAt n before v after) (there : v.tags.contains key = true)
      (h : v.tags.Becomes key none tags) :
    Effect now p (.deleteVersionTag n key)
      { p with versions := before ++ { v with tags } :: after, updatedAt := now }

end Edit

-- ---------------------------------------------------------------------------
-- The first version with a number
-- ---------------------------------------------------------------------------

namespace Prompt

variable {p : Prompt}

theorem version?_eq_some : p.version? n = some v ↔ ∃ before after, p.SplitsAt n before v after := by
  simp only [version?, List.find?_eq_some_iff_append, decide_eq_true_eq, Bool.not_eq_true',
    decide_eq_false_iff_not]
  constructor
  · rintro ⟨hnumber, before, after, hversions, hfirst⟩
    exact ⟨before, after, hversions, hnumber, hfirst⟩
  · rintro ⟨before, after, h⟩
    exact ⟨h.number, before, after, h.versions, h.first⟩

theorem isSome_version? :
    (p.version? n).isSome ↔ ∃ before v after, p.SplitsAt n before v after := by
  simp only [Option.isSome_iff_exists, version?_eq_some]
  exact exists_comm

theorem SplitsAt.version? (h : p.SplitsAt n before v after) : p.version? n = some v :=
  version?_eq_some.2 ⟨before, after, h⟩

theorem SplitsAt.isSome (h : p.SplitsAt n before v after) : (p.version? n).isSome := by
  rw [h.version?, Option.isSome_some]

theorem SplitsAt.eraseP (h : p.SplitsAt n before v after) :
    p.versions.eraseP (·.number = n) = before ++ after := by
  rw [h.versions, List.eraseP_append_right _ (by simpa using h.first),
    List.eraseP_cons_of_pos (by simpa using h.number)]

theorem SplitsAt.mapTags (h : p.SplitsAt n before v after) (change : Dict String → Dict String) :
    mapTags n change p.versions = before ++ { v with tags := change v.tags } :: after := by
  have hgo (vs : List Version) (hvs : ∀ w ∈ vs, w.number ≠ n) :
      Prompt.mapTags n change (vs ++ v :: after) =
        vs ++ { v with tags := change v.tags } :: after := by
    induction vs with
    | nil => simp [Prompt.mapTags, h.number]
    | cons w vs ih =>
      rw [List.forall_mem_cons] at hvs
      simp [Prompt.mapTags, hvs.1, ih hvs.2]
  rw [h.versions, hgo before h.first]

end Prompt

-- ---------------------------------------------------------------------------
-- Effects
-- ---------------------------------------------------------------------------

namespace Edit

variable {now : Timestamp} {p q : Prompt}

theorem removal_eq_changed {q? : Option Prompt} :
    removal p q? = (.ok true, q) ↔ q? = some q := by
  cases q? <;> simp [removal]

theorem report_eq_changed {r : Option (Bool × Prompt)} :
    report p e r = (.ok true, q) ↔ r = some (true, q) := by
  cases r <;> simp [report, Prod.ext_iff]

theorem ofVersion_map_eq_changed {q? : Option Prompt} :
    ofVersion p n (q?.map (true, ·)) = (.ok true, q) ↔ q? = some q := by
  rw [ofVersion, report_eq_changed]
  cases q? <;> simp

theorem addVersion_eq_changed : (addVersion d).perform now p = (.ok true, q) ↔
    ∃ v, p.addVersion? now d = some (v, q) := by
  rw [perform, report_eq_changed]
  cases p.addVersion? now d with
  | none => simp
  | some r => simp [Prod.ext_iff]

theorem removal_unchanged {q? : Option Prompt} (h : (removal p q?).1 ≠ .ok true) :
    (removal p q?).2 = p := by
  cases q? with
  | none => rfl
  | some q => exact absurd rfl h

theorem report_unchanged {r : Option (Bool × Prompt)} (hr : ∀ q, r = some (false, q) → q = p)
    (h : (report p e r).1 ≠ .ok true) : (report p e r).2 = p := by
  match r, hr, h with
  | none, _, _ => rfl
  | some (false, q), hr, _ => exact hr q rfl
  | some (true, _), _, h => exact absurd rfl h

theorem deleteVersionTag?_unchanged (h : p.deleteVersionTag? now n key = some (false, q)) :
    q = p := by
  unfold Prompt.deleteVersionTag? at h
  split at h
  · cases h
  · split at h <;> cases h
    rfl

theorem perform_unchanged {e : Edit} (h : (e.perform now p).1 ≠ .ok true) :
    (e.perform now p).2 = p := by
  cases e with
  | setDescription | setTag => exact absurd rfl h
  | deleteTag | deleteVersion | deleteAlias => exact removal_unchanged h
  | addVersion | setAlias | setVersionTag => exact report_unchanged (by simp) h
  | deleteVersionTag => exact report_unchanged (fun _ => deleteVersionTag?_unchanged) h

theorem Effect.perform {e : Edit} (h : e.Effect now p q) : e.perform now p = (.ok true, q) := by
  cases h with
  | setDescription => rfl
  | setTag h =>
    obtain rfl := Dict.becomes_some.1 h
    rfl
  | deleteTag there h =>
    obtain rfl := Dict.becomes_none.1 h
    exact removal_eq_changed.2 (if_pos there)
  | addVersion v name number content names created =>
    subst content created
    -- a version of which all this holds is the one that is added
    have hv : v = p.newVersion v.createdAt v.number v.content := by
      rw [Prompt.newVersion, ← name, ← names]
      rfl
    exact addVersion_eq_changed.2 ⟨v, Prompt.addVersion?_eq_some.2 ⟨number, hv, rfl⟩⟩
  | @deleteVersion n _ _ _ aliases split pointed =>
    have haliases : aliases = p.aliases.filter fun _ m => m ≠ n :=
      Dict.eq_filter_iff.2 fun a m => by rw [pointed, decide_eq_true_eq]
    rw [haliases, ← split.eraseP]
    exact removal_eq_changed.2 (if_pos split.isSome)
  | setAlias split h =>
    obtain rfl := Dict.becomes_some.1 h
    rw [Edit.perform, Prompt.setAlias?, if_pos split.isSome]
    rfl
  | deleteAlias there h =>
    obtain rfl := Dict.becomes_none.1 h
    exact removal_eq_changed.2 (if_pos there)
  | setVersionTag split h =>
    obtain rfl := Dict.becomes_some.1 h
    rw [Edit.perform, Prompt.setVersionTag?, if_pos split.isSome, split.mapTags]
    rfl
  | deleteVersionTag split there h =>
    obtain rfl := Dict.becomes_none.1 h
    simp only [Edit.perform, Prompt.deleteVersionTag?, split.version?, there, if_true,
      split.mapTags]
    rfl

theorem effect_of_perform {e : Edit} (h : e.perform now p = (.ok true, q)) : e.Effect now p q := by
  cases e with
  | setDescription text =>
    cases h
    exact .setDescription
  | setTag key value =>
    cases h
    exact .setTag (Dict.becomes_some.2 rfl)
  | deleteTag key =>
    obtain ⟨there, hq⟩ := Option.ite_none_right_eq_some.1 (removal_eq_changed.1 h)
    cases hq
    exact .deleteTag there (Dict.becomes_none.2 rfl)
  | addVersion d =>
    obtain ⟨v, hq⟩ := addVersion_eq_changed.1 h
    obtain ⟨hnumber, hv, rfl⟩ := Prompt.addVersion?_eq_some.1 hq
    rw [hv] at hnumber ⊢
    exact .addVersion _ rfl hnumber rfl rfl rfl
  | deleteVersion n =>
    obtain ⟨there, hq⟩ := Option.ite_none_right_eq_some.1 (removal_eq_changed.1 h)
    obtain ⟨before, v, after, split⟩ := Prompt.isSome_version?.1 there
    rw [split.eraseP] at hq
    cases hq
    exact .deleteVersion split fun a m => by simp [Dict.get?_filter_eq_some]
  | setAlias a n =>
    obtain ⟨there, hq⟩ := Option.ite_none_right_eq_some.1 (ofVersion_map_eq_changed.1 h)
    obtain ⟨before, v, after, split⟩ := Prompt.isSome_version?.1 there
    cases hq
    exact .setAlias split (Dict.becomes_some.2 rfl)
  | deleteAlias a =>
    obtain ⟨there, hq⟩ := Option.ite_none_right_eq_some.1 (removal_eq_changed.1 h)
    cases hq
    exact .deleteAlias there (Dict.becomes_none.2 rfl)
  | setVersionTag n key value =>
    obtain ⟨there, hq⟩ := Option.ite_none_right_eq_some.1 (ofVersion_map_eq_changed.1 h)
    obtain ⟨before, v, after, split⟩ := Prompt.isSome_version?.1 there
    rw [split.mapTags] at hq
    cases hq
    exact .setVersionTag split (Dict.becomes_some.2 rfl)
  | deleteVersionTag n key =>
    have hq := report_eq_changed.1 h
    unfold Prompt.deleteVersionTag? at hq
    split at hq
    · cases hq
    · next hv =>
      obtain ⟨before, after, split⟩ := Prompt.version?_eq_some.1 hv
      split at hq
      · next there =>
        rw [split.mapTags] at hq
        cases hq
        exact .deleteVersionTag split there (Dict.becomes_none.2 rfl)
      · cases hq

/-- An edit reports an effect exactly if it has the effect that is described. -/
theorem perform_eq_changed {e : Edit} : e.perform now p = (.ok true, q) ↔ e.Effect now p q :=
  ⟨effect_of_perform, Effect.perform⟩

theorem effect_or_same (now : Timestamp) (p : Prompt) (e : Edit) :
    e.Effect now p (e.perform now p).2 ∨ (e.perform now p).2 = p := by
  by_cases h : (e.perform now p).1 = .ok true
  · exact .inl (effect_of_perform (Prod.ext h rfl))
  · exact .inr (perform_unchanged h)

end Edit

end PromptRegistry
