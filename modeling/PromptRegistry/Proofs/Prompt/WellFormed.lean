import PromptRegistry.Proofs.Except
import PromptRegistry.Proofs.Prompt.Core
import PromptRegistry.Registry.Basic

/-!
# Well-formed prompts

What holds of a prompt that came about by the registry's operations, in two parts. What the checks
give (`Checked`) is kept by each change of a prompt. The order of the numbers (`Numbered`) is a
matter of the core and is kept by each change of the core (`Core.Numbered.apply`).
-/

namespace PromptRegistry

-- ---------------------------------------------------------------------------
-- The checks
-- ---------------------------------------------------------------------------

def TagsOk (tags : Dict String) : Prop :=
  ∀ key value, tags.get? key = some value → Rules.checkTag key value = .ok ()

theorem TagsOk.empty : TagsOk ∅ := by
  intro key value h
  cases h

theorem TagsOk.insert (h : TagsOk tags) (htag : Rules.checkTag key value = .ok ()) :
    TagsOk (tags.insert key value) := by
  intro k v hv
  rw [Dict.get?_insert] at hv
  split at hv
  · next hk => cases hv; exact hk ▸ htag
  · exact h k v hv

theorem TagsOk.erase (h : TagsOk tags) : TagsOk (tags.erase key) := by
  intro k v hv
  rw [Dict.get?_erase] at hv
  split at hv
  · cases hv
  · exact h k v hv

theorem forM_ok {es : List α} {f : α → Except ε Unit} (h : es.forM f = .ok ()) :
    ∀ e ∈ es, f e = .ok () := by
  induction es with
  | nil => simp
  | cons e es ih =>
    rw [List.forM_eq_forM, List.forM_cons, bind_eq_ok] at h
    obtain ⟨_, he, hes⟩ := h
    intro a ha
    rcases List.mem_cons.1 ha with rfl | ha
    · exact he
    · exact ih hes a ha

theorem checkTags_ok (h : Registry.checkTags tags = .ok ()) : TagsOk tags := fun key value hv =>
  forM_ok h (key, value) (Dict.mem_toList.2 hv)

theorem checkVersion_ok {d : NewVersion} (h : Registry.checkVersion d = .ok ()) :
    d.template.check = .ok () ∧ TagsOk d.tags ∧
      ∀ format, d.responseFormat = some format → format.isObject = true := by
  simp only [Registry.checkVersion, bind_eq_ok, mapError_eq_ok] at h
  obtain ⟨_, htemplate, _, htags, hformat⟩ := h
  refine ⟨htemplate, checkTags_ok htags, ?_⟩
  intro format hf
  simp only [hf] at hformat
  split at hformat
  · assumption
  · cases hformat

structure Version.Checked (name : PromptName) (v : Version) : Prop where
  name : v.name = name.text
  variableNames : v.variableNames = v.template.variableNames
  template : v.template.check = .ok ()
  format : ∀ format, v.responseFormat = some format → format.isObject = true
  tags : TagsOk v.tags

namespace Prompt

structure Checked (p : Prompt) : Prop where
  tags : TagsOk p.tags
  versions : ∀ v ∈ p.versions, v.Checked p.name
  aliases : ∀ a n, p.aliases.get? a = some n →
    Rules.checkAlias a = .ok () ∧ (p.version? n).isSome

/-- The numbers of the versions ascend, from one to the highest number given out. -/
structure Numbered (p : Prompt) : Prop where
  ascending : p.versions.Pairwise fun v w => v.number < w.number
  bounds : ∀ v ∈ p.versions, 1 ≤ v.number ∧ v.number ≤ p.lastVersion

variable {p q : Prompt} {now : Timestamp}

theorem Checked.new {name : PromptName} {text : Option String} {tags : Dict String}
    (h : TagsOk tags) : (Prompt.new now name text tags).Checked where
  tags := h
  versions := by simp [Prompt.new]
  aliases := by
    intro a n hn
    cases hn

theorem Checked.of_core (h : p.Checked) (hcore : p.SameCore q) (htags : TagsOk q.tags)
    (hversions : ∀ v ∈ q.versions, v.Checked p.name) : q.Checked where
  tags := htags
  versions := by rw [hcore.name]; exact hversions
  aliases := by
    intro a n hn
    rw [hcore.isSome_version?]
    exact h.aliases a n (hcore.aliases ▸ hn)

theorem Checked.setDescription (h : p.Checked) : (p.setDescription now text).Checked :=
  h.of_core setDescription_sameCore h.tags h.versions

theorem Checked.setTag (h : p.Checked) (htag : Rules.checkTag key value = .ok ()) :
    (p.setTag now key value).Checked :=
  h.of_core setTag_sameCore (h.tags.insert htag) h.versions

theorem Checked.deleteTag (h : p.Checked) (hq : p.deleteTag? now key = some q) : q.Checked := by
  obtain ⟨hcore, hversions, htags⟩ := deleteTag?_eq_some hq
  exact h.of_core hcore (htags ▸ h.tags.erase) (hversions ▸ h.versions)

theorem Checked.setTags {tags : List (String × String)} (h : p.Checked)
    (htags : ∀ tag ∈ tags, Rules.checkTag tag.1 tag.2 = .ok ()) : (p.setTags now tags).Checked := by
  refine h.of_core (setTags_sameCore now tags p) ?_ (versions_setTags tags p ▸ h.versions)
  intro key value hv
  rcases tags_setTags hv with hv | hv
  · exact h.tags key value hv
  · exact htags _ hv

theorem checked_mapTags (h : p.Checked) {change : Dict String → Dict String}
    (hchange : ∀ tags, TagsOk tags → TagsOk (change tags)) :
    ∀ v ∈ mapTags n change p.versions, v.Checked p.name := by
  intro v hv
  rcases mem_mapTags hv with hv | ⟨w, hw, rfl⟩
  · exact h.versions v hv
  · have hw := h.versions w hw
    exact ⟨hw.name, hw.variableNames, hw.template, hw.format, hchange _ hw.tags⟩

theorem Checked.setVersionTag (h : p.Checked) (htag : Rules.checkTag key value = .ok ())
    (hq : p.setVersionTag? now n key value = some q) : q.Checked := by
  obtain ⟨hcore, hversions, htags⟩ := setVersionTag?_eq_some hq
  refine h.of_core hcore (htags ▸ h.tags) ?_
  rw [hversions]
  exact checked_mapTags h fun _ ht => ht.insert htag

theorem Checked.deleteVersionTag (h : p.Checked)
    (hq : p.deleteVersionTag? now n key = some (changed, q)) : q.Checked := by
  obtain ⟨hcore, hversions, htags⟩ := deleteVersionTag?_eq_some hq
  refine h.of_core hcore (htags ▸ h.tags) ?_
  rcases hversions with hversions | hversions <;> rw [hversions]
  · exact h.versions
  · exact checked_mapTags h fun _ ht => ht.erase

theorem Checked.addVersion (h : p.Checked) (hd : Registry.checkVersion d = .ok ())
    (hq : p.addVersion? now d = some (v, q)) : q.Checked := by
  obtain ⟨-, hv, rfl⟩ := addVersion?_eq_some.1 hq
  obtain ⟨htemplate, htags, hformat⟩ := checkVersion_ok hd
  refine ⟨h.tags, List.forall_mem_append.2 ⟨h.versions, ?_⟩, ?_⟩
  · rw [List.forall_mem_singleton, hv]
    exact ⟨rfl, rfl, htemplate, hformat, htags⟩
  · intro a n hn
    obtain ⟨ha, hsome⟩ := h.aliases a n hn
    obtain ⟨w, hw⟩ := Option.isSome_iff_exists.1 hsome
    exact ⟨ha, by rw [version?_append hw, Option.isSome_some]⟩

theorem Checked.deleteVersion (h : p.Checked) (hq : p.deleteVersion? now n = some q) :
    q.Checked := by
  obtain ⟨hname, hversions, haliases, -, htags⟩ := deleteVersion?_eq_some hq
  refine ⟨htags ▸ h.tags, ?_, ?_⟩
  · intro v hv
    rw [hname]
    exact h.versions v (List.mem_of_mem_eraseP (hversions ▸ hv))
  · intro a m hm
    -- an alias that is kept points elsewhere than at the version that goes
    rw [haliases, Dict.get?_filter_eq_some, decide_eq_true_eq] at hm
    obtain ⟨ha, hsome⟩ := h.aliases a m hm.1
    rw [version?, hversions, find?_eraseP_ne hm.2]
    exact ⟨ha, hsome⟩

theorem Checked.setAlias (h : p.Checked) (ha : Rules.checkAlias a = .ok ())
    (hq : p.setAlias? now a n = some q) : q.Checked := by
  obtain ⟨hn, rfl⟩ := setAlias?_eq_some hq
  refine ⟨h.tags, h.versions, ?_⟩
  intro b m hm
  simp only [touch, Dict.get?_insert] at hm
  split at hm
  · next hb =>
    cases hm
    exact ⟨hb ▸ ha, hn⟩
  · exact h.aliases b m hm

theorem Checked.deleteAlias (h : p.Checked) (hq : p.deleteAlias? now a = some q) : q.Checked := by
  obtain rfl := deleteAlias?_eq_some hq
  refine ⟨h.tags, h.versions, ?_⟩
  intro b m hm
  simp only [touch, Dict.get?_erase] at hm
  split at hm
  · cases hm
  · exact h.aliases b m hm

end Prompt

-- ---------------------------------------------------------------------------
-- Numbers
-- ---------------------------------------------------------------------------

namespace Core

variable {c : Core}

structure Numbered (c : Core) : Prop where
  ascending : c.snapshots.Pairwise fun v w => v.number < w.number
  bounds : ∀ v ∈ c.snapshots, 1 ≤ v.number ∧ v.number ≤ c.lastVersion

theorem numbered_empty : empty.Numbered := ⟨.nil, nofun⟩

theorem Numbered.add (h : c.Numbered) (hnext : v.number.toNat = c.lastVersion.toNat + 1) :
    (c.apply (.add v)).Numbered := by
  have hbounds := h.bounds
  simp only [UInt32.le_iff_toNat_le, UInt32.toNat_one] at hbounds
  refine ⟨List.pairwise_append.2 ⟨h.ascending, List.pairwise_singleton .., ?_⟩, ?_⟩
  · intro s hs t ht
    obtain rfl := List.mem_singleton.1 ht
    have := (hbounds s hs).2
    rw [UInt32.lt_iff_toNat_lt, v.snapshot_number]
    omega
  · intro s hs
    simp only [UInt32.le_iff_toNat_le, UInt32.toNat_one, Core.apply]
    rcases List.mem_append.1 hs with hs | hs
    · have := hbounds s hs
      omega
    · obtain rfl := List.mem_singleton.1 hs
      rw [v.snapshot_number]
      omega

theorem Numbered.drop (h : c.Numbered) : (c.apply (.drop n)).Numbered where
  ascending := h.ascending.sublist List.eraseP_sublist
  bounds v hv := h.bounds v (List.mem_of_mem_eraseP hv)

/-- Every change that a core allows keeps the order of the numbers. -/
theorem Numbered.apply (h : c.Numbered) {change : Change} (hchange : change.Applies name c) :
    (c.apply change).Numbered := by
  cases change with
  | add v => exact h.add hchange.2
  | drop n => exact h.drop
  | clear => exact numbered_empty
  | keep | point a n | unpoint a => exact ⟨h.ascending, h.bounds⟩

end Core

theorem Prompt.numbered_core {p : Prompt} : p.core.Numbered ↔ p.Numbered := by
  have hascending : (p.core.snapshots.Pairwise fun v w => v.number < w.number) ↔
      p.versions.Pairwise fun v w => v.number < w.number := List.pairwise_map
  have hbounds : (∀ v ∈ p.core.snapshots, 1 ≤ v.number ∧ v.number ≤ p.core.lastVersion) ↔
      ∀ v ∈ p.versions, 1 ≤ v.number ∧ v.number ≤ p.lastVersion := List.forall_mem_map
  exact ⟨fun h => ⟨hascending.1 h.ascending, hbounds.1 h.bounds⟩,
    fun h => ⟨hascending.2 h.ascending, hbounds.2 h.bounds⟩⟩

theorem Core.numbered_of {o : Option Prompt} :
    (Core.of o).Numbered ↔ ∀ p, o = some p → p.Numbered := by
  cases o with
  | none => exact ⟨nofun, fun _ => Core.numbered_empty⟩
  | some p => simpa [Core.of] using Prompt.numbered_core

end PromptRegistry
