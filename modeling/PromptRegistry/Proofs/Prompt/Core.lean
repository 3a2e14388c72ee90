import PromptRegistry.Prompt
import PromptRegistry.Proofs.Dict

/-!
# The core of a prompt

The core of a prompt is what its history decides: its versions up to their tags, its aliases and the
highest number given out. Of the changes of a prompt six kinds are told apart by what they do to the
core (`Change`). Each operation on prompts is read here as one of them, so that no later proof opens
it.
-/

namespace PromptRegistry

/-- A version without its tags: what of it never changes. -/
def Version.snapshot (v : Version) : Version := { v with tags := ∅ }

@[simp] theorem Version.snapshot_number (v : Version) : v.snapshot.number = v.number := rfl

structure Core where
  snapshots : List Version
  aliases : Dict UInt32
  lastVersion : UInt32

inductive Change where
  | keep
  | add (v : Version)
  | drop (number : UInt32)
  | point (aliasName : String) (number : UInt32)
  | unpoint (aliasName : String)
  | clear

namespace Core

def empty : Core := ⟨[], ∅, 0⟩

def version? (c : Core) (number : UInt32) : Option Version :=
  c.snapshots.find? (·.number = number)

def apply (c : Core) : Change → Core
  | .keep => c
  | .add v => { c with snapshots := c.snapshots ++ [v.snapshot], lastVersion := v.number }
  | .drop n =>
    { c with
      snapshots := c.snapshots.eraseP (·.number = n)
      aliases := c.aliases.filter fun _ m => m ≠ n }
  | .point a n => { c with aliases := c.aliases.insert a n }
  | .unpoint a => { c with aliases := c.aliases.erase a }
  | .clear => empty

end Core

/-- A version that is added to the prompt under a name takes the number after the highest. -/
def Change.Applies (name : String) (c : Core) : Change → Prop
  | .add v => v.name = name ∧ v.number.toNat = c.lastVersion.toNat + 1
  | _ => True

namespace Prompt

variable {p q : Prompt} {now : Timestamp}

def core (p : Prompt) : Core := ⟨p.versions.map Version.snapshot, p.aliases, p.lastVersion⟩

theorem core_version? (p : Prompt) (n : UInt32) :
    p.core.version? n = (p.version? n).map Version.snapshot := by
  rw [Core.version?, core, List.find?_map]
  rfl

theorem mem_versions_of_version? (h : p.version? n = some v) : v ∈ p.versions ∧ v.number = n :=
  ⟨List.mem_of_find?_eq_some h, by simpa using List.find?_some h⟩

structure SameCore (p q : Prompt) : Prop where
  name : q.name = p.name
  core : q.core = p.core

theorem SameCore.refl (p : Prompt) : p.SameCore p := ⟨rfl, rfl⟩

theorem SameCore.trans {r : Prompt} (h : p.SameCore q) (h' : q.SameCore r) : p.SameCore r :=
  ⟨h'.name.trans h.name, h'.core.trans h.core⟩

theorem SameCore.aliases (h : p.SameCore q) : q.aliases = p.aliases :=
  congrArg Core.aliases h.core

theorem SameCore.isSome_version? (h : p.SameCore q) (n : UInt32) :
    (q.version? n).isSome = (p.version? n).isSome := by
  rw [← Option.isSome_map (f := Version.snapshot), ← core_version?, h.core, core_version?,
    Option.isSome_map]

-- ---------------------------------------------------------------------------
-- Descriptions and tags
-- ---------------------------------------------------------------------------

theorem setDescription_sameCore : p.SameCore (p.setDescription now text) :=
  ⟨rfl, rfl⟩

theorem setTag_sameCore : p.SameCore (p.setTag now key value) := ⟨rfl, rfl⟩

theorem deleteTag?_eq_some (h : p.deleteTag? now key = some q) :
    p.SameCore q ∧ q.versions = p.versions ∧ q.tags = p.tags.erase key := by
  unfold deleteTag? at h
  split at h
  · cases h
    exact ⟨⟨rfl, rfl⟩, rfl, rfl⟩
  · cases h

def setTags (now : Timestamp) (tags : List (String × String)) (p : Prompt) : Prompt :=
  tags.foldl (fun p tag => p.setTag now tag.1 tag.2) p

theorem setTags_sameCore (now : Timestamp) (tags : List (String × String)) (p : Prompt) :
    p.SameCore (p.setTags now tags) := by
  induction tags generalizing p with
  | nil => exact .refl p
  | cons tag tags ih => exact setTag_sameCore.trans (ih (p.setTag now tag.1 tag.2))

theorem versions_setTags (tags : List (String × String)) (p : Prompt) :
    (p.setTags now tags).versions = p.versions := by
  induction tags generalizing p with
  | nil => rfl
  | cons tag tags ih => exact ih (p.setTag now tag.1 tag.2)

theorem tags_setTags {tags : List (String × String)}
    (h : (p.setTags now tags).tags.get? key = some value) :
    p.tags.get? key = some value ∨ (key, value) ∈ tags := by
  induction tags generalizing p with
  | nil => exact .inl h
  | cons tag tags ih =>
    rcases ih h with h | h
    · simp only [setTag, touch, Dict.get?_insert] at h
      split at h
      · next hk => cases h; exact .inr (hk ▸ List.mem_cons_self ..)
      · exact .inl h
    · exact .inr (List.mem_cons_of_mem _ h)

@[simp] theorem map_snapshot_mapTags (n : UInt32) (change : Dict String → Dict String)
    (vs : List Version) :
    (mapTags n change vs).map Version.snapshot = vs.map Version.snapshot := by
  induction vs with
  | nil => rfl
  | cons v vs ih =>
    unfold mapTags
    split
    · rfl
    · simp [ih]

theorem mem_mapTags {vs : List Version} (h : v ∈ mapTags n change vs) :
    v ∈ vs ∨ ∃ w ∈ vs, v = { w with tags := change w.tags } := by
  induction vs with
  | nil => cases h
  | cons w vs ih =>
    unfold mapTags at h
    split at h
    · rcases List.mem_cons.1 h with rfl | h
      · exact .inr ⟨w, List.mem_cons_self .., rfl⟩
      · exact .inl (List.mem_cons_of_mem _ h)
    · rcases List.mem_cons.1 h with rfl | h
      · exact .inl (List.mem_cons_self ..)
      · rcases ih h with h | ⟨w', hw', rfl⟩
        · exact .inl (List.mem_cons_of_mem _ h)
        · exact .inr ⟨w', List.mem_cons_of_mem _ hw', rfl⟩

theorem setVersionTag?_eq_some (h : p.setVersionTag? now n key value = some q) :
    p.SameCore q ∧ q.versions = mapTags n (·.insert key value) p.versions ∧ q.tags = p.tags := by
  unfold setVersionTag? at h
  split at h
  · cases h
    exact ⟨⟨rfl, by simp [core, touch]⟩, rfl, rfl⟩
  · cases h

theorem deleteVersionTag?_eq_some (h : p.deleteVersionTag? now n key = some (changed, q)) :
    p.SameCore q ∧ (q.versions = p.versions ∨ q.versions = mapTags n (·.erase key) p.versions) ∧
      q.tags = p.tags := by
  unfold deleteVersionTag? at h
  split at h
  · cases h
  · split at h
    · cases h
      exact ⟨⟨rfl, by simp [core, touch]⟩, .inr rfl, rfl⟩
    · cases h
      exact ⟨.refl p, .inl rfl, rfl⟩

theorem isSome_setVersionTag? (h : p.setVersionTag? now n key value = some q) :
    (q.version? n).isSome := by
  rw [(setVersionTag?_eq_some h).1.isSome_version?]
  unfold setVersionTag? at h
  split at h
  · assumption
  · cases h

theorem isSome_deleteVersionTag? (h : p.deleteVersionTag? now n key = some (changed, q)) :
    (q.version? n).isSome := by
  rw [(deleteVersionTag?_eq_some h).1.isSome_version?]
  unfold deleteVersionTag? at h
  split at h
  · cases h
  · next hv => simp [hv]

-- ---------------------------------------------------------------------------
-- Versions and aliases
-- ---------------------------------------------------------------------------

theorem nextNumber?_eq_some : p.nextNumber? = some n ↔ n.toNat = p.lastVersion.toNat + 1 := by
  unfold nextNumber?
  split
  · next hroom =>
    have hnext : (p.lastVersion + 1).toNat = p.lastVersion.toNat + 1 := by
      rw [UInt32.toNat_add, UInt32.toNat_one]
      exact Nat.mod_eq_of_lt hroom
    rw [Option.some.injEq, ← UInt32.toNat_inj, hnext, eq_comm]
  · next hfull =>
    refine iff_of_false nofun fun hn => hfull ?_
    exact hn ▸ n.toNat_lt

/-- The version that is added has the next number and is the one that is given to append. -/
theorem addVersion?_eq_some : p.addVersion? now d = some (v, q) ↔
    v.number.toNat = p.lastVersion.toNat + 1 ∧ v = p.newVersion now v.number d ∧
      q = p.append now v := by
  simp only [addVersion?, Option.map_eq_some_iff, nextNumber?_eq_some, Prod.mk.injEq]
  constructor
  · rintro ⟨n, hn, rfl, rfl⟩
    exact ⟨hn, rfl, rfl⟩
  · rintro ⟨hn, hv, rfl⟩
    exact ⟨v.number, hn, hv.symm, by rw [← hv]⟩

theorem core_append (p : Prompt) (v : Version) : (p.append now v).core = p.core.apply (.add v) := by
  simp [core, Core.apply, append, touch]

theorem addVersion?_first (h : p.lastVersion = 0) (now : Timestamp) (d : NewVersion) :
    p.addVersion? now d = some (p.newVersion now 1 d, p.append now (p.newVersion now 1 d)) :=
  addVersion?_eq_some.2 ⟨by rw [h]; rfl, rfl, rfl⟩

theorem addVersion?_core (h : p.addVersion? now d = some (v, q)) :
    q.name = p.name ∧ (Change.add v).Applies p.name.text p.core ∧
      q.core = p.core.apply (.add v) := by
  obtain ⟨hnumber, hv, rfl⟩ := addVersion?_eq_some.1 h
  refine ⟨rfl, ⟨?_, hnumber⟩, core_append p v⟩
  rw [hv]
  rfl

theorem version?_append (h : p.version? n = some w) : (p.append now v).version? n = some w := by
  unfold version? at h ⊢
  simp only [append, touch, List.find?_append, h]
  rfl

theorem find?_eraseP_ne {vs : List Version} {n m : UInt32} (h : m ≠ n) :
    (vs.eraseP (·.number = n)).find? (·.number = m) = vs.find? (·.number = m) := by
  induction vs with
  | nil => rfl
  | cons v vs ih =>
    rw [List.eraseP_cons, List.find?_cons]
    by_cases hn : v.number = n
    · have hm : v.number ≠ m := fun hm => h (hm.symm.trans hn)
      simp [hn, hn ▸ hm]
    · simp only [hn, decide_false, cond_false, List.find?_cons, ih]

theorem deleteVersion?_eq_some (h : p.deleteVersion? now n = some q) :
    q.name = p.name ∧ q.versions = p.versions.eraseP (·.number = n) ∧
      q.aliases = p.aliases.filter (fun _ m => m ≠ n) ∧ q.lastVersion = p.lastVersion ∧
      q.tags = p.tags := by
  unfold deleteVersion? at h
  split at h
  · cases h
    exact ⟨rfl, rfl, rfl, rfl, rfl⟩
  · cases h

theorem core_deleteVersion? (h : p.deleteVersion? now n = some q) :
    q.core = p.core.apply (.drop n) := by
  obtain ⟨-, hversions, haliases, hlast, -⟩ := deleteVersion?_eq_some h
  simp only [core, hversions, haliases, hlast, Core.apply, List.eraseP_map]
  rfl

theorem setAlias?_eq_some (h : p.setAlias? now a n = some q) :
    (p.version? n).isSome ∧ q = touch now { p with aliases := p.aliases.insert a n } := by
  unfold setAlias? at h
  split at h
  · next hn => exact ⟨hn, (Option.some.inj h).symm⟩
  · cases h

theorem deleteAlias?_eq_some (h : p.deleteAlias? now a = some q) :
    q = touch now { p with aliases := p.aliases.erase a } := by
  unfold deleteAlias? at h
  split at h
  · exact (Option.some.inj h).symm
  · cases h

theorem core_setAlias? (h : p.setAlias? now a n = some q) : q.core = p.core.apply (.point a n) := by
  obtain ⟨-, rfl⟩ := setAlias?_eq_some h
  rfl

theorem core_deleteAlias? (h : p.deleteAlias? now a = some q) :
    q.core = p.core.apply (.unpoint a) := by
  obtain rfl := deleteAlias?_eq_some h
  rfl

-- ---------------------------------------------------------------------------
-- Changes that need something to change
-- ---------------------------------------------------------------------------

theorem addVersion?_isSome (p : Prompt) (now : Timestamp) (d : NewVersion) :
    (p.addVersion? now d).isSome ↔ p.lastVersion.toNat + 1 < UInt32.size := by
  rw [addVersion?, Option.isSome_map]
  exact Option.isSome_ite

theorem deleteVersion?_isSome (p : Prompt) (n : UInt32) :
    (p.deleteVersion? now n).isSome = (p.version? n).isSome :=
  Bool.eq_iff_iff.2 Option.isSome_ite

theorem setVersionTag?_isSome (p : Prompt) (n : UInt32) :
    (p.setVersionTag? now n key value).isSome = (p.version? n).isSome :=
  Bool.eq_iff_iff.2 Option.isSome_ite

theorem deleteVersionTag?_isSome (p : Prompt) (n : UInt32) :
    (p.deleteVersionTag? now n key).isSome = (p.version? n).isSome := by
  unfold deleteVersionTag?
  split
  · next hv => simp [hv]
  · next hv => split <;> simp [hv]

theorem setAlias?_isSome (p : Prompt) (n : UInt32) :
    (p.setAlias? now a n).isSome = (p.version? n).isSome :=
  Bool.eq_iff_iff.2 Option.isSome_ite

theorem deleteAlias?_isSome (p : Prompt) (a : String) :
    (p.deleteAlias? now a).isSome = p.aliases.contains a :=
  Bool.eq_iff_iff.2 Option.isSome_ite

end Prompt

def Core.of : Option Prompt → Core
  | some p => p.core
  | none => .empty

theorem Core.of_version? (o : Option Prompt) (n : UInt32) :
    (Core.of o).version? n = (o.bind (·.version? n)).map Version.snapshot := by
  cases o with
  | none => rfl
  | some p => exact p.core_version? n

end PromptRegistry
