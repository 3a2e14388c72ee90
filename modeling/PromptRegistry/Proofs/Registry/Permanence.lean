import PromptRegistry.Proofs.Registry.Numbering
import PromptRegistry.Proofs.Registry.Reading

/-!
# Versions are permanent

From the creation of a prompt to its deletion, the version that an addition answers keeps its number
and its address, and what stands at the address never changes but for its tags. It goes when it is
deleted, and nothing comes in its place (`Course.version?_added`).
-/

namespace PromptRegistry

-- ---------------------------------------------------------------------------
-- One change
-- ---------------------------------------------------------------------------

namespace Core

variable {c : Core}

theorem version?_eq_none : c.version? n = none ↔ ∀ v ∈ c.snapshots, v.number ≠ n := by
  simp [version?]

theorem number_ne_of_mem_eraseP {vs : List Version}
    (h : vs.Pairwise fun v w => v.number < w.number) :
    ∀ v ∈ vs.eraseP (·.number = n), v.number ≠ n := by
  induction vs with
  | nil => nofun
  | cons w vs ih =>
    obtain ⟨hhead, htail⟩ := List.pairwise_cons.1 h
    intro v hv
    rw [List.eraseP_cons] at hv
    by_cases hw : w.number = n
    · simp only [hw, decide_true, cond_true] at hv
      exact hw ▸ (UInt32.ne_of_lt (hhead v hv)).symm
    · simp only [hw, decide_false, cond_false, List.mem_cons] at hv
      rcases hv with rfl | hv
      · exact hw
      · exact ih htail v hv

/-- Numbers ascend, so that no second version has the number of one that is dropped. -/
theorem Numbered.version?_drop (h : c.Numbered) : (c.apply (.drop n)).version? n = none :=
  version?_eq_none.2 (number_ne_of_mem_eraseP h.ascending)

theorem Numbered.version?_next (h : c.Numbered) (hnext : n.toNat = c.lastVersion.toNat + 1) :
    c.version? n = none := by
  rw [version?_eq_none]
  intro w hw hn
  have hle := (h.bounds w hw).2
  rw [hn, UInt32.le_iff_toNat_le, hnext] at hle
  omega

theorem Numbered.version?_add (h : c.Numbered)
    (hnext : v.number.toNat = c.lastVersion.toNat + 1) :
    (c.apply (.add v)).version? v.number = some v.snapshot := by
  have hnone := h.version?_next hnext
  rw [version?] at hnone ⊢
  simp [Core.apply, List.find?_append, hnone]

theorem version?_apply {change : Change} (hclear : change ≠ .clear) (hdrop : change ≠ .drop n)
    (hadd : ∀ v, change = .add v → v.number ≠ n) : (c.apply change).version? n = c.version? n := by
  cases change with
  | keep | point a m | unpoint a => rfl
  | add v => simp [version?, apply, List.find?_append, hadd v rfl]
  | drop m => exact Prompt.find?_eraseP_ne fun h => hdrop (h ▸ rfl)
  | clear => exact absurd rfl hclear

end Core

namespace Registry

-- ---------------------------------------------------------------------------
-- Histories
-- ---------------------------------------------------------------------------

/-- A version that was added stands, without its tags as it was answered, until it is dropped. -/
theorem Course.version?_added (h : Course name .empty (earlier ++ x :: later) c)
    (hkept : ∀ y ∈ earlier ++ x :: later, y.change name ≠ .clear)
    (hv : x.added? name = some v) :
    (∃ y ∈ later, y.change name = .drop v.number) ∧ c.version? v.number = none ∨
      (∀ y ∈ later, y.change name ≠ .drop v.number) ∧ c.version? v.number = some v.snapshot := by
  have hx := Exchange.added?_eq_some.1 hv
  induction later using List.reverseRecOn generalizing c with
  | nil =>
    obtain ⟨c₁, hearlier, happlies, rfl⟩ := h.last
    rw [hx] at happlies ⊢
    exact .inr ⟨by simp, hearlier.numbered.version?_add happlies.2⟩
  | append_singleton later y ih =>
    have hnumber := h.number_eq (fun z hz => hkept z (List.mem_append_left _ hz)) hv
    rw [← List.cons_append, ← List.append_assoc] at h hkept
    simp only [List.forall_mem_append, List.forall_mem_singleton] at hkept
    obtain ⟨c', hinit, happlies, rfl⟩ := h.last
    -- an addition takes a number beyond those that were given out
    have hadd (w : Version) (hw : y.change name = .add w) : w.number ≠ v.number := by
      have hlater := h.number_eq (List.forall_mem_append.2 hkept.1) (Exchange.added?_eq_some.2 hw)
      rw [length_additions_split hv] at hlater
      intro heq
      rw [heq] at hlater
      omega
    by_cases hdrop : y.change name = .drop v.number
    · rw [hdrop]
      exact .inl ⟨⟨y, by simp, hdrop⟩, hinit.numbered.version?_drop⟩
    · rw [Core.version?_apply hkept.2 hdrop hadd]
      rcases ih hinit (List.forall_mem_append.2 hkept.1) with
        ⟨⟨z, hz, hdropped⟩, hnone⟩ | ⟨hstands, hsome⟩
      · exact .inl ⟨⟨z, List.mem_append_left _ hz, hdropped⟩, hnone⟩
      · refine .inr ⟨?_, hsome⟩
        simp only [List.forall_mem_append, List.forall_mem_singleton]
        exact ⟨hstands, hdrop⟩

-- ---------------------------------------------------------------------------
-- Addresses
-- ---------------------------------------------------------------------------

/-- Nothing is found at the address of a version. -/
def Gone (v : Version) (c : Contents) : Prop :=
  found (load v.uri.render) c = .error (.missing (.target v.uri))

/-- What is found at the address of a version is that version, up to its tags. -/
def Stands (v : Version) (c : Contents) : Prop :=
  ∃ d, found (load v.uri.render) c = .ok d ∧ d.version.snapshot = v.snapshot

section
variable {name : PromptName} {v : Version} {c : Contents}

theorem found_load_version (hname : v.name = name.text) (hne : v.number ≠ 0) :
    found (load v.uri.render) c = match (c.get? name.text).bind fun p =>
        (p.version? v.number).map p.details with
      | some d => .ok d
      | none => .error (.missing (.target v.uri)) := by
  rw [Version.uri, hname]
  exact found_load name (.version v.number) c (Uri.parse_version name hne)

theorem gone_iff (hname : v.name = name.text) (hne : v.number ≠ 0) :
    Gone v c ↔ (Core.of (c.get? name.text)).version? v.number = none := by
  rw [Gone, found_load_version hname hne, Core.of_version?]
  cases c.get? name.text with
  | none => simp
  | some p => cases h : p.version? v.number <;> simp [h]

theorem stands_of_version? (hname : v.name = name.text) (hne : v.number ≠ 0)
    (h : (Core.of (c.get? name.text)).version? v.number = some v.snapshot) : Stands v c := by
  rw [Core.of_version?] at h
  obtain ⟨w, hw, hsnapshot⟩ := Option.map_eq_some_iff.1 h
  obtain ⟨p, hp, hw⟩ := Option.bind_eq_some_iff.1 hw
  refine ⟨p.details w, ?_, hsnapshot⟩
  rw [found_load_version hname hne, hp, Option.bind_some, hw]
  rfl

theorem Course.gone_or_stands
    (h : Course name.text .empty (earlier ++ x :: later) (.of (c.get? name.text)))
    (hkept : ∀ y ∈ earlier ++ x :: later, y.change name.text ≠ .clear)
    (hv : x.added? name.text = some v) :
    (∃ y ∈ later, y.change name.text = .drop v.number) ∧ Gone v c ∨
      (∀ y ∈ later, y.change name.text ≠ .drop v.number) ∧ ¬Gone v c ∧ Stands v c := by
  have hname := h.name_eq hv
  have hne := h.number_ne_zero hv
  rcases h.version?_added hkept hv with ⟨hdropped, hnone⟩ | ⟨hstands, hsome⟩
  · exact .inl ⟨hdropped, (gone_iff hname hne).2 hnone⟩
  · refine .inr ⟨hstands, ?_, stands_of_version? hname hne hsome⟩
    rw [gone_iff hname hne, hsome]
    nofun

end

section
variable {σ : Type} {st : Storage σ} {contents : σ → Contents} {s s₀ s₁ : σ}

/-- Between its creation and its deletion, a prompt numbers the versions that are added from one
on. The address of a version is made of its name and number, and finds the version as it was added,
up to its tags, until it is deleted and nothing from then on. -/
theorem version_permanent (hst : st.Atomic contents) (h₀ : contents s₀ = ∅)
    (hbefore : Run sizes st s₀ before s₁) (name : PromptName)
    (hfree : (contents s₁).get? name.text = none)
    (h : Run sizes st s₁ (earlier ++ x :: later) s)
    (hkept : ∀ y ∈ earlier ++ x :: later, ¬y.Succeeds (.deletePrompt name.text))
    (hv : x.added? name.text = some v) :
    v.number.toNat = (additions name.text earlier).length + 1 ∧
      v.uri.render = "prompts:/" ++ name.text ++ "/" ++
        Text.Decimal.render ((additions name.text earlier).length + 1) ∧
      (Gone v (contents s) ↔ ∃ y ∈ later, y.Succeeds (.deleteVersion name.text v.number)) ∧
      (¬Gone v (contents s) → Stands v (contents s)) ∧
      ∀ soon late s', later = soon ++ late → Run sizes st s₁ (earlier ++ x :: soon) s' →
        Gone v (contents s') → Gone v (contents s) := by
  have hcourse {ys : List Exchange} {s' : σ} (h' : Run sizes st s₁ ys s') :
      Course name.text .empty ys (.of ((contents s').get? name.text)) := by
    have hkeyed := hbefore.keyed hst (h₀ ▸ Contents.keyed_empty)
    have hcourse := h'.course hst hkeyed name.text
    rwa [hfree] at hcourse
  simp only [Exchange.succeeds_deletePrompt] at hkept
  simp only [Exchange.succeeds_deleteVersion]
  have hnumber := (hcourse h).number_eq (fun y hy => hkept y (List.mem_append_left _ hy)) hv
  have hnow := (hcourse h).gone_or_stands hkept hv
  refine ⟨hnumber, ?_, ?_, ?_, ?_⟩
  · rw [← hnumber, Version.uri, (hcourse h).name_eq hv]
    rfl
  · rcases hnow with ⟨hdropped, hgone⟩ | ⟨hstands, hgone, -⟩
    · exact ⟨fun _ => hdropped, fun _ => hgone⟩
    · exact ⟨fun h => absurd h hgone, fun ⟨y, hy, hdrop⟩ => absurd hdrop (hstands y hy)⟩
  · intro hgone
    rcases hnow with ⟨-, h⟩ | ⟨-, -, h⟩
    · exact absurd h hgone
    · exact h
  · rintro soon late s' rfl hsoon hgone
    have hlist : earlier ++ x :: (soon ++ late) = (earlier ++ x :: soon) ++ late := by simp
    rw [hlist] at hkept
    have hthen := (hcourse hsoon).gone_or_stands (List.forall_mem_append.1 hkept).1 hv
    rcases hthen with ⟨⟨y, hy, hdrop⟩, -⟩ | ⟨-, hstands, -⟩
    · rcases hnow with ⟨-, h⟩ | ⟨h, -⟩
      · exact h
      · exact absurd hdrop (h y (List.mem_append_left _ hy))
    · exact absurd hgone hstands

theorem version_permanent_greeting :
    ∃ xs s v, Run ⟨20, 100⟩ .memory (∅ : Contents) xs s ∧ v ∈ additions "greeting" xs ∧
      v.number.toNat = 1 ∧ v.uri.render = "prompts:/greeting/" ++ Text.Decimal.render 1 ∧
      Gone v s := by
  have hstart : Run ⟨20, 100⟩ .memory (∅ : Contents) [] ∅ := .start
  have h : Run ⟨20, 100⟩ .memory (∅ : Contents) ([] ++ _ :: [_]) _ := (hstart.next default
    (.register ⟨"greeting", ⟨.text "Hello", none, ∅, none⟩, none, ∅⟩)).next default
    (.deleteVersion "greeting" 1)
  obtain ⟨hnumber, haddress, hgone, -⟩ := version_permanent Storage.memory_atomic rfl hstart
    ⟨"greeting", by decide⟩ rfl h
    (by
      rintro y hy ⟨hop, -⟩
      simp only [List.nil_append, List.mem_cons, List.not_mem_nil, or_false] at hy
      rcases hy with rfl | rfl
      · cases hop
      · cases hop)
    rfl
  exact ⟨_, _, _, h, .head _, hnumber, haddress, hgone.2 ⟨_, .head _, rfl, (), rfl⟩⟩

end

end Registry

end PromptRegistry
