import Mathlib.Data.List.TakeWhile
import PromptRegistry.Proofs.Prompt.WellFormed
import PromptRegistry.Proofs.Registry.Evaluation

/-!
# Registering in one step

A registration that succeeds comes, up to times, to creating the prompt and then adding the version,
or to setting the tags of the prompt that is there and then adding it; and it fails as these would
(`register_sequence`). What tells them apart is what a failure leaves behind.
-/

namespace PromptRegistry

-- ---------------------------------------------------------------------------
-- Times left out
-- ---------------------------------------------------------------------------

def Version.undated (v : Version) : Version := { v with createdAt := default }

def Prompt.undated (p : Prompt) : Prompt :=
  { p with versions := p.versions.map Version.undated, createdAt := default, updatedAt := default }

def Details.undated (d : Details) : Details := { d with version := d.version.undated }

/-- The same result up to times and, if it is no failure, the same prompts up to times. -/
def Outcome.SameUndated (contents : σ → Contents) (o o' : Outcome σ Details) : Prop :=
  o.result.map Details.undated = o'.result.map Details.undated ∧
    ((∃ d, o.result = .ok d) → ∀ name, ((contents o.state).get? name).map Prompt.undated =
      ((contents o'.state).get? name).map Prompt.undated)

namespace Prompt

def setTagsAt (clock : String → Timestamp) (tags : List (String × String)) (p : Prompt) : Prompt :=
  tags.foldl (fun p tag => p.setTag (clock tag.1) tag.1 tag.2) p

variable {p q : Prompt}

theorem setTagsAt_sameCore (clock : String → Timestamp) (tags : List (String × String))
    (p : Prompt) : p.SameCore (p.setTagsAt clock tags) := by
  induction tags generalizing p with
  | nil => exact .refl p
  | cons tag tags ih => exact setTag_sameCore.trans (ih _)

theorem undated_setTagsAt (clock : String → Timestamp) (tags : List (String × String))
    (p : Prompt) : (p.setTagsAt clock tags).undated = p.undated.setTags default tags := by
  induction tags generalizing p with
  | nil => rfl
  | cons tag tags ih => exact ih (p.setTag (clock tag.1) tag.1 tag.2)

theorem undated_setTags (now : Timestamp) (tags : List (String × String)) (p : Prompt) :
    (p.setTags now tags).undated = p.undated.setTags default tags :=
  undated_setTagsAt (fun _ => now) tags p

theorem undated_append (now : Timestamp) (v : Version) (p : Prompt) :
    (p.append now v).undated = p.undated.append default v.undated := by
  simp only [undated, append, touch, List.map_append]
  rfl

theorem undated_addVersion? (now : Timestamp) (d : NewVersion) (p : Prompt) :
    (p.addVersion? now d).map (fun r => (r.1.undated, r.2.undated)) =
      p.undated.addVersion? default d := by
  rw [addVersion?, Option.map_map]
  refine congrArg (Option.map · p.nextNumber?) (funext fun n => ?_)
  exact congrArg (Prod.mk _) (undated_append now _ p)

theorem description_setTags (now : Timestamp) (tags : List (String × String)) (p : Prompt) :
    (p.setTags now tags).description = p.description := by
  induction tags generalizing p with
  | nil => rfl
  | cons tag tags ih => exact ih (p.setTag now tag.1 tag.2)

theorem setTags_new (now : Timestamp) (name : PromptName) (text : Option String)
    (tags : Dict String) :
    (Prompt.new now name text ∅).setTags now tags.entries = .new now name text tags := by
  have hgo (es : List (String × String)) (d : Dict String) :
      (Prompt.new now name text d).setTags now es =
        .new now name text (es.foldl (fun d e => d.insert e.1 e.2) d) := by
    induction es generalizing d with
    | nil => rfl
    | cons e es ih => exact ih (d.insert e.1 e.2)
  rw [hgo, Dict.foldl_insert_entries]

end Prompt

namespace Registry

open Procedure

def createThenAdd (now later : Timestamp) (r : Registration) : Procedure Details := do
  let _ ← createPrompt now ⟨r.name, r.description, r.promptTags⟩
  createVersion later r.name r.version

def setPromptTags (clock : String → Timestamp) (name : String) :
    List (String × String) → Procedure Unit
  | [] => return ()
  | tag :: tags => do
    let _ ← setPromptTag (clock tag.1) name tag.1 tag.2
    setPromptTags clock name tags

def tagThenAdd (clock : String → Timestamp) (later : Timestamp) (r : Registration) :
    Procedure Details := do
  setPromptTags clock r.name r.promptTags.entries
  createVersion later r.name r.version

/-- The tags up to the first that does not pass the check. -/
def passing (tags : List (String × String)) : List (String × String) :=
  tags.takeWhile fun tag => Rules.checkTag tag.1 tag.2 = .ok ()

def Registration.created (r : Registration) (now : Timestamp) (c : Contents) : Contents :=
  match PromptName.ofString r.name, checkTags r.promptTags with
  | .ok name, .ok () => c.put (.new now name r.description r.promptTags)
  | _, _ => c

variable {c : Contents} {p : Prompt}

theorem eval_setPromptTags (hc : c.Keyed) (hp : c.get? name = some p)
    (clock : String → Timestamp) (tags : List (String × String)) :
    (setPromptTags clock name tags).eval c =
      ((tags.forM fun tag => Rules.checkTag tag.1 tag.2).mapError fun v => .refused (.rule v),
        c.put (p.setTagsAt clock (passing tags))) := by
  have hname := hc name p hp
  induction tags generalizing c p with
  | nil =>
    have hput : c.put p = c := Contents.put_of_get? (by rw [hname, hp])
    exact congrArg (Prod.mk _) hput.symm
  | cons tag tags ih =>
    have hset := eval_setPromptTag hc hp (clock tag.1) tag.1 tag.2
    show (setPromptTag _ name _ _ >>= fun _ => setPromptTags clock name tags).eval c =
      ((Rules.checkTag tag.1 tag.2 >>= fun _ => tags.forM _).mapError _, _)
    cases htag : Rules.checkTag tag.1 tag.2 with
    | error v =>
      have hput : c.put p = c := Contents.put_of_get? (by rw [hname, hp])
      have hpassing : passing (tag :: tags) = [] := by simp [passing, htag]
      rw [htag] at hset
      rw [eval_bind_error hset, hpassing]
      exact congrArg (Prod.mk _) hput.symm
    | ok _ =>
      have hpassing : passing (tag :: tags) = tag :: passing tags := by simp [passing, htag]
      rw [htag] at hset
      have hstored := Contents.get?_put_self (c := c)
        (p := p.setTag (clock tag.1) tag.1 tag.2) hname
      rw [eval_bind_ok hset, ih (hc.put _) hstored hname, hpassing,
        Contents.put_put (Prompt.setTagsAt_sameCore ..).name]
      rfl

theorem passing_of_checkTags {tags : Dict String} (h : checkTags tags = .ok ()) :
    passing tags.entries = tags.entries :=
  List.takeWhile_eq_self_iff.2 (by simpa using forM_ok h)

theorem passing_of_check {r : Registration} (h : r.check = .ok name) :
    passing r.promptTags.entries = r.promptTags.entries := by
  simp only [Registration.check, bind_eq_ok, mapError_eq_ok] at h
  obtain ⟨_, -, _, htags, -⟩ := h
  exact passing_of_checkTags htags

/-- To set the tags and then add the version: what is left of a failure are the tags up to it. -/
theorem eval_tagThenAdd (hc : c.Keyed) {r : Registration} (hp : c.get? r.name = some p)
    (clock : String → Timestamp) (later : Timestamp) :
    (tagThenAdd clock later r).eval c = match r.check with
      | .ok _ =>
        let q := p.setTagsAt clock r.promptTags.entries
        adding later r.version q c (c.put q)
      | .error e =>
        (.error (.refused e), c.put (p.setTagsAt clock (passing r.promptTags.entries))) := by
  have hname := hc _ p hp
  have hcheck : PromptName.ofString r.name = .ok p.name := hname ▸ PromptName.ofString_text _
  have hset := eval_setPromptTags hc hp clock r.promptTags.entries
  rw [tagThenAdd, Registration.check, hcheck]
  cases htags : checkTags r.promptTags with
  | error v =>
    rw [show r.promptTags.entries.forM _ = _ from htags] at hset
    exact eval_bind_error hset _
  | ok _ =>
    have hall := passing_of_checkTags htags
    rw [show r.promptTags.entries.forM _ = _ from htags, hall] at hset
    have hkept : (p.setTagsAt clock r.promptTags.entries).name = p.name :=
      (Prompt.setTagsAt_sameCore ..).name
    rw [eval_bind_ok hset, eval_createVersion (hc.put _)
      (Contents.get?_put_self ((congrArg PromptName.text hkept).trans hname))]
    cases checkVersion r.version with
    | error e => rw [hall]; rfl
    | ok _ => exact adding_put ..

theorem eval_createThenAdd (hc : c.Keyed) {r : Registration} (hfree : c.get? r.name = none)
    (now later : Timestamp) :
    (createThenAdd now later r).eval c = match r.check with
      | .ok name =>
        let q := Prompt.new now name r.description r.promptTags
        adding later r.version q c (c.put q)
      | .error e => (.error (.refused e), r.created now c) := by
  rw [createThenAdd, Registration.check, Registration.created]
  cases hname : PromptName.ofString r.name with
  | error v =>
    have hcreate : (createPrompt now ⟨r.name, r.description, r.promptTags⟩).eval c =
        (.error (.refused (.rule v)), c) := by
      rw [createPrompt, hname]
      rfl
    exact eval_bind_error hcreate _
  | ok name =>
    cases htags : checkTags r.promptTags with
    | error v =>
      have hcreate : (createPrompt now ⟨r.name, r.description, r.promptTags⟩).eval c =
          (.error (.refused (.rule v)), c) := by
        rw [createPrompt, hname, htags]
        rfl
      exact eval_bind_error hcreate _
    | ok _ =>
      have hcreate := eval_createPrompt (d := ⟨r.name, r.description, r.promptTags⟩) hname htags
        hfree now
      have hstored := Contents.get?_put_self (c := c)
        (p := .new now name r.description r.promptTags) (PromptName.ofString_eq_ok hname)
      rw [eval_bind_ok hcreate, eval_createVersion (hc.put _) hstored]
      cases checkVersion r.version with
      | error e => rfl
      | ok _ => exact adding_put ..

-- ---------------------------------------------------------------------------
-- One step and several
-- ---------------------------------------------------------------------------

theorem undated_put {p q : Prompt} (h : p.undated = q.undated) (c : Contents) (name : String) :
    ((c.put p).get? name).map Prompt.undated = ((c.put q).get? name).map Prompt.undated := by
  have hname : p.undated.name = q.undated.name := congrArg Prompt.name h
  change p.name = q.name at hname
  simp only [Contents.put, Dict.get?_insert, hname]
  split
  · exact congrArg some h
  · rfl

section
variable {σ : Type} {st : Storage σ} {contents : σ → Contents} {s : σ} {o o' : Outcome σ Details}

theorem sameUndated_of_failed (ho : (o.result, contents o.state) = (.error e, c))
    (ho' : (o'.result, contents o'.state) = (.error e, c')) : o.SameUndated contents o' := by
  obtain ⟨hresult, -⟩ := Prod.mk.inj ho
  obtain ⟨hresult', -⟩ := Prod.mk.inj ho'
  refine ⟨by rw [hresult, hresult'], ?_⟩
  rintro ⟨d, hd⟩
  cases hresult.symm.trans hd

theorem sameUndated_of_adding {p q : Prompt} (h : p.undated = q.undated)
    (ho : (o.result, contents o.state) = adding now d p c left)
    (ho' : (o'.result, contents o'.state) = adding later d q c left') :
    o.SameUndated contents o' := by
  have hadd := Prompt.undated_addVersion? now d p
  rw [h, ← Prompt.undated_addVersion? later d q] at hadd
  unfold adding at ho ho'
  cases hp : p.addVersion? now d with
  | none =>
    rw [hp] at hadd ho
    rw [Option.map_eq_none_iff.1 hadd.symm] at ho'
    exact sameUndated_of_failed ho ho'
  | some added =>
    obtain ⟨v, p'⟩ := added
    rw [hp] at hadd ho
    obtain ⟨⟨w, q'⟩, hq, hsame⟩ := Option.map_eq_some_iff.1 hadd.symm
    rw [hq] at ho'
    obtain ⟨hversion, hprompt⟩ := Prod.mk.inj hsame
    obtain ⟨hresult, hstate⟩ := Prod.mk.inj ho
    obtain ⟨hresult', hstate'⟩ := Prod.mk.inj ho'
    have hdetails : (p'.details v).undated = (q'.details w).undated := by
      show p'.undated.details v.undated = q'.undated.details w.undated
      rw [hversion, hprompt]
    refine ⟨?_, fun _ name => ?_⟩
    · rw [hresult, hresult']
      exact congrArg Except.ok hdetails
    · rw [hstate, hstate']
      exact undated_put hprompt.symm c name

theorem createThenAdd_indifferent : (createThenAdd now later r).Indifferent :=
  .bind createPrompt_indifferent fun _ => createVersion_indifferent

theorem setPromptTags_indifferent {tags : List (String × String)} :
    (setPromptTags clock name tags).Indifferent := by
  induction tags with
  | nil => exact .pure
  | cons tag tags ih => exact .bind setPromptTag_indifferent fun _ => ih

theorem tagThenAdd_indifferent : (tagThenAdd clock later r).Indifferent :=
  .bind setPromptTags_indifferent fun _ => createVersion_indifferent

theorem sameUndated_createThenAdd (hst : st.Healthy contents) (hc : (contents s).Keyed)
    {r : Registration} (hfree : (contents s).get? r.name = none) (now t t' : Timestamp) :
    let o' := (createThenAdd t t' r).run st s
    ((register now r).run st s).SameUndated contents o' ∧
      ((∃ e, o'.result = .error e) → contents o'.state = r.created t (contents s)) := by
  intro o'
  have ho := (register_indifferent.eval hst hc).symm.trans (eval_register hc now r)
  have ho' :=
    (createThenAdd_indifferent.eval hst hc).symm.trans (eval_createThenAdd hc hfree t t')
  cases hcheck : r.check with
  | error e =>
    rw [hcheck] at ho ho'
    exact ⟨sameUndated_of_failed ho ho', fun _ => congrArg Prod.snd ho'⟩
  | ok name =>
    rw [hcheck] at ho ho'
    refine ⟨sameUndated_of_adding ?_ ho ho', ?_⟩
    · rw [hfree, Registration.base, Prompt.undated_setTags]
      exact Prompt.setTags_new default name r.description r.promptTags
    · -- a prompt that was just created has all numbers left
      rintro ⟨e, he⟩
      have hadd := Prompt.addVersion?_first (p := .new t name r.description r.promptTags) rfl t'
        r.version
      simp only [adding, hadd] at ho'
      cases (congrArg Prod.fst ho').symm.trans he

theorem sameUndated_tagThenAdd (hst : st.Healthy contents) (hc : (contents s).Keyed)
    {r : Registration} {p : Prompt} (hp : (contents s).get? r.name = some p) (now : Timestamp)
    (clock : String → Timestamp) (t' : Timestamp) :
    let o := (register now r).run st s
    let o' := (tagThenAdd clock t' r).run st s
    o.SameUndated contents o' ∧
      ((∃ d, o.result = .ok d) → ∃ q, (contents o.state).get? r.name = some q ∧
        q.description = p.description) ∧
      ((∃ e, o'.result = .error e) → contents o'.state =
        (contents s).put (p.setTagsAt clock (passing r.promptTags.entries))) := by
  intro o o'
  have ho := (register_indifferent.eval hst hc).symm.trans (eval_register hc now r)
  have ho' :=
    (tagThenAdd_indifferent.eval hst hc).symm.trans (eval_tagThenAdd hc hp clock t')
  cases hcheck : r.check with
  | error e =>
    rw [hcheck] at ho ho'
    refine ⟨sameUndated_of_failed ho ho', ?_, fun _ => congrArg Prod.snd ho'⟩
    rintro ⟨d, hd⟩
    cases (congrArg Prod.fst ho).symm.trans hd
  | ok name =>
    rw [hcheck, hp] at ho
    rw [hcheck] at ho'
    refine ⟨sameUndated_of_adding ?_ ho ho', ?_, ?_⟩
    · exact (Prompt.undated_setTags ..).trans (Prompt.undated_setTagsAt ..).symm
    · rintro ⟨d, hd⟩
      obtain ⟨q, hq, hkept⟩ := description_adding ((congrArg Prod.fst ho).symm.trans hd)
      rw [Registration.base, Option.getD_some, (Prompt.setTags_sameCore ..).name, hc _ p hp] at hq
      have hstate := congrArg (fun out => out.2.get? r.name) ho
      exact ⟨q, hstate.trans hq, hkept.trans (Prompt.description_setTags ..)⟩
    · rintro ⟨e, he⟩
      have hall : passing r.promptTags.entries = r.promptTags.entries := passing_of_check hcheck
      have hleft := adding_eq_error ((congrArg Prod.fst ho').symm.trans he)
      rw [hall]
      exact (congrArg Prod.snd ho').trans hleft

theorem contents_register_error (hst : st.Healthy contents) (hc : (contents s).Keyed)
    (now : Timestamp) (r : Registration)
    (he : ((register now r).run st s).result = .error e) :
    contents ((register now r).run st s).state = contents s := by
  have ho := (register_indifferent.eval hst hc).symm.trans (eval_register hc now r)
  cases hcheck : r.check with
  | error _ =>
    rw [hcheck] at ho
    exact congrArg Prod.snd ho
  | ok name =>
    rw [hcheck] at ho
    exact (congrArg Prod.snd ho).trans (adding_eq_error ((congrArg Prod.fst ho).symm.trans he))

/-- A registration comes to what the operations that it stands for come to one after another, be it
the details, up to times, or the first failure. If it succeeds the prompts are the same too, and the
description of a prompt that was there is kept. If it fails nothing is changed, where the others
leave the prompt that was created, or the tags that were set. -/
theorem register_sequence (hst : st.Healthy contents) (hc : (contents s).Keyed) (now : Timestamp)
    (r : Registration) :
    let o := (register now r).run st s
    ((contents s).get? r.name = none → ∀ t t' : Timestamp,
      let o' := (createThenAdd t t' r).run st s
      o.SameUndated contents o' ∧
        ((∃ e, o'.result = .error e) → contents o'.state = r.created t (contents s))) ∧
    (∀ p, (contents s).get? r.name = some p → ∀ (clock : String → Timestamp) (t' : Timestamp),
      let o' := (tagThenAdd clock t' r).run st s
      o.SameUndated contents o' ∧
        ((∃ d, o.result = .ok d) → ∃ q, (contents o.state).get? r.name = some q ∧
          q.description = p.description) ∧
        ((∃ e, o'.result = .error e) → contents o'.state =
          (contents s).put (p.setTagsAt clock (passing r.promptTags.entries)))) ∧
    ((∃ e, o.result = .error e) → contents o.state = contents s) := by
  intro o
  refine ⟨fun hfree t t' => sameUndated_createThenAdd hst hc hfree now t t',
    fun p hp clock t' => sameUndated_tagThenAdd hst hc hp now clock t', ?_⟩
  rintro ⟨e, he⟩
  exact contents_register_error hst hc now r he

theorem register_sequence_refused :
    let p : Prompt := .new default ⟨"greeting", by decide⟩ (some "kept") ∅
    let c := Contents.put ∅ p
    let r : Registration :=
      ⟨"greeting", ⟨.text "Hello", none, ∅, some .null⟩, some "new", .ofList [("team", "core")]⟩
    let o' := (tagThenAdd (fun _ => default) default r).run .memory c
    ((register default r).run .memory c).state = c ∧ o'.result = .error (.refused .responseFormat) ∧
      o'.state = c.put (p.setTag default "team" "core") := by
  intro p c r o'
  have hkeyed : c.Keyed := Contents.keyed_empty.put p
  obtain ⟨-, htagged, hfailed⟩ := register_sequence Storage.memory_healthy hkeyed default r
  have hcheck : r.check = .error .responseFormat := by decide +kernel
  have hpassing : passing r.promptTags.entries = [("team", "core")] := by decide +kernel
  have hregister := eval_register hkeyed default r
  have hsequence := eval_tagThenAdd hkeyed (r := r) (p := p) rfl (fun _ => default) default
  rw [hcheck] at hregister hsequence
  have hresult : o'.result = .error (.refused .responseFormat) := congrArg Prod.fst hsequence
  obtain ⟨-, -, hleft⟩ := htagged p rfl (fun _ => default) default
  rw [hpassing] at hleft
  exact ⟨hfailed ⟨_, congrArg Prod.fst hregister⟩, hresult, hleft ⟨_, hresult⟩⟩

end

end Registry

end PromptRegistry
