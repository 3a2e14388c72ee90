import PromptRegistry.Proofs.Registry.Indifferent

/-!
# Evaluating operations

What procedures come to when no call fails: the result and the contents that are left, also where
the result is a failure. Over a healthy storage a run comes to just that (`Indifferent.eval`).
-/

namespace PromptRegistry

theorem Contents.put_of_get? {c : Contents} {p : Prompt} (h : c.get? p.name.text = some p) :
    c.put p = c := by
  refine Dict.ext_get? fun key => ?_
  rw [Contents.put, Dict.get?_insert]
  split
  · next hkey => rw [hkey, h]
  · rfl

theorem Contents.put_put {c : Contents} {p q : Prompt} (h : q.name = p.name) :
    (c.put p).put q = c.put q := by
  refine Dict.ext_get? fun key => ?_
  simp only [Contents.put, Dict.get?_insert, h]
  split <;> rfl

theorem Contents.get?_put_self {c : Contents} {p : Prompt} (h : p.name.text = name) :
    (c.put p).get? name = some p := by
  rw [Contents.put, Dict.get?_insert, if_pos h.symm]

namespace Procedure

def eval (p : Procedure α) (c : Contents) : Except Failure α × Contents :=
  ((p.run .memory c).result, (p.run .memory c).state)

theorem Indifferent.eval {st : Storage σ} {contents : σ → Contents} (hst : st.Healthy contents)
    {p : Procedure α} (hp : p.Indifferent) {s : σ} (hc : (contents s).Keyed) :
    p.eval (contents s) = ((p.run st s).result, contents (p.run st s).state) := by
  rw [Procedure.eval, ← hp.run hst hc]
  rfl

-- ---------------------------------------------------------------------------
-- Steps
-- ---------------------------------------------------------------------------

theorem eval_bind (p : Procedure α) (f : α → Procedure β) (c : Contents) :
    (p >>= f).eval c = match p.eval c with
      | (.ok a, c') => (f a).eval c'
      | (.error e, c') => (.error e, c') := by
  show (Procedure.bind f p).eval c = _
  induction p generalizing c with
  | done r => cases r <;> rfl
  | log e next ih => exact ih c
  | call request next ih => exact ih _ _

theorem eval_bind_ok {p : Procedure α} (h : p.eval c = (.ok a, c')) (f : α → Procedure β) :
    (p >>= f).eval c = (f a).eval c' := by rw [eval_bind, h]

theorem eval_bind_error {p : Procedure α} (h : p.eval c = (.error e, c')) (f : α → Procedure β) :
    (p >>= f).eval c = (.error e, c') := by rw [eval_bind, h]

theorem eval_get (name : PromptName) (c : Contents) :
    (get name).eval c = (.ok (c.get? name.text), c) := rfl

theorem eval_contains (name : PromptName) (c : Contents) :
    (contains name).eval c = (.ok (c.holds name), c) := rfl

theorem eval_create {c : Contents} (h : c.get? p.name.text = none) :
    (create p).eval c = (.ok p, c.put p) := by
  have hfree : ¬c.holds p.name = true := by
    rw [Contents.holds, Dict.contains_eq_false.2 h]
    exact Bool.false_ne_true
  have hcall : Storage.memory.answer (.create p) c = (.ok p, c.put p) := if_neg hfree
  exact congrArg (fun o => (o.1, o.2)) hcall

theorem eval_update {c : Contents} (h : c.get? p.name.text = some q) :
    (update p).eval c = (.ok p, c.put p) := by
  have hcall : Storage.memory.answer (.update p) c = (.ok p, c.put p) :=
    if_pos (Dict.contains_eq_true.2 ⟨q, h⟩)
  exact congrArg (fun o => (o.1, o.2)) hcall

end Procedure

namespace Registry

open Procedure

variable {c : Contents} {p : Prompt}

theorem eval_fetch (hc : c.Keyed) (hp : c.get? name = some p) :
    (fetch name).eval c = (.ok p, c) := by
  obtain rfl := hc name p hp
  rw [fetch, PromptName.ofString_text]
  show (Procedure.get p.name >>= _).eval c = _
  rw [eval_bind_ok (eval_get ..), hp]
  rfl

theorem eval_mutate (hc : c.Keyed) (hp : c.get? name = some p) {change : Prompt → Prompt}
    (hchange : (change p).name = p.name) :
    (mutate name fun p => return change p).eval c = (.ok (change p), c.put (change p)) := by
  have hname := hc name p hp
  rw [mutate, eval_bind_ok (eval_fetch hc hp)]
  show (Procedure.update (change p)).eval c = _
  exact eval_update (by rw [hchange, hname, hp])

theorem eval_setPromptTag (hc : c.Keyed) (hp : c.get? name = some p) (now : Timestamp)
    (key value : String) :
    (setPromptTag now name key value).eval c = match Rules.checkTag key value with
      | .ok () => (.ok (p.setTag now key value), c.put (p.setTag now key value))
      | .error v => (.error (.refused (.rule v)), c) := by
  rw [setPromptTag]
  cases Rules.checkTag key value with
  | error v => rfl
  | ok _ =>
    show (mutate name _ >>= _).eval c = _
    rw [eval_bind_ok (eval_mutate hc hp rfl)]
    rfl

/-- What it comes to when a version is added to a prompt and the prompt put into contents. If all
numbers are given out, that is a failure with the contents that are left by then. -/
def adding (now : Timestamp) (d : NewVersion) (p : Prompt) (c left : Contents) :
    Except Failure Details × Contents :=
  match p.addVersion? now d with
  | some (v, q) => (.ok (q.details v), c.put q)
  | none => (.error .exhausted, left)

theorem description_adding (h : (adding now d p c left).1 = .ok a) :
    ∃ q, (adding now d p c left).2.get? p.name.text = some q ∧
      q.description = p.description := by
  unfold adding at h ⊢
  split at h
  · next v q hq =>
    refine ⟨q, Contents.get?_put_self (congrArg PromptName.text (Prompt.addVersion?_core hq).1), ?_⟩
    rw [(Prompt.addVersion?_eq_some.1 hq).2.2]
    rfl
  · cases h

theorem adding_eq_error (h : (adding now d p c left).1 = .error e) :
    (adding now d p c left).2 = left := by
  unfold adding at h ⊢
  split at h
  · cases h
  · rfl

theorem adding_put (now : Timestamp) (d : NewVersion) (p : Prompt) (c left : Contents) :
    adding now d p (c.put p) left = adding now d p c left := by
  unfold adding
  split
  · next v q hq => rw [Contents.put_put (Prompt.addVersion?_core hq).1]
  · rfl

theorem eval_createVersion (hc : c.Keyed) (hp : c.get? name = some p) (now : Timestamp)
    (d : NewVersion) :
    (createVersion now name d).eval c = match checkVersion d with
      | .ok () => adding now d p c c
      | .error e => (.error (.refused e), c) := by
  rw [createVersion]
  cases checkVersion d with
  | error e => rfl
  | ok _ =>
    show (fetch name >>= _).eval c = _
    rw [eval_bind_ok (eval_fetch hc hp), adding]
    cases hq : p.addVersion? now d with
    | none => rfl
    | some r =>
      have hname := (Prompt.addVersion?_core hq).1
      have hupdate : c.get? r.2.name.text = some p := by rw [hname, hc name p hp, hp]
      exact eval_bind_ok (eval_update hupdate) _

theorem eval_createPrompt {d : PromptDraft} {name : PromptName}
    (hname : PromptName.ofString d.name = .ok name) (htags : checkTags d.tags = .ok ())
    (hfree : c.get? d.name = none) (now : Timestamp) :
    (createPrompt now d).eval c =
      (.ok (.new now name d.description d.tags), c.put (.new now name d.description d.tags)) := by
  obtain htext := PromptName.ofString_eq_ok hname
  rw [← htext] at hfree
  rw [createPrompt, hname, htags]
  show (Procedure.contains name >>= _).eval c = _
  rw [eval_bind_ok (eval_contains ..), Contents.holds, Dict.contains_eq_false.2 hfree]
  show (Procedure.create _ >>= _).eval c = _
  rw [eval_bind_ok (eval_create hfree)]
  rfl

/-- The checks of a registration, which come before any call. -/
def Registration.check (r : Registration) : Except Refusal PromptName := do
  let name ← (PromptName.ofString r.name).mapError .rule
  (checkTags r.promptTags).mapError .rule
  checkVersion r.version
  return name

def Registration.base (r : Registration) (now : Timestamp) (name : PromptName)
    (found : Option Prompt) : Prompt :=
  (found.getD (.new now name r.description ∅)).setTags now r.promptTags.entries

theorem Registration.base_name {r : Registration} {name : PromptName} {found : Option Prompt}
    (h : ∀ p, found = some p → p.name.text = name.text) : (r.base now name found).name = name := by
  rw [base, (Prompt.setTags_sameCore ..).name]
  cases found with
  | none => rfl
  | some p => exact PromptName.ext (h p rfl)

theorem eval_register (hc : c.Keyed) (now : Timestamp) (r : Registration) :
    (register now r).eval c = match r.check with
      | .ok name => adding now r.version (r.base now name (c.get? r.name)) c c
      | .error e => (.error (.refused e), c) := by
  rw [register, Registration.check]
  cases hname : PromptName.ofString r.name with
  | error v => rfl
  | ok name =>
    cases checkTags r.promptTags with
    | error v => rfl
    | ok _ =>
      cases checkVersion r.version with
      | error e => rfl
      | ok _ =>
        obtain htext := PromptName.ofString_eq_ok hname
        show (Procedure.get name >>= _).eval c = _
        rw [eval_bind_ok (eval_get ..), htext]
        have hbase : (r.base now name (c.get? r.name)).name.text = r.name := by
          rw [r.base_name fun p hp => (hc _ p hp).trans htext.symm, htext]
        show (ofOption .exhausted ((r.base now name (c.get? r.name)).addVersion? now r.version) >>=
          _).eval c = adding now r.version _ c c
        rw [adding]
        cases hq : (r.base now name (c.get? r.name)).addVersion? now r.version with
        | none => rfl
        | some added =>
          obtain ⟨v, q⟩ := added
          have hput : c.get? q.name.text = c.get? r.name := by
            rw [(Prompt.addVersion?_core hq).1, hbase]
          show (if (c.get? r.name).isNone then _ else _ : Procedure Details).eval c = _
          cases hfound : c.get? r.name with
          | none => exact eval_bind_ok (eval_create (hput.trans hfound)) _
          | some p => exact eval_bind_ok (eval_update (hput.trans hfound)) _

end Registry

end PromptRegistry
