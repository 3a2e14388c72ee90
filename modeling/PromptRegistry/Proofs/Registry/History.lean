import Mathlib.Data.List.Induction
import PromptRegistry.Proofs.Registry.Effect

/-!
# Histories

A history lists operations with their results, the oldest first. `Run` says that a storage went
through a history. Over an atomic storage each exchange `Turns` the contents, and under any one
name a run takes the core through a `Course` of changes that are read off the history alone
(`Run.course`). The results about time are results about courses.
-/

namespace PromptRegistry.Registry

structure Exchange where
  time : Timestamp
  op : Operation
  result : Except Failure op.Answer

/-- The change of the core under its name that an operation makes when it succeeds. -/
def Operation.change : (op : Operation) → op.Answer → Change
  | .createVersion .., d | .register .., d => .add (Details.version d)
  | .deletePrompt _, _ => .clear
  | .deleteVersion _ n, _ => .drop n
  | .setAlias _ a n, _ => .point a n
  | .deleteAlias _ a, _ => .unpoint a
  | _, _ => .keep

def Operation.exchange (sizes : Search.PageSizes) (st : Storage σ) (now : Timestamp)
    (op : Operation) (s : σ) : Exchange :=
  ⟨now, op, (op.run sizes st now s).result⟩

/-- A storage goes from one state to another through a history. -/
inductive Run (sizes : Search.PageSizes) (st : Storage σ) (s₀ : σ) : List Exchange → σ → Prop
  | start : Run sizes st s₀ [] s₀
  | next (h : Run sizes st s₀ xs s) (now : Timestamp) (op : Operation) :
    Run sizes st s₀ (xs ++ [op.exchange sizes st now s]) (op.run sizes st now s).state

namespace Exchange

def Succeeds (x : Exchange) (op : Operation) : Prop := x.op = op ∧ ∃ a, x.result = .ok a

def change (name : String) (x : Exchange) : Change :=
  match x.result with
  | .ok a => if x.op.name? = some name then x.op.change a else .keep
  | .error _ => .keep

/-- The exchange changes nothing under a name: it failed, only looked or was about another. -/
def Idle (name : String) (x : Exchange) : Prop :=
  ∀ op, x.Succeeds op → op.name? = some name → op.isReading = true

def Turns (x : Exchange) (c c' : Contents) : Prop :=
  match x.result with
  | .ok a => ∃ es, x.op.Done x.time c a c' es
  | .error _ => c' = c

inductive Affects (name : String) (x : Exchange) : Option Prompt → Option Prompt → Prop
  | idle (h : x.Idle name) : x.Affects name o o
  | effect (hop : x.op.name? = some name) (ha : x.result = .ok a)
      (h : x.op.Effect x.time o a o' es) : x.Affects name o o'

end Exchange

/-- A core goes through the changes that a history makes under a name. -/
inductive Course (name : String) (c₀ : Core) : List Exchange → Core → Prop
  | start : Course name c₀ [] c₀
  | next (h : Course name c₀ xs c) (hx : (x.change name).Applies name c) :
    Course name c₀ (xs ++ [x]) (c.apply (x.change name))

-- ---------------------------------------------------------------------------
-- Changes
-- ---------------------------------------------------------------------------

theorem Operation.change_of_isReading {op : Operation} {a : op.Answer} (h : op.isReading = true) :
    op.change a = .keep := by
  cases op <;> first | rfl | cases h

def Named (name : String) : Option Prompt → Prop
  | some p => p.name.text = name
  | none => True

theorem named_of_keyed {c : Contents} (hc : c.Keyed) (name : String) :
    Named name (c.get? name) := by
  unfold Named
  split
  · next p hp => exact hc name p hp
  · trivial

theorem named_of_sameCore {p q : Prompt} (hcore : p.SameCore q) (h : Named name (some p)) :
    Named name (some q) :=
  (congrArg PromptName.text hcore.name).trans h

/-- An effect keeps the name of a prompt and is one change of its core. -/
theorem Operation.Effect.core {op : Operation} {a : op.Answer} (h : op.Effect now o a o' es)
    (hop : op.name? = some name) (ho : Named name o) :
    Named name o' ∧ (op.change a).Applies name (.of o) ∧
      .of o' = (Core.of o).apply (op.change a) := by
  cases h with
  | createPrompt hname htags hp =>
    subst hp
    exact ⟨hname.trans (Option.some.inj hop), trivial, rfl⟩
  | updatePrompt => exact ⟨ho, trivial, rfl⟩
  | deletePrompt => exact ⟨trivial, trivial, rfl⟩
  | setPromptTag => exact ⟨ho, trivial, rfl⟩
  | deletePromptTag hq =>
    have hcore := (Prompt.deleteTag?_eq_some hq).1
    exact ⟨named_of_sameCore hcore ho, trivial, hcore.core⟩
  | keepPromptTag => exact ⟨ho, trivial, rfl⟩
  | createVersion hversion hq =>
    obtain ⟨hname, happlies, hcore⟩ := Prompt.addVersion?_core hq
    exact ⟨(congrArg PromptName.text hname).trans ho, ho ▸ happlies, hcore⟩
  | @register r key hname _ _ _ base _ _ hp hq =>
    have hcore := Prompt.setTags_sameCore now r.promptTags.entries
      (o.getD (.new now key r.description ∅))
    rw [← hp] at hcore
    -- a prompt that is made on the way has the core of none
    have hof : base.name.text = name ∧ base.core = .of o := by
      rw [hcore.core, hcore.name]
      cases o with
      | none => exact ⟨hname.trans (Option.some.inj hop), rfl⟩
      | some p => exact ⟨ho, rfl⟩
    obtain ⟨hqname, happlies, hadd⟩ := Prompt.addVersion?_core hq
    rw [← hof.2]
    exact ⟨(congrArg PromptName.text hqname).trans hof.1, hof.1 ▸ happlies, hadd⟩
  | deleteVersion hnumber hq =>
    have hname := (Prompt.deleteVersion?_eq_some hq).1
    exact ⟨(congrArg PromptName.text hname).trans ho, trivial, Prompt.core_deleteVersion? hq⟩
  | setVersionTag hnumber htag hq =>
    have hcore := (Prompt.setVersionTag?_eq_some hq).1
    exact ⟨named_of_sameCore hcore ho, trivial, hcore.core⟩
  | deleteVersionTag hnumber hq =>
    have hcore := (Prompt.deleteVersionTag?_eq_some hq).1
    exact ⟨named_of_sameCore hcore ho, trivial, hcore.core⟩
  | setAlias halias hnumber hq =>
    have hcore := Prompt.core_setAlias? hq
    obtain ⟨-, rfl⟩ := Prompt.setAlias?_eq_some hq
    exact ⟨ho, trivial, hcore⟩
  | deleteAlias hq =>
    have hcore := Prompt.core_deleteAlias? hq
    obtain rfl := Prompt.deleteAlias?_eq_some hq
    exact ⟨ho, trivial, hcore⟩

-- ---------------------------------------------------------------------------
-- One exchange
-- ---------------------------------------------------------------------------

namespace Exchange

variable {x : Exchange} {c c' : Contents}

theorem Idle.change (h : x.Idle name) : x.change name = .keep := by
  unfold Exchange.change
  split
  · next a ha =>
    split
    · next hop => exact Operation.change_of_isReading (h x.op ⟨rfl, a, ha⟩ hop)
    · rfl
  · rfl

theorem change_eq {change : Change} (hchange : change ≠ .keep) : x.change name = change ↔
    ∃ a, x.result = .ok a ∧ x.op.name? = some name ∧ x.op.change a = change := by
  unfold Exchange.change
  split
  · next a ha =>
    simp only [ha, Except.ok.injEq, exists_eq_left']
    split
    · next hop => simp [hop]
    · next hop => simp [hop, hchange.symm]
  · next e he => simp [he, hchange.symm]

/-- An operation succeeds just when it makes the change that it alone makes. -/
theorem succeeds_iff {op : Operation} {change : Change} (hchange : change ≠ .keep)
    (hop : ∀ (op' : Operation) (a : op'.Answer),
      op'.name? = some name ∧ op'.change a = change ↔ op' = op) :
    x.Succeeds op ↔ x.change name = change := by
  simp only [change_eq hchange, hop, Succeeds, exists_and_right]
  exact and_comm

theorem succeeds_deletePrompt : x.Succeeds (.deletePrompt name) ↔ x.change name = .clear :=
  succeeds_iff nofun fun op' _ => by cases op' <;> simp [Operation.name?, Operation.change]

theorem succeeds_deleteVersion : x.Succeeds (.deleteVersion name n) ↔ x.change name = .drop n :=
  succeeds_iff nofun fun op' _ => by cases op' <;> simp [Operation.name?, Operation.change]

theorem succeeds_setAlias : x.Succeeds (.setAlias name a n) ↔ x.change name = .point a n :=
  succeeds_iff nofun fun op' _ => by cases op' <;> simp [Operation.name?, Operation.change]

theorem succeeds_deleteAlias : x.Succeeds (.deleteAlias name a) ↔ x.change name = .unpoint a :=
  succeeds_iff nofun fun op' _ => by cases op' <;> simp [Operation.name?, Operation.change]

theorem Affects.core (h : x.Affects name o o') (ho : Named name o) :
    (x.change name).Applies name (.of o) ∧ .of o' = (Core.of o).apply (x.change name) := by
  cases h with
  | idle h =>
    rw [h.change]
    exact ⟨trivial, rfl⟩
  | effect hop ha h =>
    unfold Exchange.change
    simp only [ha, hop, if_true]
    exact (h.core hop ho).2

theorem Turns.keyed (h : x.Turns c c') (hc : c.Keyed) : c'.Keyed := by
  unfold Turns at h
  split at h
  · obtain ⟨es, h⟩ := h
    cases h with
    | read => exact hc
    | put => exact hc.put _
    | erase => exact hc.erase _
  · exact h ▸ hc

theorem Turns.affects (h : x.Turns c c') (name : String) :
    x.Affects name (c.get? name) (c'.get? name) := by
  unfold Turns at h
  split at h
  · next a ha =>
    obtain ⟨es, h⟩ := h
    -- an operation about another name is idle under this one
    have hidle (other : String) (hother : x.op.name? = some other) (hne : name ≠ other) :
        x.Idle name := by
      rintro op ⟨rfl, -⟩ hop
      exact absurd (Option.some.inj (hop.symm.trans hother)) hne
    cases h with
    | read hop => exact .idle fun op hx _ => hx.1 ▸ hop
    | put hop heffect =>
      simp only [Contents.put, Dict.get?_insert]
      split
      · next hname => subst hname; exact .effect hop ha heffect
      · next hname => exact .idle (hidle _ hop hname)
    | erase hop heffect =>
      rw [Dict.get?_erase]
      split
      · next hname => subst hname; exact .effect hop ha heffect
      · next hname => exact .idle (hidle _ hop hname)
  · next e he =>
    rw [h]
    refine .idle ?_
    rintro op ⟨rfl, a, ha⟩
    cases he.symm.trans ha

end Exchange

section
variable {σ : Type} {st : Storage σ} {contents : σ → Contents} {s s₀ : σ}

theorem Operation.exchange_turns (hst : st.Atomic contents) (hc : (contents s).Keyed)
    (sizes : Search.PageSizes) (now : Timestamp) (op : Operation) :
    (op.exchange sizes st now s).Turns (contents s) (contents (op.run sizes st now s).state) := by
  have hop : (op.procedure sizes now).Ensures _ _ (contents s) [] := op.procedure_ensures hc
  have h := hop.run hst
  unfold Exchange.Turns
  simp only [Operation.exchange, Operation.run]
  split
  · next a ha =>
    rw [ha] at h
    exact ⟨_, h⟩
  · next e he =>
    rw [he] at h
    exact h.1

-- ---------------------------------------------------------------------------
-- Histories
-- ---------------------------------------------------------------------------

theorem Run.exists (requests : List (Timestamp × Operation)) (s₀ : σ) :
    ∃ xs s, Run sizes st s₀ xs s ∧ xs.map (fun x => (x.time, x.op)) = requests := by
  induction requests using List.reverseRecOn with
  | nil => exact ⟨[], s₀, .start, rfl⟩
  | append_singleton requests request ih =>
    obtain ⟨xs, s, h, hxs⟩ := ih
    exact ⟨_, _, h.next request.1 request.2, by simp [hxs, Operation.exchange]⟩

theorem Run.keyed (hst : st.Atomic contents) (hc : (contents s₀).Keyed)
    (h : Run sizes st s₀ xs s) : (contents s).Keyed := by
  induction h with
  | start => exact hc
  | next _ now op ih => exact (op.exchange_turns hst ih sizes now).keyed ih

/-- A run takes the core under each name through its course. -/
theorem Run.course (hst : st.Atomic contents) (hc : (contents s₀).Keyed)
    (h : Run sizes st s₀ xs s) (name : String) :
    Course name (.of ((contents s₀).get? name)) xs (.of ((contents s).get? name)) := by
  induction h with
  | start => exact .start
  | next h now op ih =>
    have hkeyed := h.keyed hst hc
    have hturns := op.exchange_turns hst hkeyed sizes now
    obtain ⟨happlies, hcore⟩ := (hturns.affects name).core (named_of_keyed hkeyed name)
    rw [hcore]
    exact ih.next happlies

end

/-- At some point of a history `P` held of an exchange, and `Q` has held of none since. -/
def Since (P Q : Exchange → Prop) (xs : List Exchange) : Prop :=
  ∃ before x after, xs = before ++ x :: after ∧ P x ∧ ∀ y ∈ after, ¬Q y

theorem not_since_nil {P Q : Exchange → Prop} : ¬Since P Q [] := by
  rintro ⟨before, x, after, h, -⟩
  simp at h

theorem since_concat {P Q : Exchange → Prop} :
    Since P Q (xs ++ [x]) ↔ P x ∨ Since P Q xs ∧ ¬Q x := by
  constructor
  · rintro ⟨before, y, after, h, hy, hafter⟩
    rcases List.eq_nil_or_concat after with rfl | ⟨after, z, rfl⟩
    · obtain ⟨rfl, hx⟩ := List.append_inj' h rfl
      obtain rfl := List.singleton_inj.1 hx
      exact .inl hy
    · rw [List.concat_eq_append] at h hafter
      rw [← List.cons_append, ← List.append_assoc] at h
      obtain ⟨rfl, hx⟩ := List.append_inj' h rfl
      obtain rfl := List.singleton_inj.1 hx
      simp only [List.forall_mem_append, List.forall_mem_singleton] at hafter
      exact .inr ⟨⟨before, y, after, rfl, hy, hafter.1⟩, hafter.2⟩
  · rintro (hx | ⟨⟨before, y, after, rfl, hy, hafter⟩, hx⟩)
    · exact ⟨xs, x, [], rfl, hx, by simp⟩
    · refine ⟨before, y, after ++ [x], by simp, hy, ?_⟩
      simp only [List.forall_mem_append, List.forall_mem_singleton]
      exact ⟨hafter, hx⟩

-- ---------------------------------------------------------------------------
-- Parts of a course
-- ---------------------------------------------------------------------------

theorem Course.last (h : Course name c₀ (xs ++ [x]) c) :
    ∃ c₁, Course name c₀ xs c₁ ∧ (x.change name).Applies name c₁ ∧
      c = c₁.apply (x.change name) := by
  generalize hys : xs ++ [x] = ys at h
  cases h with
  | start => simp at hys
  | next h hx =>
    obtain ⟨rfl, hy⟩ := List.append_inj' hys rfl
    obtain rfl := List.singleton_inj.1 hy
    exact ⟨_, h, hx, rfl⟩

theorem Course.append (h : Course name c₀ (xs ++ ys) c) :
    ∃ c₁, Course name c₀ xs c₁ ∧ Course name c₁ ys c := by
  induction ys using List.reverseRecOn generalizing c with
  | nil => exact ⟨c, List.append_nil xs ▸ h, .start⟩
  | append_singleton ys y ih =>
    rw [← List.append_assoc] at h
    obtain ⟨c', hinit, hy, rfl⟩ := h.last
    obtain ⟨c₁, h₁, h₂⟩ := ih hinit
    exact ⟨c₁, h₁, h₂.next hy⟩

theorem Course.split (h : Course name c₀ (xs ++ x :: ys) c) :
    ∃ c₁, Course name c₀ xs c₁ ∧ (x.change name).Applies name c₁ ∧
      Course name (c₁.apply (x.change name)) ys c := by
  rw [List.append_cons] at h
  obtain ⟨c', hinit, hys⟩ := h.append
  obtain ⟨c₁, hxs, hx, rfl⟩ := hinit.last
  exact ⟨c₁, hxs, hx, hys⟩

end PromptRegistry.Registry
