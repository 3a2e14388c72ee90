import Mathlib.Data.List.Forall2
import PromptRegistry.Proofs.Storage.Atomic

/-!
# Healthy storages

A healthy storage answers every call as the dictionary of its contents does, except that it may
list prompts in any order. Six of the calls are basic; a storage that composes the other three of
them is healthy if the six are (`composed_healthy`). Any calls of a healthy storage, one after
another, are answered as by the dictionary (`Healthy.replies`).
-/

namespace PromptRegistry

def Call.SameAnswer : (call : Call) → (r r' : Except Failure call.Answer) → Prop
  | .list, r, r' => ∃ ps qs : List Prompt, r = .ok ps ∧ r' = .ok qs ∧ ps.Perm qs
  | _, r, r' => r = r'

def Call.isBasic : Call → Bool
  | .get _ | .list | .create _ | .update _ | .delete _ | .clear => true
  | .save _ | .contains _ | .count => false

namespace Storage

variable {σ : Type} {st : Storage σ} {contents : σ → Contents} {s : σ}

def Follows (st : Storage σ) (contents : σ → Contents) (call : Call) (s : σ) : Prop :=
  call.SameAnswer (st.answer call s).1 (memory.answer call (contents s)).1 ∧
    contents (st.answer call s).2 = (memory.answer call (contents s)).2

/-- Every call is answered as the dictionary of the contents answers it. -/
def Healthy (st : Storage σ) (contents : σ → Contents) : Prop :=
  ∀ call s, st.Follows contents call s

theorem memory_healthy : memory.Healthy id := by
  intro call c
  cases call with
  | list => exact ⟨⟨_, _, rfl, rfl, .refl _⟩, rfl⟩
  | _ => exact ⟨rfl, rfl⟩

theorem Healthy.atomic (h : st.Healthy contents) : st.Atomic contents := by
  intro call s
  obtain ⟨hanswer, hstate⟩ := h call s
  rcases memory_atomic call (contents s) with ⟨e, he, hkept⟩ | ⟨a, ha, heffect⟩
  · cases call with
    | list => cases he
    | _ => exact .inl ⟨e, hanswer.trans he, hstate.trans hkept⟩
  · cases call with
    | list =>
      obtain ⟨ps, qs, hps, hqs, hperm⟩ := hanswer
      cases hqs
      exact .inr ⟨ps, hps, hperm, hstate⟩
    | _ => exact .inr ⟨a, hanswer.trans ha, hstate ▸ heffect⟩

/-- The storage with the same basic calls, of which the others are composed. -/
def composed (st : Storage σ) : Storage σ where
  get := st.get
  list := st.list
  create := st.create
  update := st.update
  delete := st.delete
  clear := st.clear

theorem composed_contains (hget : st.Follows contents (.get name) s) :
    st.composed.Follows contents (.contains name) s := by
  obtain ⟨hanswer, hstate⟩ := hget
  refine ⟨?_, hstate⟩
  show (st.get name s).1.map (·.isSome) = _
  rw [show (st.get name s).1 = .ok ((contents s).get? name.text) from hanswer]
  rfl

theorem composed_count (hlist : st.Follows contents .list s) :
    st.composed.Follows contents .count s := by
  obtain ⟨⟨ps, qs, hps, hqs, hperm⟩, hstate⟩ := hlist
  refine ⟨?_, hstate⟩
  show (st.list s).1.map (·.length) = _
  cases hqs
  rw [show (st.list s).1 = .ok ps from hps]
  exact congrArg Except.ok (hperm.length_eq.trans (Dict.length_values _))

/-- Looking whether the name is taken, and then putting the prompt in its place or taking it in,
comes to the same as saving it. -/
theorem follows_save {found : Except Failure Bool × σ} {o : Except Failure Prompt × σ}
    (ho : o = match found with
      | (.ok true, s) => st.update p s
      | (.ok false, s) => st.create p s
      | (.error e, s) => (.error e, s))
    (hfound : found.1 = .ok ((contents s).holds p.name) ∧ contents found.2 = contents s)
    (hupdate : ∀ s, st.Follows contents (.update p) s)
    (hcreate : ∀ s, st.Follows contents (.create p) s) :
    o.1 = .ok p ∧ contents o.2 = (contents s).put p := by
  obtain ⟨r, s'⟩ := found
  obtain ⟨rfl, hs'⟩ : r = .ok ((contents s).holds p.name) ∧ contents s' = contents s := hfound
  subst ho
  cases hp : (contents s).holds p.name with
  | true =>
    have hmemory : memory.answer (.update p) (contents s') = (.ok p, (contents s).put p) := by
      rw [hs']
      exact if_pos hp
    have hfollows := hupdate s'
    rw [Follows, hmemory] at hfollows
    exact hfollows
  | false =>
    have hmemory : memory.answer (.create p) (contents s') = (.ok p, (contents s).put p) := by
      rw [hs']
      exact if_neg (Bool.eq_false_iff.1 hp)
    have hfollows := hcreate s'
    rw [Follows, hmemory] at hfollows
    exact hfollows

theorem composed_healthy (h : ∀ call s, call.isBasic = true → st.Follows contents call s) :
    st.composed.Healthy contents := by
  intro call s
  cases call with
  | get name => exact h (.get name) s rfl
  | list => exact h .list s rfl
  | create p => exact h (.create p) s rfl
  | update p => exact h (.update p) s rfl
  | save p =>
    exact follows_save rfl (composed_contains (h (.get p.name) s rfl))
      (fun s => h (.update p) s rfl) fun s => h (.create p) s rfl
  | delete name => exact h (.delete name) s rfl
  | contains name => exact composed_contains (h (.get name) s rfl)
  | count => exact composed_count (h .list s rfl)
  | clear => exact h .clear s rfl

end Storage

-- ---------------------------------------------------------------------------
-- Calls
-- ---------------------------------------------------------------------------

structure Reply where
  call : Call
  answer : Except Failure call.Answer

inductive Reply.Same : Reply → Reply → Prop
  | intro {call : Call} {r r' : Except Failure call.Answer} (h : call.SameAnswer r r') :
    Same ⟨call, r⟩ ⟨call, r'⟩

namespace Storage

def replies (st : Storage σ) : List Call → σ → List Reply × σ
  | [], s => ([], s)
  | call :: calls, s =>
    let (r, s) := st.answer call s
    let (rs, s) := st.replies calls s
    (⟨call, r⟩ :: rs, s)

theorem Healthy.replies {st : Storage σ} {contents : σ → Contents} (hst : st.Healthy contents)
    (calls : List Call) (s : σ) :
    List.Forall₂ Reply.Same (st.replies calls s).1 (memory.replies calls (contents s)).1 ∧
      contents (st.replies calls s).2 = (memory.replies calls (contents s)).2 := by
  induction calls generalizing s with
  | nil => exact ⟨.nil, rfl⟩
  | cons call calls ih =>
    obtain ⟨hanswer, hstate⟩ := hst call s
    obtain ⟨hreplies, hend⟩ := ih (st.answer call s).2
    rw [hstate] at hreplies hend
    exact ⟨.cons (.intro hanswer) hreplies, hend⟩

end Storage

end PromptRegistry
