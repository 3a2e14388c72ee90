import PromptRegistry.Proofs.Dict
import PromptRegistry.Storage.Memory

/-!
# Storages whose calls take effect or fail

`Call.Effect` says what a call answers and what it makes of the prompts that are kept. In an atomic
storage every call has its effect or fails and leaves what is kept as it was. Nothing is said of
when a call fails. The storage in memory is atomic (`memory_atomic`), and an atomic storage stays
so when it can be cut off (`Atomic.interruptible`).
-/

namespace PromptRegistry

theorem Contents.keyed_empty : Contents.Keyed ∅ := by
  intro key p hp
  cases hp

theorem Contents.Keyed.put {c : Contents} (h : c.Keyed) (p : Prompt) : (c.put p).Keyed := by
  intro key q hq
  simp only [Contents.put, Dict.get?_insert] at hq
  split at hq
  · next hkey => cases hq; exact hkey.symm
  · exact h key q hq

theorem Contents.Keyed.erase {c : Contents} (h : c.Keyed) (name : String) :
    Contents.Keyed (c.erase name) := by
  intro key q hq
  rw [Dict.get?_erase] at hq
  split at hq
  · cases hq
  · exact h key q hq

def Call.Effect (c : Contents) : (call : Call) → call.Answer → Contents → Prop
  | .get name, found, c' => found = c.get? name.text ∧ c' = c
  | .list, ps, c' => ps.Perm c.values ∧ c' = c
  | .create p, q, c' => c.holds p.name = false ∧ q = p ∧ c' = c.put p
  | .update p, q, c' => c.holds p.name = true ∧ q = p ∧ c' = c.put p
  | .save p, q, c' => q = p ∧ c' = c.put p
  | .delete name, found, c' => found = c.holds name ∧ c' = c.erase name.text
  | .contains name, found, c' => found = c.holds name ∧ c' = c
  | .count, n, c' => n = c.size ∧ c' = c
  | .clear, _, c' => c' = ∅

namespace Storage

variable {σ : Type} {st : Storage σ} {contents : σ → Contents} {s : σ}

/-- What a storage gives for a call: the effect of the call, or a failure that changes nothing. -/
def Served (contents : σ → Contents) (call : Call) (s : σ) (o : Except Failure call.Answer × σ) :
    Prop :=
  (∃ e, o.1 = .error e ∧ contents o.2 = contents s) ∨
    ∃ a, o.1 = .ok a ∧ call.Effect (contents s) a (contents o.2)

/-- Every call takes effect on the contents or fails and leaves them as they were. -/
def Atomic (st : Storage σ) (contents : σ → Contents) : Prop :=
  ∀ call s, Served contents call s (st.answer call s)

theorem memory_atomic : memory.Atomic id := by
  intro call c
  cases call with
  | get name => exact .inr ⟨_, rfl, rfl, rfl⟩
  | list => exact .inr ⟨_, rfl, .refl _, rfl⟩
  | create p =>
    by_cases hp : c.holds p.name = true
    · have ho : memory.answer (.create p) c = (.error (.taken (.entry p.name)), c) := if_pos hp
      exact .inl ⟨_, congrArg Prod.fst ho, congrArg Prod.snd ho⟩
    · have ho : memory.answer (.create p) c = (.ok p, c.put p) := if_neg hp
      exact .inr ⟨p, congrArg Prod.fst ho, by simpa using hp, rfl, congrArg Prod.snd ho⟩
  | update p =>
    by_cases hp : c.holds p.name = true
    · have ho : memory.answer (.update p) c = (.ok p, c.put p) := if_pos hp
      exact .inr ⟨p, congrArg Prod.fst ho, hp, rfl, congrArg Prod.snd ho⟩
    · have ho : memory.answer (.update p) c = (.error (.missing (.entry p.name)), c) := if_neg hp
      exact .inl ⟨_, congrArg Prod.fst ho, congrArg Prod.snd ho⟩
  | save p => exact .inr ⟨_, rfl, rfl, rfl⟩
  | delete name => exact .inr ⟨_, rfl, rfl, rfl⟩
  | contains name => exact .inr ⟨_, rfl, rfl, rfl⟩
  | count => exact .inr ⟨_, rfl, rfl, rfl⟩
  | clear => exact .inr ⟨_, rfl, rfl⟩

-- ---------------------------------------------------------------------------
-- Calls composed of others
-- ---------------------------------------------------------------------------

theorem served_contains {o : Except Failure (Option Prompt) × σ}
    (h : Served contents (.get name) s o) :
    Served contents (.contains name) s (o.1.map (·.isSome), o.2) := by
  rcases h with ⟨e, he, hc⟩ | ⟨found, ho, rfl, hc⟩
  · exact .inl ⟨e, by simp [he, Except.map], hc⟩
  · exact .inr ⟨_, by rw [ho]; rfl, rfl, hc⟩

theorem served_count {o : Except Failure (List Prompt) × σ} (h : Served contents .list s o) :
    Served contents .count s (o.1.map (·.length), o.2) := by
  rcases h with ⟨e, he, hc⟩ | ⟨ps, ho, hps, hc⟩
  · exact .inl ⟨e, by simp [he, Except.map], hc⟩
  · exact .inr ⟨_, by rw [ho]; rfl, hps.length_eq.trans (Dict.length_values _), hc⟩

theorem served_save {found : Except Failure Bool × σ}
    {update create : σ → Except Failure Prompt × σ}
    (ho : o = match found with
      | (.ok true, s) => update s
      | (.ok false, s) => create s
      | (.error e, s) => (.error e, s))
    (hf : Served contents (.contains p.name) s found)
    (hu : Served contents (.update p) found.2 (update found.2))
    (hc : Served contents (.create p) found.2 (create found.2)) :
    Served contents (.save p) s o := by
  obtain ⟨r, s'⟩ := found
  subst ho
  rcases hf with ⟨e, rfl, hs⟩ | ⟨b, rfl, -, hs⟩
  · exact .inl ⟨e, rfl, hs⟩
  · cases b with
    | true =>
      rcases hu with ⟨e, he, hu⟩ | ⟨q, hq, -, hqp, hu⟩
      · exact .inl ⟨e, he, hu.trans hs⟩
      · exact .inr ⟨q, hq, hqp, hu.trans (congrArg (·.put p) hs)⟩
    | false =>
      rcases hc with ⟨e, he, hc⟩ | ⟨q, hq, -, hqp, hc⟩
      · exact .inl ⟨e, he, hc.trans hs⟩
      · exact .inr ⟨q, hq, hqp, hc.trans (congrArg (·.put p) hs)⟩

-- ---------------------------------------------------------------------------
-- Outages
-- ---------------------------------------------------------------------------

theorem served_unlessOut {call : Call} {act : σ → Except Failure call.Answer × σ}
    (h : ∀ s, Served contents call s (act s)) (s : Interruptible σ) :
    Served (fun s => contents s.kept) call s (unlessOut act s) := by
  unfold unlessOut
  split
  · exact .inl ⟨_, rfl, rfl⟩
  · exact h s.kept

theorem Atomic.interruptible (h : st.Atomic contents) :
    (interruptible st).Atomic fun s => contents s.kept := by
  have hget name := served_unlessOut (h (.get name))
  have hlist := served_unlessOut (h .list)
  have hcreate p := served_unlessOut (h (.create p))
  have hupdate p := served_unlessOut (h (.update p))
  intro call s
  cases call with
  | get name => exact hget name s
  | list => exact hlist s
  | create p => exact hcreate p s
  | update p => exact hupdate p s
  | save p => exact served_save rfl (served_contains (hget p.name s)) (hupdate p _) (hcreate p _)
  | delete name => exact served_unlessOut (h (.delete name)) s
  | contains name => exact served_contains (hget name s)
  | count => exact served_count (hlist s)
  | clear => exact served_unlessOut (h .clear) s

end Storage

end PromptRegistry
