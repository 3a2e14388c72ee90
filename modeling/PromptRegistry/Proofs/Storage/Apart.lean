import PromptRegistry.Proofs.Storage.Healthy

/-!
# Storages that keep names apart

A storage keeps names apart if it answers a call about a name from what it has under the name, and
changes nothing else. A healthy storage does so (`Healthy.apart`), and so does a storage that can be
cut off from one that does, in an outage or not (`Apart.interruptible`).
-/

namespace PromptRegistry

def Call.name? : Call → Option String
  | .get name | .delete name | .contains name => some name.text
  | .create p | .update p | .save p => some p.name.text
  | .list | .count | .clear => none

namespace Storage

variable {σ τ : Type} {st : Storage σ} {contents : σ → Contents} {part : String → σ → τ}

/-- An action on what is kept looks at the part of one name only and changes no other part. -/
structure Local (part : String → σ → τ) (name : String) (act : σ → α × σ) : Prop where
  same : ∀ {s s'}, part name s = part name s' →
    (act s).1 = (act s').1 ∧ part name (act s).2 = part name (act s').2
  frame : ∀ {s other}, other ≠ name → part other (act s).2 = part other s

/-- What is kept falls into a part for each name, which tells what stands under the name. A call
about a name looks at its part only and changes no other. -/
structure Apart (st : Storage σ) (contents : σ → Contents) (part : String → σ → τ) : Prop where
  call : ∀ {call : Call} {name}, call.name? = some name → Local part name (st.answer call)
  found : ∀ {name s s'}, part name s = part name s' →
    (contents s).get? name = (contents s').get? name

theorem Apart.contents_eq (hst : st.Apart contents part) {s s' : σ}
    (h : ∀ name, part name s = part name s') : contents s = contents s' :=
  Dict.ext_get? fun name => hst.found (h name)

-- ---------------------------------------------------------------------------
-- Healthy storages
-- ---------------------------------------------------------------------------

theorem memory_local {call : Call} (h : call.name? = some name) :
    Local (fun name (c : Contents) => c.get? name) name (memory.answer call) := by
  cases call with
  | list | count | clear => cases h
  | get key =>
    cases h
    exact ⟨fun hs => ⟨congrArg Except.ok hs, hs⟩, fun _ => rfl⟩
  | contains key =>
    cases h
    exact ⟨fun hs => ⟨congrArg (fun found => Except.ok (Option.isSome found)) hs, hs⟩, fun _ => rfl⟩
  | delete key =>
    cases h
    refine ⟨fun hs => ⟨congrArg (fun found => Except.ok (Option.isSome found)) hs, ?_⟩,
      fun hother => ?_⟩
    · simp [answer, memory]
    · simp [answer, memory, hother]
  | save p =>
    cases h
    refine ⟨fun _ => ⟨rfl, ?_⟩, fun hother => ?_⟩
    · simp [answer, memory, Contents.put]
    · simp [answer, memory, Contents.put, hother]
  | create p | update p =>
    cases h
    refine ⟨fun {c c'} hs => ?_, fun {c other} hother => ?_⟩
    · have hholds : c.holds p.name = c'.holds p.name := congrArg Option.isSome hs
      simp only [answer, memory, hholds]
      split
      · exact ⟨rfl, by simp [Contents.put, hs]⟩
      · exact ⟨rfl, by simp [Contents.put, hs]⟩
    · simp only [answer, memory]
      split
      · simp [Contents.put, hother]
      · simp [Contents.put, hother]

theorem Healthy.apart (h : st.Healthy contents) :
    st.Apart contents fun name s => (contents s).get? name := by
  refine ⟨fun {call name} hname => ?_, id⟩
  have hlocal := memory_local hname
  have hanswer (s : σ) : (st.answer call s).1 = (memory.answer call (contents s)).1 := by
    have hsame := (h call s).1
    cases call with
    | list => cases hname
    | _ => exact hsame
  have hstate (s : σ) : contents (st.answer call s).2 = (memory.answer call (contents s)).2 :=
    (h call s).2
  refine ⟨fun {s s'} hs => ?_, fun {s other} hother => ?_⟩
  · simp only [hanswer, hstate]
    exact hlocal.same hs
  · simp only [hstate]
    exact hlocal.frame hother

-- ---------------------------------------------------------------------------
-- Outages
-- ---------------------------------------------------------------------------

section
variable {name : String}

theorem Local.map {act : σ → α × σ} (h : Local part name act) (f : α → β) :
    Local part name fun s => (f (act s).1, (act s).2) :=
  ⟨fun hs => ⟨congrArg f (h.same hs).1, (h.same hs).2⟩, h.frame⟩

theorem Local.unlessOut {act : σ → Except Failure α × σ} (h : Local part name act) :
    Local (fun name s => (s.outage, part name s.kept)) name (unlessOut act) := by
  refine ⟨fun {s s'} hs => ?_, fun {s other} hother => ?_⟩
  · obtain ⟨houtage, hkept⟩ := Prod.mk.inj hs
    simp only [Storage.unlessOut, houtage]
    split
    · exact ⟨rfl, hs⟩
    · obtain ⟨hanswer, hpart⟩ := h.same hkept
      exact ⟨hanswer, Prod.ext rfl hpart⟩
  · simp only [Storage.unlessOut]
    split
    · rfl
    · exact congrArg _ (h.frame hother)

end

theorem local_save {found : σ → Except Failure Bool × σ}
    {save update create : σ → Except Failure Prompt × σ}
    (hsave : ∀ s, save s = match found s with
      | (.ok true, s) => update s
      | (.ok false, s) => create s
      | (.error e, s) => (.error e, s))
    (hfound : Local part name found) (hupdate : Local part name update)
    (hcreate : Local part name create) : Local part name save := by
  refine ⟨fun {s s'} hs => ?_, fun {s other} hother => ?_⟩
  · obtain ⟨hanswer, hpart⟩ := hfound.same hs
    rw [hsave, hsave]
    generalize found s = o at hanswer hpart
    generalize found s' = o' at hanswer hpart
    obtain ⟨r, t⟩ := o
    obtain ⟨r', t'⟩ := o'
    obtain rfl : r = r' := hanswer
    rcases r with e | _ | _
    · exact ⟨rfl, hpart⟩
    · exact hcreate.same hpart
    · exact hupdate.same hpart
  · have hpart := hfound.frame (s := s) hother
    rw [hsave]
    generalize found s = o at hpart
    obtain ⟨r, t⟩ := o
    rcases r with e | _ | _
    · exact hpart
    · exact (hcreate.frame hother).trans hpart
    · exact (hupdate.frame hother).trans hpart

/-- During an outage every call is answered alike, whatever it is about. -/
theorem Apart.interruptible (hst : st.Apart contents part) :
    (interruptible st).Apart (fun s => contents s.kept)
      fun name s => (s.outage, part name s.kept) := by
  refine ⟨fun {call name} hname => ?_, fun hs => hst.found (Prod.mk.inj hs).2⟩
  have hcall (call : Call) (h : call.name? = some name) := (hst.call h).unlessOut
  have hcontains (key : PromptName) (h : some key.text = some name) :
      Local (fun name s => (s.outage, part name s.kept)) name
        ((Storage.interruptible st).contains key) :=
    (hcall (.get key) h).map (·.map (·.isSome))
  cases call with
  | list | count | clear => cases hname
  | get key => exact hcall (.get key) hname
  | create p => exact hcall (.create p) hname
  | update p => exact hcall (.update p) hname
  | delete key => exact hcall (.delete key) hname
  | contains key => exact hcontains key hname
  | save p =>
    exact local_save (fun _ => rfl) (hcontains p.name hname)
      (hcall (.update p) hname) (hcall (.create p) hname)

end Storage

end PromptRegistry
