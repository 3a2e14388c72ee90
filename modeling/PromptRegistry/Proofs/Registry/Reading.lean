import PromptRegistry.Proofs.Registry.History
import PromptRegistry.Proofs.Uri

/-!
# Looking at contents

What the operations that only look find in contents when no call fails, in terms of the prompt
under a name.
-/

namespace PromptRegistry.Registry

def found (p : Procedure α) (c : Contents) : Except Failure α := (p.run .memory c).result

theorem result_bind (st : Storage σ) (p : Procedure α) (f : α → Procedure β) (s : σ) :
    ((p >>= f).run st s).result =
      (p.run st s).result >>= fun a => ((f a).run st (p.run st s).state).result := by
  show ((Procedure.bind f p).run st s).result = _
  induction p generalizing s with
  | done r => cases r <;> rfl
  | log e next ih => exact ih s
  | call request next ih => exact ih _ _

theorem state_of_reads {p : Procedure α} (hp : p.Reads) (c : Contents) :
    (p.run .memory c).state = c :=
  hp.run Storage.memory_atomic c

/-- Looking is done in steps, all of them on the same contents. -/
theorem found_bind {p : Procedure α} (hp : p.Reads) (f : α → Procedure β) (c : Contents) :
    found (p >>= f) c = found p c >>= fun a => found (f a) c := by
  rw [found, result_bind, state_of_reads hp]
  rfl

-- ---------------------------------------------------------------------------
-- References
-- ---------------------------------------------------------------------------

theorem found_getPrompt (name : PromptName) (c : Contents) :
    found (getPrompt name.text) c = .ok (c.get? name.text) := by
  simp only [found, getPrompt, demand, PromptName.ofString_text]
  rfl

theorem found_resolve (name : PromptName) (reference : Reference) (c : Contents) :
    found (resolve name.text reference) c =
      .ok ((c.get? name.text).bind fun p => (p.resolve reference).map p.details) := by
  rw [resolve, found_bind getPrompt_reads, found_getPrompt]
  cases c.get? name.text with
  | none => rfl
  | some p => rfl

theorem found_load (name : PromptName) (reference : Reference) (c : Contents)
    (h : Uri.parse text = .ok ⟨name.text, reference⟩) :
    found (load text) c = match (c.get? name.text).bind fun p =>
        (p.resolve reference).map p.details with
      | some d => .ok d
      | none => .error (.missing (.target ⟨name.text, reference⟩)) := by
  rw [load, found_bind .demand, h]
  show found (loadUri _) c = _
  rw [loadUri, found_bind (.emit rfl)]
  show found (resolve _ _ >>= _) c = _
  rw [found_bind resolve_reads, found_resolve]
  show found (Procedure.ofOption _ _) c = _
  split
  · next h => rw [h]; rfl
  · next h => rw [h]; rfl

end PromptRegistry.Registry
