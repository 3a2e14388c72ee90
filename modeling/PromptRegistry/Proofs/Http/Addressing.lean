import PromptRegistry.Proofs.Http.Responses
import PromptRegistry.Proofs.Registry.Addressing

/-!
# Versions by path and by address

The endpoint of a version displays what its name and its written number find
(`answer_getVersion`), and that is what the address made up of them is loaded as
(`getVersion_load_agree`).
-/

namespace PromptRegistry.Http

open Registry (Agree getNumbered look_getNumbered not_fatal_of_look)

/-- How the end of a look-up is displayed. Of a failure it may be said which part of the request is
at fault. -/
inductive Displays : Except Failure (Option Details) → Response → Prop
  | details : Displays (.ok (some d)) (.json 200 d.view)
  | nothing {what : Missing} :
    Displays (.ok none) (Problem.new .notFound what.message).toResponse
  | failure {e : Failure} {param : Option String} :
    Displays (.error e) (Problem.toResponse { Problem.ofFailure e with param })

theorem answer_getVersion {st : Storage σ} (hst : st.LooksUp) (s : σ) (sizes : Search.PageSizes)
    (a : Arrival) (r : Request) (name text : String) :
    ∃ response, ((answer sizes a r (.getVersion name text)).run st s).result = .ok response ∧
      Displays (st.look s (getNumbered name text)) response := by
  show ∃ response, ((givenVersion text _).run st s).result = .ok response ∧ _
  unfold givenVersion
  cases hn : Rules.readVersion text with
  | error v =>
    have hlook : st.look s (getNumbered name text) = .error (.refused (.rule v)) := by
      rw [look_getNumbered, hn]
    rw [hlook]
    exact ⟨_, rfl, .failure⟩
  | ok n =>
    have hlook : st.look s (getNumbered name text) =
        ((Registry.getVersion name n).run st s).result := by
      unfold Storage.look getNumbered
      rw [hn]
      rfl
    show ∃ response, ((concludeWith id (Registry.getVersion name n) _).run st s).result = _ ∧ _
    rw [result_concludeWith, ← hlook]
    rcases hfound : st.look s (getNumbered name text) with e | _ | d
    · simp only [not_fatal_of_look hst hfound]
      exact ⟨_, rfl, .failure⟩
    · exact ⟨_, rfl, .nothing⟩
    · exact ⟨_, rfl, .details⟩

/-- The endpoint of a version displays what its name and its written number find. The address made
up of them is loaded as the same details; and where they find nothing, are refused or meet an
outage, so does the address. -/
theorem getVersion_load_agree {st : Storage σ} (hst : st.LooksUp) (s : σ)
    (sizes : Search.PageSizes) (a : Arrival) (r : Request) (name text : String) :
    (∃ response, ((answer sizes a r (.getVersion name text)).run st s).result = .ok response ∧
      Displays (st.look s (getNumbered name text)) response) ∧
    Agree (st.look s (getNumbered name text))
      (st.look s (Registry.load (Uri.scheme ++ name ++ "/" ++ text))) :=
  ⟨answer_getVersion hst s sizes a r name text, Registry.getNumbered_load_agree hst s name text⟩

theorem getVersion_load_agree_outage :
    let st : Storage (Interruptible Contents) := .interruptible .memory
    let s : Interruptible Contents := ⟨∅, some "down"⟩
    st.look s (Registry.load "prompts:/greeting/ +7") = .error (.storage "down") ∧
      ∃ why, st.look s (Registry.load "prompts:/greeting@live/7") = .error (.refused why) := by
  intro st s
  have hst : st.LooksUp := Storage.memory_looksUp.interruptible
  have hagree := getVersion_load_agree hst s ⟨20, 100⟩ ⟨default, "id", 0⟩
    { method := .get, target := .ofString "/", headers := [], body := [] }
  have hseven := (hagree "greeting" " +7").2
  have hmark := (hagree "greeting@live" "7").2
  exact ⟨(hseven.outage "down").1 rfl, hmark.refused.1 ⟨_, rfl⟩⟩

end PromptRegistry.Http
