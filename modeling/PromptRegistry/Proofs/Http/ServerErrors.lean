import PromptRegistry.Proofs.Http.Responses
import PromptRegistry.Proofs.Registry.Failures

/-!
# Errors of the server

Over a healthy storage, and as long as every prompt has numbers left, nothing fails for a reason
that is not in what was asked for. Operations are refused, or they come to something that is missing
or taken, and what their checks let through is never what the storage fails. So every request is
answered, and with no error of the server (`healthy_without_server_errors`).
-/

namespace PromptRegistry.Http

open Registry (Operation)

theorem status_ofFailure_lt {e : Failure}
    (h : e.kind = .validation ∨ e.kind = .notFound ∨ e.kind = .conflict) :
    (ProblemKind.ofFailure e.kind).status < 500 := by
  rcases h with h | h | h <;> rw [h] <;> decide

theorem run_count {st : Storage σ} {contents : σ → Contents} (hst : st.Healthy contents)
    (sizes : Search.PageSizes) (now : Timestamp) (s : σ) :
    (Operation.count.run sizes st now s).result = .ok (contents s).size :=
  (hst .count s).1

theorem not_fatal_of_kind {e : Failure}
    (h : e.kind = .validation ∨ e.kind = .notFound ∨ e.kind = .conflict) : e.isFatal = false := by
  cases e with
  | exhausted => rcases h with h | h | h <;> cases h
  | _ => rfl

/-- Over a healthy storage with every prompt under its own name and with numbers left, every
operation ends without an error of the storage, and every request is answered with no error of the
server. -/
theorem healthy_without_server_errors {st : Storage σ} {contents : σ → Contents}
    (hst : st.Healthy contents) {s : σ} (hc : (contents s).Keyed)
    (hroom : (contents s).Unexhausted) (sizes : Search.PageSizes) :
    (∀ now (op : Operation), op.Faultless (contents s) (op.run sizes st now s).result
      ((op.procedure sizes now).replies st s)) ∧
    ∀ a r, ∃ response, ((serve sizes a r).run st s).result = .ok response ∧
      response.status < 500 := by
  have hfaultless := Operation.run_faultless hst hc hroom sizes
  refine ⟨hfaultless, fun a r => ?_⟩
  cases hserved : ((serve sizes a r).run st s).result with
  | error e =>
    obtain ⟨hfatal, op, -, hresult⟩ := serve_unanswered hserved
    cases hfatal.symm.trans (not_fatal_of_kind ((hfaultless a.now op).kind e hresult))
  | ok response =>
    refine ⟨response, rfl, ?_⟩
    obtain ⟨-, hstatus⟩ | ⟨op, -, hshows⟩ := serve_shows hserved
    · exact hstatus
    generalize hresult : (op.run sizes st a.now s).result = result at hshows
    generalize response.status = status at hshows
    cases hshows with
    | done | created | absent => decide
    | failed => exact status_ofFailure_lt ((hfaultless a.now op).kind _ hresult)
    | notReady hcount =>
      subst hcount
      cases (run_count hst sizes a.now s).symm.trans hresult

theorem healthy_without_server_errors_memory :
    let c : Contents := .put ∅ (.new default ⟨"greeting", by decide⟩ none ∅)
    let r : Request :=
      { method := .get, target := .ofString "/api/v1/prompts/%ff", headers := [], body := [] }
    ((Operation.createPrompt ⟨"greeting", none, ∅⟩).run ⟨20, 100⟩ .memory default c).result =
        .error (.taken (.prompt "greeting")) ∧
      ∃ response, ((serve ⟨20, 100⟩ ⟨default, "id", 0⟩ r).run .memory c).result = .ok response ∧
        response.status < 500 := by
  intro c r
  have hc : c.Keyed := Contents.keyed_empty.put _
  have hroom : c.Unexhausted := Contents.unexhausted_empty.put (by decide)
  have h := healthy_without_server_errors Storage.memory_healthy (s := c) hc hroom ⟨20, 100⟩
  refine ⟨((h.1 default (.createPrompt ⟨"greeting", none, ∅⟩)).taken _).2 ?_, h.2 _ r⟩
  exact ⟨rfl, by decide, rfl, rfl⟩

end PromptRegistry.Http
