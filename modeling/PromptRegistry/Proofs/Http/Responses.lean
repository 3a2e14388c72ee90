import PromptRegistry.Proofs.Http.Requests
import PromptRegistry.Proofs.Registry.Reading

/-!
# What responses show

Every request is answered, unless the operation that it asks for ends in something fatal. The status
of the response shows how the operation ended, and where the request asks for none, it is not one
for an error of the server (`serve_shows`).
-/

namespace PromptRegistry

open Registry (Operation result_bind)

theorem Procedure.result_attempt (st : Storage σ) (p : Procedure α) (s : σ) :
    (p.attempt.run st s).result = match (p.run st s).result with
      | .ok a => .ok (.ok a)
      | .error e => if e.isFatal then .error e else .ok (.error e) := by
  induction p generalizing s with
  | done r =>
    cases r with
    | ok a => rfl
    | error e =>
      rw [attempt]
      split
      · next h => simp [run, h]
      · next h => simp [run, h]
  | log e next ih => exact ih s
  | call request next ih => exact ih _ _

namespace Http

theorem result_concludeWith (st : Storage σ) (adapt : Problem → Problem) (p : Procedure α)
    (present : α → Response) (s : σ) : ((concludeWith adapt p present).run st s).result =
      match (p.run st s).result with
        | .ok a => .ok (present a)
        | .error e =>
          if e.isFatal then .error e else .ok (adapt (Problem.ofFailure e)).toResponse := by
  rw [concludeWith, result_bind, Procedure.result_attempt]
  generalize (p.run st s).result = result
  cases result with
  | ok a => rfl
  | error e =>
    by_cases hfatal : e.isFatal = true
    · simp only [hfatal, if_true]
      rfl
    · simp only [hfatal]
      show ((if _ then _ else _ : Procedure Response).run st _).result = _
      split
      · rfl
      · rfl

inductive Shows (op : Operation) : Except Failure op.Answer → Nat → Prop
  | done : Shows op (.ok a) 200
  | created : Shows op (.ok a) 201
  | absent (hop : op.isReading = true) : Shows op (.ok a) 404
  | failed : Shows op (.error e) (ProblemKind.ofFailure e.kind).status
  | notReady (hop : op = .count) : Shows op (.error e) 503

/-- The status of a response that a request is answered with, given the operation that it asks
for. -/
def StatusFits (sizes : Search.PageSizes) (now : Timestamp) (st : Storage σ) (s : σ) :
    Option Operation → Nat → Prop
  | some op, status => Shows op (op.run sizes st now s).result status
  | none, status => status < 500

/-- How a request ends, given the operation that it asks for: in a response that fits, or in none if
the operation ends in something fatal. -/
inductive EndFits (sizes : Search.PageSizes) (now : Timestamp) (st : Storage σ) (s : σ)
    (op? : Option Operation) : Except Failure Response → Prop
  | answered (h : StatusFits sizes now st s op? response.status) :
    EndFits sizes now st s op? (.ok response)
  | unanswered (hop : op? = some op) (hresult : (op.run sizes st now s).result = .error e)
    (hfatal : e.isFatal = true) : EndFits sizes now st s op? (.error e)

structure Responds (sizes : Search.PageSizes) (now : Timestamp) (p : Procedure Response)
    (op? : Option Operation) : Prop where
  ends : ∀ {σ : Type} (st : Storage σ) (s : σ), EndFits sizes now st s op? (p.run st s).result

-- ---------------------------------------------------------------------------
-- Rules
-- ---------------------------------------------------------------------------

section
variable {sizes : Search.PageSizes} {now : Timestamp}

theorem Responds.pure {response : Response} (h : response.status < 500) :
    Responds sizes now (Pure.pure response) none :=
  ⟨fun _ _ => .answered h⟩

theorem Responds.emit {p : Procedure Response} (h : Responds sizes now p op?) (e : Event) :
    Responds sizes now (Procedure.emit e >>= fun _ => p) op? :=
  ⟨fun st s => h.ends st s⟩

/-- What comes behind a response may report events and keeps the status. -/
theorem Responds.bind {p : Procedure Response} {f : Response → Procedure Response}
    (h : Responds sizes now p op?) (hf : ∀ response {σ : Type} (st : Storage σ) (s : σ),
      ∃ r, ((f response).run st s).result = .ok r ∧ r.status = response.status) :
    Responds sizes now (p >>= f) op? := by
  refine ⟨fun st s => ?_⟩
  have hends := h.ends st s
  rw [result_bind]
  generalize (p.run st s).result = result at hends
  cases hends with
  | @answered response hfits =>
    obtain ⟨r, hr, hstatus⟩ := hf response st (p.run st s).state
    show EndFits sizes now st s op? ((f response).run st _).result
    rw [hr]
    exact .answered (hstatus.symm ▸ hfits)
  | unanswered hop hresult hfatal => exact .unanswered hop hresult hfatal

theorem Responds.conclude (op : Operation) {adapt : Problem → Problem}
    {present : op.Answer → Response} (hadapt : ∀ problem, (adapt problem).status = problem.status)
    (hpresent : ∀ a, Shows op (.ok a) (present a).status) :
    Responds sizes now (concludeWith adapt (op.procedure sizes now) present) (some op) := by
  refine ⟨fun st s => ?_⟩
  rw [result_concludeWith]
  cases hresult : ((op.procedure sizes now).run st s).result with
  | ok a =>
    refine .answered ?_
    show Shows op ((op.procedure sizes now).run st s).result _
    rw [hresult]
    exact hpresent a
  | error e =>
    show EndFits _ _ _ _ _ (if e.isFatal = true then _ else _)
    split
    · next hfatal => exact .unanswered rfl hresult hfatal
    · refine .answered ?_
      show Shows op ((op.procedure sizes now).run st s).result (adapt (Problem.ofFailure e)).status
      rw [hresult, hadapt]
      exact .failed

theorem Responds.given {read : Except Problem α} {next : α → Procedure Response}
    {op? : α → Option Operation} (hread : ∀ problem, read = .error problem → problem.status < 500)
    (h : ∀ a, Responds sizes now (next a) (op? a)) :
    Responds sizes now (given read next) (read.toOption.bind op?) := by
  cases read with
  | ok a => exact h a
  | error problem => exact .pure (hread problem rfl)

theorem Responds.givenVersion {next : UInt32 → Procedure Response}
    {op? : UInt32 → Option Operation} (h : ∀ v, Responds sizes now (next v) (op? v)) :
    Responds sizes now (givenVersion text next) ((Rules.readVersion text).toOption.bind op?) := by
  unfold Http.givenVersion
  cases Rules.readVersion text with
  | ok v => exact h v
  | error e => exact .pure (show 400 < 500 by decide)

end

theorem status_read {decode : Json.Decode α} {r : Request}
    (h : r.read decode = .error problem) : problem.status < 500 := by
  unfold Request.read at h
  split at h
  · cases h
    decide
  split at h
  · cases h
    decide
  split at h
  · cases h
  · cases h
    decide
  · cases h
    decide

theorem status_readQuery {decode : List (String × String) → Option α} {r : Request}
    (h : r.readQuery decode = .error problem) :
    problem.status < 500 := by
  unfold Request.readQuery at h
  split at h
  · cases h
  · cases h
    decide

theorem Responds.read {sizes : Search.PageSizes} {now : Timestamp} {decode : Json.Decode α}
    {r : Request} {next : α → Procedure Response} {op? : α → Option Operation}
    (h : ∀ a, Responds sizes now (next a) (op? a)) :
    Responds sizes now (Http.given (r.read decode) next) ((r.read decode).toOption.bind op?) :=
  .given (fun _ => status_read) h

theorem Responds.readQuery {sizes : Search.PageSizes} {now : Timestamp}
    {decode : List (String × String) → Option α} {r : Request} {next : α → Procedure Response}
    {op? : α → Option Operation} (h : ∀ a, Responds sizes now (next a) (op? a)) :
    Responds sizes now (Http.given (r.readQuery decode) next)
      ((r.readQuery decode).toOption.bind op?) :=
  .given (fun _ => status_readQuery) h

-- ---------------------------------------------------------------------------
-- Requests
-- ---------------------------------------------------------------------------

theorem shows_foundOr {op : Operation} (hop : op.isReading = true) {a : op.Answer}
    (missing : Missing) (found : Option Details) :
    Shows op (.ok a) (foundOr missing found).status := by
  cases found with
  | none => exact .absent hop
  | some d => exact .done

theorem checkReadiness_responds (sizes : Search.PageSizes) (now : Timestamp) (elapsed : Nat) :
    Responds sizes now (checkReadiness elapsed) (some .count) := by
  refine ⟨fun st s => ?_⟩
  rw [checkReadiness, result_bind, Procedure.result_attempt]
  cases hcount : (Registry.count.run st s).result with
  | ok n =>
    refine .answered (?_ : Shows .count (Registry.count.run st s).result 200)
    rw [hcount]
    exact .done
  | error e =>
    by_cases hfatal : e.isFatal = true
    · simp only [hfatal, if_true]
      exact .unanswered rfl hcount hfatal
    · simp only [hfatal]
      refine .answered (?_ : Shows .count (Registry.count.run st s).result 503)
      rw [hcount]
      exact .notReady rfl

theorem answer_responds (sizes : Search.PageSizes) (a : Arrival) (r : Request) (e : Endpoint) :
    Responds sizes a.now (answer sizes a r e) (e.operation? r) := by
  have hsame (problem : Problem) : (id problem).status = problem.status := rfl
  cases e with
  | health => exact .pure (show 200 < 500 by decide)
  | live => exact .pure (show 200 < 500 by decide)
  | ready => exact checkReadiness_responds sizes a.now a.elapsed
  | searchPrompts =>
    exact .readQuery fun q => .emit (.conclude (.searchPrompts q) hsame fun _ => .done) _
  | createPrompt =>
    exact .read fun d => .emit (.conclude (.createPrompt d) hsame fun _ => .created) _
  | getPrompt name => exact .conclude (.requirePrompt name) hsame fun _ => .done
  | updatePrompt name =>
    exact .read fun text => .conclude (.updatePrompt name text) hsame fun _ => .done
  | deletePrompt name => exact .conclude (.deletePrompt name) hsame fun _ => .done
  | setPromptTag name key =>
    exact .read fun value => .conclude (.setPromptTag name key value) hsame fun _ => .done
  | deletePromptTag name key => exact .conclude (.deletePromptTag name key) hsame fun _ => .done
  | listVersions name =>
    exact .readQuery fun q =>
      .emit (.conclude (.searchVersions name q.1 q.2) hsame fun _ => .done) _
  | createVersion name =>
    exact .read fun d => .conclude (.createVersion name d) hsame fun _ => .created
  | getVersion name version =>
    exact .givenVersion fun v =>
      .conclude (.getVersion name v) hsame fun found => shows_foundOr rfl _ found
  | deleteVersion name version =>
    exact .givenVersion fun v => .conclude (.deleteVersion name v) hsame fun _ => .done
  | setVersionTag name version key =>
    exact .read fun value => .givenVersion fun v =>
      .conclude (.setVersionTag name v key value) hsame fun _ => .done
  | deleteVersionTag name version key =>
    exact .givenVersion fun v => .conclude (.deleteVersionTag name v key) hsame fun _ => .done
  | formatVersion name version =>
    exact .read fun input => .givenVersion fun v =>
      .conclude (.formatVersion name v input.values input.allowPartial) hsame fun _ => .done
  | getAlias name aliasName =>
    exact .conclude (.getByAlias name aliasName) hsame fun found => shows_foundOr rfl _ found
  | setAlias name aliasName =>
    exact .read fun v => .conclude (.setAlias name aliasName v) hsame fun _ => .done
  | deleteAlias name aliasName =>
    exact .conclude (.deleteAlias name aliasName) hsame fun _ => .done
  | register =>
    exact .read fun reg => .emit (.conclude (.register reg) hsame fun _ => .created) _
  | load => exact .readQuery fun uri => .conclude (.load uri) (fun _ => rfl) fun _ => .done
  | format =>
    refine .read fun input => ?_
    cases input.uri with
    | none => exact .pure (show 400 < 500 by decide)
    | some uri =>
      exact .conclude (.format uri input.values input.allowPartial) hsame fun _ => .done

theorem serve_responds (sizes : Search.PageSizes) (a : Arrival) (r : Request) :
    Responds sizes a.now (serve sizes a r) r.operation? := by
  have hhead (response : Response) {σ : Type} (st : Storage σ) (s : σ) :
      ∃ shown, ((pure (if r.method = .head then response.withoutBody else response) :
        Procedure Response).run st s).result = .ok shown ∧ shown.status = response.status := by
    refine ⟨_, rfl, ?_⟩
    split
    · rfl
    · rfl
  have hdispatch : Responds sizes a.now (dispatch sizes a (Resource.ofPath? r.target.path) r)
      r.operation? := by
    unfold dispatch Request.operation?
    cases Resource.ofPath? r.target.path with
    | none => exact .pure (show 404 < 500 by decide)
    | some resource =>
      cases hendpoint : resource.endpoint? r.method with
      | none =>
        simp only [hendpoint, Option.bind_eq_bind, Option.bind_some, Option.bind_none]
        exact .pure (show 405 < 500 by decide)
      | some endpoint =>
        simp only [hendpoint, Option.bind_eq_bind, Option.bind_some]
        cases endpoint.unescaped with
        | error name => exact .bind (.pure (show 400 < 500 by decide)) hhead
        | ok endpoint => exact .bind (answer_responds sizes a r endpoint) hhead
  refine .emit (.bind hdispatch fun response _ st s => ?_) _
  exact ⟨response.secured.setHeader requestIdHeader (r.id?.getD a.freshId), rfl, rfl⟩

/-- A response shows how the operation of its request ended, if there is one. -/
theorem serve_shows {st : Storage σ} {s : σ} {a : Arrival} {r : Request}
    (h : ((serve sizes a r).run st s).result = .ok response) :
    (r.operation? = none ∧ response.status < 500) ∨
      ∃ op, r.operation? = some op ∧
        Shows op (op.run sizes st a.now s).result response.status := by
  have hends := (serve_responds sizes a r).ends st s
  rw [h] at hends
  cases hends with
  | answered hfits =>
    cases hop : r.operation? with
    | none =>
      rw [hop] at hfits
      exact .inl ⟨rfl, hfits⟩
    | some op =>
      rw [hop] at hfits
      exact .inr ⟨op, rfl, hfits⟩

/-- A request is not answered only if its operation ended in something fatal. -/
theorem serve_unanswered {st : Storage σ} {s : σ} {a : Arrival} {r : Request}
    (h : ((serve sizes a r).run st s).result = .error e) :
    e.isFatal = true ∧
      ∃ op, r.operation? = some op ∧ (op.run sizes st a.now s).result = .error e := by
  have hends := (serve_responds sizes a r).ends st s
  rw [h] at hends
  cases hends with
  | unanswered hop hresult hfatal => exact ⟨hfatal, _, hop, hresult⟩

end Http

end PromptRegistry
