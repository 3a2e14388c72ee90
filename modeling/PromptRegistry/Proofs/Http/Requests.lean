import PromptRegistry.Http.Service
import PromptRegistry.Proofs.Registry.History

/-!
# What requests ask for

A request asks for one operation of the registry at most (`Request.operation?`), and whatever else
serving it does, the storage is left as that operation leaves it (`serve_asks`). So a storage that
requests were served from went through a history of what they asked for (`run_serveAll`).
-/

namespace PromptRegistry

open Registry (Operation Exchange Run)

theorem Procedure.state_attempt (st : Storage σ) (p : Procedure α) (s : σ) :
    (p.attempt.run st s).state = (p.run st s).state := by
  induction p generalizing s with
  | done r =>
    cases r with
    | ok a => rfl
    | error e =>
      rw [attempt]
      split <;> rfl
  | log e next ih => exact ih s
  | call request next ih => exact ih _ _

theorem Procedure.state_bind (st : Storage σ) (p : Procedure α) (f : α → Procedure β) (s : σ) :
    ((p >>= f).run st s).state = match (p.run st s).result with
      | .ok a => ((f a).run st (p.run st s).state).state
      | .error _ => (p.run st s).state := by
  show ((Procedure.bind f p).run st s).state = _
  induction p generalizing s with
  | done r => cases r <;> rfl
  | log e next ih => exact ih s
  | call request next ih => exact ih _ _

namespace Http

-- ---------------------------------------------------------------------------
-- Operations of endpoints
-- ---------------------------------------------------------------------------

/-- The operation that a request asks for at an endpoint, if it can be read. -/
def Endpoint.operation? (r : Request) : Endpoint → Option Operation
  | .health | .live => none
  | .ready => some .count
  | .searchPrompts => do return .searchPrompts (← (r.readQuery searchQuery?).toOption)
  | .createPrompt => do return .createPrompt (← (r.read decodePromptDraft).toOption)
  | .getPrompt name => some (.requirePrompt name)
  | .updatePrompt name => do return .updatePrompt name (← (r.read decodeDescription).toOption)
  | .deletePrompt name => some (.deletePrompt name)
  | .setPromptTag name key => do
    return .setPromptTag name key (← (r.read decodeTagValue).toOption)
  | .deletePromptTag name key => some (.deletePromptTag name key)
  | .listVersions name => do
    let (size, token) ← (r.readQuery listingQuery?).toOption
    return .searchVersions name size token
  | .createVersion name => do return .createVersion name (← (r.read decodeNewVersion).toOption)
  | .getVersion name version => do
    return .getVersion name (← (Rules.readVersion version).toOption)
  | .deleteVersion name version => do
    return .deleteVersion name (← (Rules.readVersion version).toOption)
  | .setVersionTag name version key => do
    let value ← (r.read decodeTagValue).toOption
    return .setVersionTag name (← (Rules.readVersion version).toOption) key value
  | .deleteVersionTag name version key => do
    return .deleteVersionTag name (← (Rules.readVersion version).toOption) key
  | .formatVersion name version => do
    let input ← (r.read decodeFormatInput).toOption
    let v ← (Rules.readVersion version).toOption
    return .formatVersion name v input.values input.allowPartial
  | .getAlias name aliasName => some (.getByAlias name aliasName)
  | .setAlias name aliasName => do
    return .setAlias name aliasName (← (r.read decodeAliasTarget).toOption)
  | .deleteAlias name aliasName => some (.deleteAlias name aliasName)
  | .register => do return .register (← (r.read decodeRegistration).toOption)
  | .load => do return .load (← (r.readQuery addressQuery?).toOption)
  | .format => do
    let input ← (r.read decodeFormatInput).toOption
    return .format (← input.uri) input.values input.allowPartial

def Request.operation? (r : Request) : Option Operation := do
  let resource ← Resource.ofPath? r.target.path
  let endpoint ← resource.endpoint? r.method
  (← endpoint.unescaped.toOption).operation? r

theorem Request.operation?_register {r : Request} (hmethod : r.method = .post)
    (hpath : Resource.ofPath? r.target.path = some .register)
    (hread : r.read decodeRegistration = .ok reg) : r.operation? = some (.register reg) := by
  rw [operation?, hpath, hmethod]
  show (r.read decodeRegistration).toOption.bind _ = _
  rw [hread]
  rfl

/-- A procedure leaves any storage as the operation leaves it, or as it is if there is none. -/
structure Asks (sizes : Search.PageSizes) (now : Timestamp) (p : Procedure α)
    (op? : Option Operation) : Prop where
  state : ∀ {σ : Type} (st : Storage σ) (s : σ),
    (p.run st s).state = op?.elim s fun op => (op.run sizes st now s).state

section
variable {sizes : Search.PageSizes} {now : Timestamp}

theorem Asks.pure (a : α) : Asks sizes now (Pure.pure a) none := ⟨fun _ _ => rfl⟩

theorem Asks.emit {p : Procedure α} (h : Asks sizes now p op?) (e : Event) :
    Asks sizes now (Procedure.emit e >>= fun _ => p) op? :=
  ⟨fun st s => h.state st s⟩

/-- What comes behind the operation does not ask for another. -/
theorem Asks.bind {p : Procedure α} {f : α → Procedure β} (h : Asks sizes now p op?)
    (hf : ∀ a, Asks sizes now (f a) none) : Asks sizes now (p >>= f) op? := by
  refine ⟨fun st s => ?_⟩
  rw [Procedure.state_bind]
  split
  · exact ((hf _).state st _).trans (h.state st s)
  · exact h.state st s

theorem Asks.attempt (op : Operation) :
    Asks sizes now (op.procedure sizes now).attempt (some op) :=
  ⟨fun st s => Procedure.state_attempt st _ s⟩

theorem Asks.conclude (op : Operation) (adapt : Problem → Problem)
    (present : op.Answer → Response) :
    Asks sizes now (concludeWith adapt (op.procedure sizes now) present) (some op) := by
  refine .bind (.attempt op) fun result => ?_
  cases result with
  | ok a => exact .pure _
  | error e =>
    show Asks sizes now (if _ then _ else _) none
    split
    · exact .emit (.pure _) _
    · exact .pure _

theorem Asks.given {read : Except Problem α} {next : α → Procedure Response}
    {op? : α → Option Operation} (h : ∀ a, Asks sizes now (next a) (op? a)) :
    Asks sizes now (given read next) (read.toOption.bind op?) := by
  cases read with
  | ok a => exact h a
  | error problem => exact .pure _

theorem Asks.givenVersion {next : UInt32 → Procedure Response} {op? : UInt32 → Option Operation}
    (h : ∀ v, Asks sizes now (next v) (op? v)) :
    Asks sizes now (givenVersion text next) ((Rules.readVersion text).toOption.bind op?) := by
  unfold Http.givenVersion
  cases Rules.readVersion text with
  | ok v => exact h v
  | error e => exact .pure _

end

-- ---------------------------------------------------------------------------
-- Requests
-- ---------------------------------------------------------------------------

theorem answer_asks (sizes : Search.PageSizes) (a : Arrival) (r : Request) (e : Endpoint) :
    Asks sizes a.now (answer sizes a r e) (e.operation? r) := by
  cases e with
  | health => exact .pure _
  | live => exact .pure _
  | ready =>
    refine .bind (.attempt .count) fun count => ?_
    cases count with
    | ok n => exact .pure _
    | error e => exact .emit (.pure _) _
  | searchPrompts => exact .given fun q => .emit (.conclude (.searchPrompts q) _ _) _
  | createPrompt => exact .given fun d => .emit (.conclude (.createPrompt d) _ _) _
  | getPrompt name => exact .conclude (.requirePrompt name) _ _
  | updatePrompt name => exact .given fun text => .conclude (.updatePrompt name text) _ _
  | deletePrompt name => exact .conclude (.deletePrompt name) _ _
  | setPromptTag name key => exact .given fun value => .conclude (.setPromptTag name key value) _ _
  | deletePromptTag name key => exact .conclude (.deletePromptTag name key) _ _
  | listVersions name =>
    exact .given fun q => .emit (.conclude (.searchVersions name q.1 q.2) _ _) _
  | createVersion name => exact .given fun d => .conclude (.createVersion name d) _ _
  | getVersion name version => exact .givenVersion fun v => .conclude (.getVersion name v) _ _
  | deleteVersion name version =>
    exact .givenVersion fun v => .conclude (.deleteVersion name v) _ _
  | setVersionTag name version key =>
    exact .given fun value => .givenVersion fun v =>
      .conclude (.setVersionTag name v key value) _ _
  | deleteVersionTag name version key =>
    exact .givenVersion fun v => .conclude (.deleteVersionTag name v key) _ _
  | formatVersion name version =>
    exact .given fun input => .givenVersion fun v =>
      .conclude (.formatVersion name v input.values input.allowPartial) _ _
  | getAlias name aliasName => exact .conclude (.getByAlias name aliasName) _ _
  | setAlias name aliasName => exact .given fun v => .conclude (.setAlias name aliasName v) _ _
  | deleteAlias name aliasName => exact .conclude (.deleteAlias name aliasName) _ _
  | register => exact .given fun reg => .emit (.conclude (.register reg) _ _) _
  | load => exact .given fun uri => .conclude (.load uri) _ _
  | format =>
    refine .given fun input => ?_
    cases input.uri with
    | none => exact .pure _
    | some uri => exact .conclude (.format uri input.values input.allowPartial) _ _

theorem serve_asks (sizes : Search.PageSizes) (a : Arrival) (r : Request) :
    Asks sizes a.now (serve sizes a r) r.operation? := by
  have hdispatch : Asks sizes a.now (dispatch sizes a (Resource.ofPath? r.target.path) r)
      r.operation? := by
    unfold dispatch Request.operation?
    cases Resource.ofPath? r.target.path with
    | none => exact .pure _
    | some resource =>
      cases hendpoint : resource.endpoint? r.method with
      | none =>
        simp only [hendpoint, Option.bind_eq_bind, Option.bind_some, Option.bind_none]
        exact .pure _
      | some endpoint =>
        simp only [hendpoint, Option.bind_eq_bind, Option.bind_some]
        cases endpoint.unescaped with
        | error name => exact .bind (.pure _) fun response => .pure _
        | ok endpoint => exact .bind (answer_asks sizes a r endpoint) fun response => .pure _
  exact .emit (.bind hdispatch fun response => .emit (.pure _) _) _

def serveAll (sizes : Search.PageSizes) (st : Storage σ) (requests : List (Arrival × Request))
    (s : σ) : σ :=
  requests.foldl (fun s r => ((serve sizes r.1 r.2).run st s).state) s

/-- The exchange is what one of the requests asked for when it arrived. -/
def AskedBy (requests : List (Arrival × Request)) (x : Exchange) : Prop :=
  ∃ r ∈ requests, r.1.now = x.time ∧ r.2.operation? = some x.op

theorem run_serveAll (sizes : Search.PageSizes) (st : Storage σ) (s₀ : σ)
    (requests : List (Arrival × Request)) :
    ∃ xs, Run sizes st s₀ xs (serveAll sizes st requests s₀) ∧ ∀ x ∈ xs, AskedBy requests x := by
  induction requests using List.reverseRecOn with
  | nil => exact ⟨[], .start, by simp⟩
  | append_singleton requests request ih =>
    obtain ⟨xs, hrun, hxs⟩ := ih
    have hmono : ∀ x ∈ xs, AskedBy (requests ++ [request]) x := by
      intro x hx
      obtain ⟨r, hr, hasked⟩ := hxs x hx
      exact ⟨r, List.mem_append_left _ hr, hasked⟩
    have hstate : serveAll sizes st (requests ++ [request]) s₀ =
        ((serve sizes request.1 request.2).run st (serveAll sizes st requests s₀)).state := by
      simp only [serveAll, List.foldl_append, List.foldl_cons, List.foldl_nil]
    rw [hstate, (serve_asks sizes request.1 request.2).state st]
    cases hop : request.2.operation? with
    | none => exact ⟨xs, hrun, hmono⟩
    | some op =>
      refine ⟨_, hrun.next request.1.now op, List.forall_mem_append.2 ⟨hmono, ?_⟩⟩
      exact List.forall_mem_singleton.2
        ⟨request, List.mem_append_right _ (List.mem_singleton.2 rfl), rfl, hop⟩

end Http

end PromptRegistry
