import PromptRegistry.Proofs.Http.Responses
import PromptRegistry.Proofs.Registry.Spared

/-!
# What requests change

A request changes something only by a method that is there for it, at an endpoint that writes, and
if its response tells of success. So it is over every storage whose calls take effect or fail,
whatever it keeps and whenever they fail (`serve_changes_nothing`).
-/

namespace PromptRegistry.Http

open Registry (Operation)

namespace Endpoint

def isWriting : Endpoint → Bool
  | .createPrompt | .updatePrompt _ | .deletePrompt _ | .setPromptTag _ _ | .deletePromptTag _ _
  | .createVersion _ | .deleteVersion _ _ | .setVersionTag _ _ _ | .deleteVersionTag _ _ _
  | .setAlias _ _ | .deleteAlias _ _ | .register => true
  | _ => false

theorem isReading_of_operation? {e : Endpoint} (he : e.isWriting = false)
    (h : e.operation? r = some op) : op.isReading = true := by
  cases e with
  | health | live => cases h
  | ready | getPrompt | getAlias =>
    cases h
    rfl
  | searchPrompts | listVersions | getVersion | load =>
    obtain ⟨_, -, h⟩ := Option.bind_eq_some_iff.1 h
    cases h
    rfl
  | formatVersion | format =>
    obtain ⟨_, -, h⟩ := Option.bind_eq_some_iff.1 h
    obtain ⟨_, -, h⟩ := Option.bind_eq_some_iff.1 h
    cases h
    rfl
  | _ => cases he

theorem isWriting_unescaped {e e' : Endpoint} (h : e.unescaped = .ok e') :
    e'.isWriting = e.isWriting := by
  cases e with
  | health | ready | live | searchPrompts | createPrompt | register | load | format =>
    cases h
    rfl
  | getPrompt | updatePrompt | deletePrompt | listVersions | createVersion =>
    obtain ⟨_, -, h⟩ := bind_eq_ok.1 h
    cases h
    rfl
  | setPromptTag | deletePromptTag | getVersion | deleteVersion | formatVersion | getAlias
  | setAlias | deleteAlias =>
    obtain ⟨_, -, h⟩ := bind_eq_ok.1 h
    obtain ⟨_, -, h⟩ := bind_eq_ok.1 h
    cases h
    rfl
  | setVersionTag | deleteVersionTag =>
    obtain ⟨_, -, h⟩ := bind_eq_ok.1 h
    obtain ⟨_, -, h⟩ := bind_eq_ok.1 h
    obtain ⟨_, -, h⟩ := bind_eq_ok.1 h
    cases h
    rfl

end Endpoint

/-- A resource is written to by some methods only, and where something is formatted by none. -/
theorem Resource.isWriting_endpoint? {resource : Resource} (h : resource.endpoint? method = some e)
    (he : e.isWriting = true) :
    (method = .post ∨ method = .patch ∨ method = .put ∨ method = .delete) ∧
      resource ≠ .format ∧ ∀ name version, resource ≠ .versionFormat name version := by
  unfold endpoint? at h
  split at h <;> cases h <;> simp [Endpoint.isWriting] at he ⊢

/-- A request that is there to look: by its method, or because it asks for a formatting. -/
def Request.IsLooking (r : Request) : Prop :=
  r.method = .get ∨ r.method = .head ∨ r.method = .ofString "OPTIONS" ∨
    Resource.ofPath? r.target.path = some .format ∨
    ∃ name version, Resource.ofPath? r.target.path = some (.versionFormat name version)

theorem Request.IsLooking.isReading {r : Request} (hr : r.IsLooking)
    (h : r.operation? = some op) : op.isReading = true := by
  obtain ⟨resource, hresource, h⟩ := Option.bind_eq_some_iff.1 h
  obtain ⟨endpoint, hendpoint, h⟩ := Option.bind_eq_some_iff.1 h
  obtain ⟨unescaped, hunescaped, h⟩ := Option.bind_eq_some_iff.1 h
  refine Endpoint.isReading_of_operation? ?_ h
  rw [Endpoint.isWriting_unescaped (toOption_eq_some.1 hunescaped)]
  by_contra hwriting
  obtain ⟨hmethod, hformat, hversion⟩ :=
    Resource.isWriting_endpoint? hendpoint (Bool.not_eq_false _ ▸ hwriting)
  rcases hr with hr | hr | hr | hr | ⟨name, version, hr⟩
  · simp [hr] at hmethod
  · simp [hr] at hmethod
  · simp [hr, Method.ofString] at hmethod
  · exact hformat (Option.some.inj (hresource.symm.trans hr))
  · exact hversion name version (Option.some.inj (hresource.symm.trans hr))

theorem spared_of_shows {st : Storage σ} {contents : σ → Contents} (hst : st.Atomic contents)
    {s : σ} (h : Shows op (op.run sizes st now s).result status) (hdone : status ≠ 200)
    (hcreated : status ≠ 201) : contents (op.run sizes st now s).state = contents s := by
  generalize hresult : (op.run sizes st now s).result = result at h
  cases h with
  | done => exact absurd rfl hdone
  | created => exact absurd rfl hcreated
  | absent hreading => exact Operation.spared_of_reading hst hreading
  | failed | notReady => exact Operation.spared_of_failure hst hresult

/-- A request is answered, unless its operation ends in something fatal. If it is there to look, is
not answered or answered with another status than 200 and 201, it leaves all prompts as they
were. -/
theorem serve_changes_nothing {st : Storage σ} {contents : σ → Contents} (hst : st.Atomic contents)
    (sizes : Search.PageSizes) (a : Arrival) (r : Request) (s : σ) :
    let o := (serve sizes a r).run st s
    (∀ e, o.result = .error e → e.isFatal = true) ∧
      (r.IsLooking ∨
          (∀ response, o.result = .ok response → response.status ≠ 200 ∧ response.status ≠ 201) →
        contents o.state = contents s) := by
  intro o
  refine ⟨fun e he => (serve_unanswered he).1, fun h => ?_⟩
  show contents ((serve sizes a r).run st s).state = contents s
  rw [(serve_asks sizes a r).state]
  cases hop : r.operation? with
  | none => rfl
  | some op =>
    show contents (op.run sizes st a.now s).state = contents s
    rcases h with hlooking | hstatus
    · exact Operation.spared_of_reading hst (hlooking.isReading hop)
    cases hresult : o.result with
    | error e =>
      obtain ⟨-, op', hop', hfailed⟩ := serve_unanswered hresult
      obtain rfl := Option.some.inj (hop.symm.trans hop')
      exact Operation.spared_of_failure hst hfailed
    | ok response =>
      obtain ⟨hdone, hcreated⟩ := hstatus response hresult
      rcases serve_shows hresult with ⟨hnone, -⟩ | ⟨op', hop', hshows⟩
      · cases hop.symm.trans hnone
      · obtain rfl := Option.some.inj (hop.symm.trans hop')
        exact spared_of_shows hst hshows hdone hcreated

theorem serve_changes_nothing_full :
    let p : Prompt := .new default ⟨"greeting", by decide⟩ none ∅
    let full : Storage Contents :=
      { Storage.memory with update := fun _ c => (.error (.storage "full"), c) }
    let r : Request :=
      { method := .delete, target := .ofString "/api/v1/prompts/greeting/tags/team", headers := [],
        body := [] }
    let o := (serve ⟨20, 100⟩ ⟨default, "id", 0⟩ r).run full (Contents.put ∅ p)
    o.result.map (·.status) = .ok 500 ∧ o.state = Contents.put ∅ p := by
  intro p full r o
  have hfull : full.Atomic id := by
    intro call c
    cases call with
    | update p => exact .inl ⟨_, rfl, rfl⟩
    | _ => exact Storage.memory_atomic _ c
  have hstatus : o.result.map (·.status) = .ok 500 := by decide +kernel
  obtain ⟨-, hkept⟩ :=
    serve_changes_nothing hfull ⟨20, 100⟩ ⟨default, "id", 0⟩ r (Contents.put ∅ p)
  refine ⟨hstatus, hkept (.inr fun response hresponse => ?_)⟩
  change o.result = .ok response at hresponse
  rw [hresponse] at hstatus
  have hserver : response.status = 500 := Except.ok.inj hstatus
  simp [hserver]

end PromptRegistry.Http
