import PromptRegistry.Proofs.Document.ReadsBack
import PromptRegistry.Proofs.Http.Bodies
import PromptRegistry.Proofs.Http.Requests
import PromptRegistry.Proofs.Registry.Evaluation
import PromptRegistry.Proofs.Registry.Provenance

/-!
# What requests store

What a request stores was read from its body, in fewer containers than there are around it in the
document of a prompt. So a response format with 125 or 126 levels is accepted, and the document that
holds it is not: of the prompts that are stored, those are read from their documents whose response
formats have 124 levels at most and legible numbers (`stored_decode_iff`).
-/

namespace PromptRegistry.Http

open Json (Decode Fits)
open Registry (Operation Registration)

theorem Request.read_eq_ok {r : Request} {decode : Decode α} (h : r.read decode = .ok a) :
    ∃ text, decode.run text = .ok a := by
  unfold Request.read at h
  split at h
  · cases h
  split at h
  · cases h
  split at h
  · next hrun =>
    cases h
    exact ⟨_, hrun⟩
  · cases h
  · cases h

theorem Endpoint.format_operation? {r : Request} {e : Endpoint} (h : e.operation? r = some op)
    (hf : op.format? = some f) : f ≠ .null ∧ Fits 126 f := by
  cases e with
  | createVersion =>
    obtain ⟨d, hd, hop⟩ := Option.bind_eq_some_iff.1 h
    cases hop
    obtain ⟨text, hrun⟩ := Request.read_eq_ok (toOption_eq_some.1 hd)
    exact decodeNewVersion_eq_ok hrun f hf
  | register =>
    obtain ⟨d, hd, hop⟩ := Option.bind_eq_some_iff.1 h
    cases hop
    obtain ⟨text, hrun⟩ := Request.read_eq_ok (toOption_eq_some.1 hd)
    exact decodeRegistration_eq_ok hrun f hf
  -- the other operations bring no response format
  | health | live => cases h
  | ready | getPrompt | deletePrompt | deletePromptTag | getAlias | deleteAlias =>
    cases h
    cases hf
  | searchPrompts | createPrompt | updatePrompt | setPromptTag | listVersions | getVersion
  | deleteVersion | deleteVersionTag | setAlias | load =>
    obtain ⟨_, -, hop⟩ := Option.bind_eq_some_iff.1 h
    cases hop
    cases hf
  | setVersionTag | formatVersion | format =>
    obtain ⟨_, -, h⟩ := Option.bind_eq_some_iff.1 h
    obtain ⟨_, -, hop⟩ := Option.bind_eq_some_iff.1 h
    cases hop
    cases hf

theorem Request.format_operation? {r : Request} (h : r.operation? = some op)
    (hf : op.format? = some f) : f ≠ .null ∧ Fits 126 f := by
  simp only [operation?, Option.bind_eq_bind, Option.bind_eq_some_iff] at h
  obtain ⟨_, -, _, -, _, -, h⟩ := h
  exact Endpoint.format_operation? h hf

section
variable {st : Storage σ} {contents : σ → Contents} {requests : List (Arrival × Request)}

theorem stored_madeOf (hst : st.Atomic contents) (hempty : contents s₀ = ∅)
    (hclock : ∀ r ∈ requests, r.1.now.Valid)
    (hp : (contents (serveAll sizes st requests s₀)).get? name = some p) :
    p.MadeOf Timestamp.Valid fun f => f ≠ .null ∧ Fits 126 f := by
  obtain ⟨xs, hrun, hxs⟩ := run_serveAll sizes st s₀ requests
  refine hrun.madeOf hst hempty (fun x hx => ?_) name p hp
  obtain ⟨r, hr, htime, hop⟩ := hxs x hx
  exact ⟨htime ▸ hclock r hr, fun f hf => Request.format_operation? hop hf⟩

theorem stored_decode_iff (hst : st.Atomic contents) (hempty : contents s₀ = ∅)
    (hclock : ∀ r ∈ requests, r.1.now.Valid)
    (hp : (contents (serveAll sizes st requests s₀)).get? name = some p) :
    (∀ v ∈ p.versions, ∀ f, v.responseFormat = some f → f.depth ≤ 126) ∧
      (Prompt.decode.runString p.toJson.render = .ok p ↔
        ∀ v ∈ p.versions, ∀ f, v.responseFormat = some f → f.depth ≤ 124 ∧ f.Legible) := by
  have hmade := stored_madeOf hst hempty hclock hp
  refine ⟨fun v hv f hf => ((hmade.versions v hv).format f hf).2.depth_le, ?_⟩
  rw [Prompt.decode_render_iff hmade]
  constructor
  · intro h v hv f hf
    exact ⟨(h v hv f hf).1.fits.depth_le, (h v hv f hf).2⟩
  · intro h v hv f hf
    obtain ⟨hnull, hfits⟩ := (hmade.versions v hv).format f hf
    exact ⟨⟨hnull, hfits.ordered, (h v hv f hf).1⟩, (h v hv f hf).2⟩

end

-- ---------------------------------------------------------------------------
-- A response format that is nested too deeply
-- ---------------------------------------------------------------------------

theorem get?_serveAll_register {a : Arrival} {r : Request} {reg : Registration} {name : PromptName}
    (hop : r.operation? = some (.register reg)) (hcheck : reg.check = .ok name) :
    let p := reg.base a.now name none
    (serveAll sizes .memory [(a, r)] ∅).get? reg.name =
      some (p.append a.now (p.newVersion a.now 1 reg.version)) := by
  intro p
  have hstate : serveAll sizes .memory [(a, r)] ∅ = ((Registry.register a.now reg).eval ∅).2 := by
    have hserve := (serve_asks sizes a r).state .memory ∅
    rw [hop] at hserve
    exact hserve
  have hname : name.text = reg.name := by
    simp only [Registration.check, bind_eq_ok, mapError_eq_ok] at hcheck
    obtain ⟨n, hn, _, -, _, -, hcheck⟩ := hcheck
    cases hcheck
    exact PromptName.ofString_eq_ok hn
  have hbase : p.name = name := reg.base_name nofun
  have hzero : p.lastVersion = 0 :=
    congrArg Core.lastVersion (Prompt.setTags_sameCore a.now reg.promptTags.entries _).core
  have hadd := Prompt.addVersion?_first hzero a.now reg.version
  rw [hstate, Registry.eval_register Contents.keyed_empty, hcheck]
  show (Registry.adding a.now reg.version p ∅ ∅).2.get? reg.name = _
  rw [Registry.adding, hadd]
  exact Contents.get?_put_self ((congrArg PromptName.text hbase).trans hname)

theorem length_chars_nestedObjects (n : Nat) :
    (Json.nestedObjects n).chars.length = 6 * n + 2 := by
  induction n with
  | zero => rfl
  | succ n ih =>
    have hname : (Json.stringChars "a").length = 3 := by decide
    simp only [Json.nestedObjects, Json.chars, Json.memberChars, List.length_cons,
      List.length_append, List.length_nil, hname, ih]
    omega

/-- A response format with 125 levels is stored, and not read from the document. -/
theorem stored_decode_iff_nested :
    let request : Request :=
      { method := .post, target := .ofString "/api/v1/register",
        headers := [("content-type", "application/json")],
        body := Text.Utf8.encode (registrationBody "p" "x" (Json.nestedObjects 124)).render }
    ∃ p, (serveAll ⟨20, 100⟩ .memory [(⟨⟨0, 0⟩, "id", 0⟩, request)] ∅).get? "p" = some p ∧
      Prompt.decode.runString p.toJson.render ≠ .ok p := by
  intro request
  let reg : Registration := ⟨"p", ⟨.text "x", none, ∅, some (Json.nestedObjects 124)⟩, none, ∅⟩
  have hread : request.read decodeRegistration = .ok reg := by
    have hfits : Fits 126 (Json.nestedObjects 124) :=
      ⟨Json.ordered_nestedObjects 124, by rw [Json.depth_nestedObjects]; decide⟩
    have hlegible : (registrationBody "p" "x" (Json.nestedObjects 124)).Legible :=
      ⟨trivial, trivial, Json.legible_nestedObjects 124, trivial⟩
    have hsize : request.body.length ≤ greatestBody := by
      refine Nat.le_trans (Text.Utf8.length_encode_le _) ?_
      rw [Json.render, String.toList_ofList, length_registrationBody, length_chars_nestedObjects]
      decide
    have hnull := Json.nestedObjects_ne_null 124
    exact Request.read_render rfl rfl hsize hlegible (decodeRegistration_body "p" "x" hnull hfits)
  have hcheck : reg.check = .ok ⟨"p", rfl⟩ := by
    have hname : PromptName.ofString reg.name = .ok ⟨"p", rfl⟩ :=
      PromptName.ofString_text ⟨"p", rfl⟩
    rw [Registration.check, hname]
    rfl
  have hop : request.operation? = some (.register reg) := Request.operation?_register rfl rfl hread
  have hstored : (serveAll ⟨20, 100⟩ .memory [(⟨⟨0, 0⟩, "id", 0⟩, request)] ∅).get? "p" = some _ :=
    get?_serveAll_register hop hcheck
  -- the contents of the storage in memory are its state, by an equation and not by running it
  rw [← id_eq (serveAll ..)] at hstored
  have hclock : Timestamp.Valid ⟨0, 0⟩ := ⟨by decide, by decide⟩
  have hiff := (stored_decode_iff Storage.memory_atomic rfl
    (List.forall_mem_singleton.2 hclock) hstored).2
  rw [id_eq] at hstored
  refine ⟨_, hstored, fun hback => ?_⟩
  have hdepth := (hiff.1 hback _ (List.mem_singleton.2 rfl) (Json.nestedObjects 124) rfl).1
  rw [Json.depth_nestedObjects] at hdepth
  exact absurd hdepth (by decide)

end PromptRegistry.Http
