import PromptRegistry.Http.Input
import PromptRegistry.Proofs.Json.Decode
import PromptRegistry.Proofs.Text.Utf8

/-!
# What bodies hold

The response format that a body brings, be it of a version or of a registration, is not null, has
its objects in order and is nested no deeper than 126 levels (`decodeNewVersion_eq_ok`,
`decodeRegistration_eq_ok`): the reader enters 127 containers, and one of them is the body. Every
response format of that kind can be brought (`decodeRegistration_body`).
-/

namespace PromptRegistry.Http

open Json (Decode Draft Fits)

namespace VersionFields

theorem keeps_format (room : Nat) : record.Keeps room fun st =>
    ∀ f, st.responseFormat = some f → f ≠ .null ∧ Fits room f := by
  intro st name d st' hst hput
  simp only [record] at hput
  -- the fourth field is the response format, and the last case is no field
  split at hput
  case h_4 =>
    simp only [Option.some.injEq, map_eq_ok] at hput
    obtain ⟨o, ho, rfl⟩ := hput
    rintro f rfl
    exact Decode.nullable_json_eq_some ho
  case h_5 => cases hput
  all_goals
    simp only [Option.some.injEq, map_eq_ok] at hput
    obtain ⟨_, -, rfl⟩ := hput
    exact hst

theorem responseFormat_build {st : VersionFields} (h : st.build = some d) :
    d.responseFormat = st.responseFormat := by
  obtain ⟨_, -, rfl⟩ := Option.map_eq_some_iff.1 h
  rfl

end VersionFields

theorem decodeNewVersion_eq_ok {text : List (Option Char)} (h : decodeNewVersion.run text = .ok d) :
    ∀ f, d.responseFormat = some f → f ≠ .null ∧ Fits 126 f := by
  obtain ⟨draft, h⟩ := Decode.run_eq_ok h
  obtain ⟨st, hst, hbuild⟩ := Decode.record_eq_ok h nofun (VersionFields.keeps_format 126)
  rw [VersionFields.responseFormat_build hbuild]
  exact hst

theorem decodeRegistration_eq_ok {text : List (Option Char)}
    (h : decodeRegistration.run text = .ok r) :
    ∀ f, r.version.responseFormat = some f → f ≠ .null ∧ Fits 126 f := by
  obtain ⟨draft, h⟩ := Decode.run_eq_ok h
  cases draft with
  | object ms closed =>
    have h : decodeRegistration (126 + 1) (.object ms closed) = .ok r := h
    simp only [decodeRegistration, bind_eq_ok, ite_error_eq_ok] at h
    obtain ⟨st, -, -, version, hversion, h⟩ := h
    split at h
    · next hbuild =>
      cases h
      have hstart : ∀ f, ({} : VersionFields).responseFormat = some f → f ≠ .null ∧ Fits 126 f := by
        intro f hf
        cases hf
      rw [VersionFields.responseFormat_build hbuild]
      exact (VersionFields.keeps_format 126).readMembers hstart hversion
    · cases h
  | _ => cases h

theorem Request.read_render {r : Request} {v : Json} {decode : Decode α} (hjson : r.hasJson = true)
    (hbody : r.body = Text.Utf8.encode v.render) (hsize : r.body.length ≤ greatestBody)
    (hv : v.Legible) (h : decode Decode.greatestDepth v.draft = .ok a) : r.read decode = .ok a := by
  have hrun : decode.run (Text.Utf8.decode r.body) = .ok a := by
    rw [hbody, Text.Utf8.decode_encode]
    exact Decode.runString_render hv h
  simp [Request.read, hjson, Nat.not_lt.2 hsize, hrun]

def registrationBody (name content : String) (format : Json) : Json :=
  .object [("name", .string name), ("template", .string content), ("response_format", format)]

theorem length_registrationBody (name content : String) (f : Json) :
    (registrationBody name content f).chars.length =
      (Json.stringChars name).length + (Json.stringChars content).length + f.chars.length + 40 := by
  have hfields : (Json.stringChars "name").length = 6 ∧ (Json.stringChars "template").length = 10 ∧
      (Json.stringChars "response_format").length = 17 := by decide
  simp only [registrationBody, Json.chars, Json.memberChars, List.length_append, List.length_cons,
    List.length_nil]
  omega

/-- Any response format that fits into a body is read from there. -/
theorem decodeRegistration_body (name content : String) {f : Json} (hnull : f ≠ .null)
    (hf : Fits 126 f) : decodeRegistration 127 (registrationBody name content f).draft =
      .ok ⟨name, ⟨.text content, none, ∅, some f⟩, none, ∅⟩ := by
  have hfields : RegistrationFields.readMembers 126 [] {}
      [(some "name", .string (some name)), (some "template", .string (some content)),
        (some "response_format", f.draft)] =
      .ok { name := some name, others :=
        [(some "response_format", f.draft), (some "template", .string (some content))] } := by
    have hcontent : Decode.json 126 (.string (some content)) = .ok (.string content) := rfl
    simp [RegistrationFields.readMembers, RegistrationFields.put, Decode.string, Except.map,
      hcontent, Decode.json_draft hf]
  have hversion : VersionFields.record.readMembers 126 [] {}
      [(some "template", .string (some content)), (some "response_format", f.draft)] =
      .ok { template := some (.text content), responseFormat := some f } := by
    have hformat := Decode.nullable_json_draft hnull hf
    have htakes : VersionFields.record.Takes 126 [] {}
        [(some "template", .string (some content)), (some "response_format", f.draft)]
        { template := some (.text content), responseFormat := some f } :=
      .field (by decide) rfl <| .field (by decide) (congrArg (some ∘ Except.map _) hformat) .nil
    exact htakes [] (List.Subset.refl _)
  refine bind_eq_ok.2 ⟨_, hfields, bind_eq_ok.2 ⟨_, hversion, rfl⟩⟩

end PromptRegistry.Http
