import PromptRegistry.Proofs.Document.Lossless
import PromptRegistry.Proofs.Json.ReadsBack
import PromptRegistry.Proofs.Prompt.Provenance
import PromptRegistry.Proofs.Time.Timestamp

/-!
# Prompts that their documents give back

The document of a prompt whose times are those of a clock is read as the prompt exactly when its
response formats are ones that documents hold and their numbers are legible
(`Prompt.decode_render_iff`).
-/

namespace PromptRegistry

open Json (Decode)

namespace Version

theorem responseFormat_field :
    record.Field room "response_format" (·.responseFormat) (Decode.nullable Decode.json) where
  isField := nofun
  put st field d st' hput := by
    simp only [record] at hput
    split at hput <;> first
      | cases hput
      | simp only [Option.some.injEq, map_eq_ok] at hput
        obtain ⟨v, hv, rfl⟩ := hput
        simp [hv]

theorem legible_of_decode {v : Version} (h : Version.decode 125 v.toJson.reread = .ok v)
    (hf : v.responseFormat = some f) : f.Legible := by
  obtain ⟨st, hread, hbuild⟩ := Decode.record_object_eq_ok h
  have hst : st.responseFormat = some f := by
    simp only [Option.bind_eq_bind, Option.bind_eq_some_iff, Option.some.injEq] at hbuild
    obtain ⟨_, -, _, -, _, -, _, -, _, -, rfl⟩ := hbuild
    exact hf
  have hformat : Decode.nullable Decode.json 124 f.reread = .ok st.responseFormat := by
    refine responseFormat_field.readMembers
      (Json.mem_rereadMembers (m := ("response_format", f)) ?_) hread
    simp [Json.optional, hf]
  have hnull : f.reread ≠ .null := by
    intro hnull
    rw [hnull, hst] at hformat
    cases hformat
  rw [Decode.nullable_eq_map hnull, hst, map_eq_ok] at hformat
  obtain ⟨g, hg, hgf⟩ := hformat
  cases hgf
  exact Json.legible_of_reread _ _ hg

end Version

namespace Prompt

theorem versions_field :
    record.Field room "versions" (·.versions) (Decode.list Version.decode) where
  isField := nofun
  put st field d st' hput := by
    simp only [record] at hput
    split at hput <;> first
      | cases hput
      | simp only [Option.some.injEq, map_eq_ok] at hput
        obtain ⟨v, hv, rfl⟩ := hput
        simp [hv]

theorem decode_versions {p : Prompt} (h : Prompt.decode 127 p.toJson.reread = .ok p) :
    ∀ v ∈ p.versions, Version.decode 125 v.toJson.reread = .ok v := by
  obtain ⟨st, hread, hbuild⟩ := Decode.record_object_eq_ok h
  have hst : st.versions = p.versions := by
    simp only [Option.bind_eq_bind, Option.bind_eq_some_iff, Option.some.injEq] at hbuild
    obtain ⟨_, -, _, -, _, -, rfl⟩ := hbuild
    rfl
  have hlist : Decode.list Version.decode 126
      (Json.array (p.versions.map (·.toJson))).reread = .ok p.versions := by
    rw [← hst]
    refine versions_field.readMembers
      (Json.mem_rereadMembers (m := ("versions", .array (st.versions.map (·.toJson)))) ?_) hread
    simp [hst]
  rw [Json.reread, Json.rereadItems_eq_map, List.map_map] at hlist
  exact Decode.list_map hlist

theorem decode_render_iff {p : Prompt} (h : p.MadeOf Timestamp.Valid format) :
    Prompt.decode.runString p.toJson.render = .ok p ↔
      ∀ v ∈ p.versions, ∀ f, v.responseFormat = some f → f.IsFormat ∧ f.Legible := by
  constructor
  · intro hread v hv f hf
    refine ⟨writable_of_run hread v hv f hf, ?_⟩
    rw [Decode.runString_render_eq] at hread
    exact Version.legible_of_decode (decode_versions hread v hv) hf
  · intro hformat
    refine decode_render (fun v hv f hf => (hformat v hv f hf).1) ⟨fun v hv => ?_, ?_, ?_⟩
    · exact ⟨fun f hf => (hformat v hv f hf).2,
        Timestamp.ofString?_render (h.versions v hv).createdAt⟩
    · exact Timestamp.ofString?_render h.createdAt
    · exact Timestamp.ofString?_render h.updatedAt

end Prompt

end PromptRegistry
