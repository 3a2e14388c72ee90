import PromptRegistry.Proofs.Document.Written

/-!
# Documents lose nothing

Whatever a prompt is read from, its response formats can stand inside of a document: an absent one
is not null, objects come out in order, and the reader does not enter more than 127 containers,
three of which are around a response format. So what was read is read again from its document, and
of all prompts exactly those with such response formats are (`Prompt.document_lossless`).
-/

namespace PromptRegistry

open Json (Decode Draft)

namespace Version

theorem writable_of_decode {d : Draft} (h : Version.decode 125 d = .ok v) : v.Writable := by
  have hkeeps : record.Keeps 124 fun st => ∀ f, st.responseFormat = some f → f.IsFormat := by
    intro st name d st' hst hput
    simp only [record] at hput
    -- of the fields only the fifth, the response format, matters; the last case is no field
    split at hput
    case h_5 =>
      simp only [Option.some.injEq, map_eq_ok] at hput
      obtain ⟨o, ho, rfl⟩ := hput
      rintro f rfl
      exact ⟨(Decode.nullable_json_eq_some ho).1, (Decode.nullable_json_eq_some ho).2⟩
    case h_9 => cases hput
    all_goals
      simp only [Option.some.injEq, map_eq_ok] at hput
      obtain ⟨_, -, rfl⟩ := hput
      exact hst
  obtain ⟨st, hst, hbuild⟩ := Decode.record_eq_ok h nofun hkeeps
  simp only [Option.bind_eq_bind, Option.bind_eq_some_iff, Option.some.injEq] at hbuild
  obtain ⟨_, -, _, -, _, -, _, -, _, -, rfl⟩ := hbuild
  exact hst

end Version

namespace Prompt

theorem writable_of_decode {d : Draft} (h : Prompt.decode 127 d = .ok p) : p.Writable := by
  have hkeeps : record.Keeps 126 fun st => ∀ v ∈ st.versions, v.Writable := by
    intro st name d st' hst hput
    simp only [record] at hput
    -- here the fifth field is the list of versions
    split at hput
    case h_5 =>
      simp only [Option.some.injEq, map_eq_ok] at hput
      obtain ⟨vs, hvs, rfl⟩ := hput
      intro v hv
      obtain ⟨d, hd⟩ := Decode.list_eq_ok hvs v hv
      exact Version.writable_of_decode hd
    case h_9 => cases hput
    all_goals
      simp only [Option.some.injEq, map_eq_ok] at hput
      obtain ⟨_, -, rfl⟩ := hput
      exact hst
  obtain ⟨st, hst, hbuild⟩ := Decode.record_eq_ok h (fun _ hv => absurd hv List.not_mem_nil) hkeeps
  simp only [Option.bind_eq_bind, Option.bind_eq_some_iff, Option.some.injEq] at hbuild
  obtain ⟨_, -, _, -, _, -, rfl⟩ := hbuild
  exact hst

theorem writable_of_run {text : List (Option Char)} (h : Prompt.decode.run text = .ok p) :
    p.Writable := by
  obtain ⟨d, hd⟩ := Decode.run_eq_ok h
  exact writable_of_decode hd

/-- The document of a prompt is read as the prompt exactly when its response formats are ones that
documents hold; and those of a prompt that was read from any text always are. -/
theorem document_lossless {p : Prompt} (h : p.Legible) :
    (Prompt.decode.runString p.toJson.render = .ok p ↔ p.Writable) ∧
      ∀ text, Prompt.decode.run text = .ok p → Prompt.decode.runString p.toJson.render = .ok p :=
  ⟨⟨writable_of_run, fun hw => decode_render hw h⟩,
    fun _ hread => decode_render (writable_of_run hread) h⟩

theorem document_lossless_greeting :
    let chat : Version :=
      { name := "other", number := 4000000000, template := .chat [⟨"user", "{{ x }}\n"⟩],
        variableNames := ["x"],
        responseFormat := some (.object [("least", .number (.real ⟨true, 5629499534213120, -51⟩))]),
        commitMessage := some "\u00e9\x01", tags := Dict.ofList [("k", "")],
        createdAt := ⟨-1, 500000000⟩ }
    let text : Version :=
      { name := "greeting", number := 0, template := .text "", variableNames := [],
        responseFormat := none, commitMessage := none, tags := ∅, createdAt := ⟨0, 0⟩ }
    let p : Prompt :=
      { name := ⟨"greeting", rfl⟩, description := some "", tags := ∅,
        aliases := Dict.ofList [("prod", 4000000000)], versions := [chat, text],
        lastVersion := 4294967295, createdAt := ⟨0, 0⟩, updatedAt := ⟨1577934245, 123456789⟩ }
    p.Legible ∧ p.Writable ∧ Prompt.decode.runString p.toJson.render = .ok p := by
  intro chat text p
  have hnumber : (Json.Number.real ⟨true, 5629499534213120, -51⟩).Legible := by
    refine Json.Number.legible_of_reads ?_
    have hchars : (Json.Number.real ⟨true, 5629499534213120, -51⟩).render.toList =
        ['-', '2', '.', '5'] := by decide +kernel
    have hnumber : Json.Number.ofChars? ['-', '2', '.', '5'] =
        some (.real ⟨true, 5629499534213120, -51⟩) := by decide +kernel
    rw [hchars, ← hnumber]
    exact Json.Scanner.reads_numeral (p := .minus) (q := .fraction) rfl rfl rfl
  have hzero : Timestamp.Legible ⟨0, 0⟩ := by decide +kernel
  have hchat : chat.Legible := by
    refine ⟨?_, show Timestamp.Legible ⟨-1, 500000000⟩ by decide +kernel⟩
    rintro f ⟨⟩
    exact ⟨hnumber, trivial⟩
  have hl : p.Legible := by
    refine ⟨?_, hzero, show Timestamp.Legible ⟨1577934245, 123456789⟩ by decide +kernel⟩
    exact List.forall_mem_cons.2 ⟨hchat, List.forall_mem_singleton.2 ⟨nofun, hzero⟩⟩
  have hw : p.Writable := by
    refine List.forall_mem_cons.2 ⟨?_, List.forall_mem_singleton.2 nofun⟩
    rintro f ⟨⟩
    exact ⟨nofun, ⟨List.pairwise_singleton .., trivial, trivial⟩, by decide⟩
  exact ⟨hl, hw, (document_lossless hl).1.2 hw⟩

end Prompt

namespace Json

def nestedObjects : Nat → Json
  | 0 => .object []
  | n + 1 => .object [("a", nestedObjects n)]

theorem nestedObjects_ne_null (n : Nat) : nestedObjects n ≠ .null := by
  cases n <;> simp [nestedObjects]

theorem ordered_nestedObjects (n : Nat) : (nestedObjects n).Ordered := by
  induction n with
  | zero => exact ⟨.nil, trivial⟩
  | succ n ih => exact ⟨List.pairwise_singleton .., ih, trivial⟩

theorem legible_nestedObjects (n : Nat) : (nestedObjects n).Legible := by
  induction n with
  | zero => trivial
  | succ n ih => exact ⟨ih, trivial⟩

theorem depth_nestedObjects (n : Nat) : (nestedObjects n).depth = n + 1 := by
  induction n with
  | zero => rfl
  | succ n ih => simp [nestedObjects, depth, depthMembers, ih]

end Json

/-- A response format with 125 levels is written, but the reader does not enter the last one. -/
theorem Prompt.document_too_deep :
    let format := Json.nestedObjects 124
    let empty := Prompt.new ⟨0, 0⟩ ⟨"p", rfl⟩ none ∅
    let p := empty.append ⟨0, 0⟩ <| empty.newVersion ⟨0, 0⟩ 1
      { template := .text "x", commitMessage := none, tags := ∅, responseFormat := some format }
    format ≠ .null ∧ format.Ordered ∧ p.Legible ∧
      Prompt.decode.runString p.toJson.render ≠ .ok p := by
  intro format empty p
  have hzero : Timestamp.Legible ⟨0, 0⟩ := by decide +kernel
  refine ⟨nofun, Json.ordered_nestedObjects 124, ⟨?_, hzero, hzero⟩, fun hread => ?_⟩
  · refine List.forall_mem_singleton.2 ⟨?_, hzero⟩
    rintro f ⟨⟩
    exact Json.legible_nestedObjects 124
  · have hformat := Prompt.writable_of_run hread _ (List.mem_singleton.2 rfl) format rfl
    have hle := hformat.fits.depth_le
    rw [Json.depth_nestedObjects] at hle
    exact absurd hle (by decide)

end PromptRegistry
