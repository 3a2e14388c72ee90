import PromptRegistry.Document
import PromptRegistry.Proofs.Json.Decode

/-!
# Written documents

The document of a prompt is read as the prompt, whatever fields it leaves out, if its response
formats can stand inside of a document (`Json.IsFormat`) and the texts of its numbers and times
read back (`Prompt.Legible`).
-/

namespace PromptRegistry

open Json (Decode draftMembers Fits)
open Json.Decode (Record)

-- ---------------------------------------------------------------------------
-- Fields that may be left out
-- ---------------------------------------------------------------------------

theorem Json.optionalDict_eq_optional (name : String) (d : Dict β) (value : β → Json) :
    Json.optionalDict name d value = Json.optional name
      (if d.isEmpty then none else some (.object (d.entries.map fun e => (e.1, value e.2)))) := by
  cases h : d.isEmpty <;> simp [Json.optionalDict, Json.optional, h]

theorem Json.legibleMembers_append {ms ns : List (String × Json)} :
    LegibleMembers (ms ++ ns) ↔ LegibleMembers ms ∧ LegibleMembers ns := by
  simp only [legibleMembers_iff, List.forall_mem_append]

theorem Json.legible_optional {o : Option Json} (h : ∀ v, o = some v → v.Legible)
    (name : String) : LegibleMembers (Json.optional name o) := by
  cases o with
  | none => trivial
  | some v => exact ⟨h v rfl, trivial⟩

theorem Json.legible_optionalString (o : Option String) (name : String) :
    LegibleMembers (Json.optional name (o.map .string)) := by
  cases o with
  | none => trivial
  | some s => exact ⟨trivial, trivial⟩

theorem Json.legible_optionalDict (write : β → Json) (h : ∀ a, (write a).Legible) (name : String)
    (d : Dict β) : LegibleMembers (Json.optionalDict name d write) := by
  rw [Json.optionalDict_eq_optional]
  refine Json.legible_optional (fun v hv => ?_) name
  split at hv
  · cases hv
  · cases hv
    refine legibleMembers_iff.2 fun m hm => ?_
    obtain ⟨e, -, rfl⟩ := List.mem_map.1 hm
    exact h e.2

theorem Json.legible_uint32 (n : UInt32) : (Json.uint32 n).Legible :=
  Json.Number.legible_ofNat (Nat.lt_trans n.toNat_lt (by decide))

theorem Dict.eq_empty_of_isEmpty {d : Dict β} (h : d.isEmpty = true) : d = ∅ :=
  Dict.ext (List.isEmpty_iff.1 h)

section
variable {r : Record σ} {before : List String} {st st' st'' : σ}

theorem takes_optionalString {name : String} (put : Option String → σ) {o : Option String}
    (hname : name ∉ before)
    (hput : ∀ d, r.put st name room d = some ((Decode.nullable Decode.string room d).map put))
    (hnone : put none = st) (h : r.Takes room (name :: before) (put o) ms st'') :
    r.Takes room before st (draftMembers (Json.optional name (o.map .string)) ++ ms) st'' := by
  refine .optional _ hname ?_ ?_ h
  · intro v hv
    obtain ⟨s, rfl, rfl⟩ := Option.map_eq_some_iff.1 hv
    rw [hput]
    rfl
  · intro ho
    rw [Option.map_eq_none_iff.1 ho, hnone]

theorem takes_optionalDict {name : String} (put : Dict β → σ) {d : Dict β} {decode : Decode β}
    {write : β → Json} (hname : name ∉ before)
    (hput : ∀ d, r.put st name (room + 1) d = some ((Decode.dict decode (room + 1) d).map put))
    (hread : ∀ a, decode room (write a).draft = .ok a)
    (hempty : put ∅ = st) (h : r.Takes (room + 1) (name :: before) (put d) ms st'') :
    r.Takes (room + 1) before st (draftMembers (Json.optionalDict name d write) ++ ms) st'' := by
  rw [Json.optionalDict_eq_optional]
  refine .optional _ hname ?_ ?_ h
  · intro v hv
    split at hv
    · cases hv
    · cases hv
      rw [hput, Decode.dict_draft write fun e _ => hread e.2]
      rfl
  · intro ho
    split at ho
    · next hd => rw [Dict.eq_empty_of_isEmpty hd, hempty]
    · cases ho

end

-- ---------------------------------------------------------------------------
-- Templates
-- ---------------------------------------------------------------------------

theorem Message.decode_toJson (m : Message) (room : Nat) :
    Message.decode (room + 1) m.toJson.draft = .ok m :=
  Decode.record_object ⟨some m.role, some m.content⟩
    (.field (by decide) rfl <| .field (by decide) rfl .nil) rfl

theorem Message.depth_toJson (m : Message) : m.toJson.depth = 1 := rfl

theorem Template.decode_toJson (t : Template) {room : Nat} (hroom : 2 ≤ room) :
    Template.decode room t.toJson.draft = .ok t := by
  have hdepth : t.toJson.depth ≤ room := by
    cases t with
    | text content => exact Nat.zero_le room
    | chat messages =>
      refine Nat.le_trans (Nat.succ_le_succ (Json.depthItems_le_iff.2 ?_)) hroom
      intro v hv
      obtain ⟨m, -, rfl⟩ := List.mem_map.1 hv
      exact Nat.le_of_eq m.depth_toJson
  have hjson : Decode.json room t.toJson.draft = .ok t.toJson.normal :=
    Json.toJson_draft room _ hdepth
  unfold Template.decode
  rw [hjson]
  cases t with
  | text content => rfl
  | chat messages =>
    have hitems : Decode.items (Message.decode Decode.greatestDepth) []
        (Json.draftItems (messages.map (·.toJson))) = .ok messages :=
      Decode.items_draftItems Message.toJson (fun m _ => m.decode_toJson 126) []
    simp only [toJson, Json.draft, bind, Except.bind, hitems]

-- ---------------------------------------------------------------------------
-- Versions
-- ---------------------------------------------------------------------------

/-- A response format that can be written and read inside of a document. -/
structure Json.IsFormat (f : Json) : Prop where
  ne_null : f ≠ .null
  fits : Fits 124 f

def Timestamp.Legible (t : Timestamp) : Prop := Timestamp.ofString? t.render = some t

instance (t : Timestamp) : Decidable t.Legible :=
  inferInstanceAs (Decidable (Timestamp.ofString? t.render = some t))

theorem Timestamp.Legible.decode {t : Timestamp} (h : t.Legible) (room : Nat) :
    Timestamp.decode room (Json.string t.render).draft = .ok t := Decode.checked_string h room

namespace Version

def Writable (v : Version) : Prop := ∀ f, v.responseFormat = some f → f.IsFormat

/-- The texts of the numbers and of the time read back. -/
structure Legible (v : Version) : Prop where
  responseFormat : ∀ f, v.responseFormat = some f → f.Legible
  createdAt : v.createdAt.Legible

theorem decode_toJson {v : Version} (hw : v.Writable) (hl : v.Legible) :
    Version.decode 125 v.toJson.draft = .ok v := by
  let st : Fields :=
    ⟨some v.name, some v.number, some v.template, some v.variableNames, v.responseFormat,
      v.commitMessage, v.tags, some v.createdAt⟩
  refine Decode.record_object st ?_ rfl
  simp only [Json.draftMembers_append, List.append_assoc]
  refine .field (by decide) rfl ?_
  refine .field (by decide) (congrArg (some ∘ Except.map _) (Decode.uint32_draft 124 v.number)) ?_
  refine .field (by decide)
    (congrArg (some ∘ Except.map _) (v.template.decode_toJson (by decide))) ?_
  refine .field (by decide) (congrArg (some ∘ Except.map _)
    (Decode.list_draft Json.string fun s _ => rfl)) ?_
  refine .optional { st with commitMessage := none, tags := ∅, createdAt := none }
    (by decide) ?_ ?_ ?_
  · intro f hf
    show some ((Decode.nullable Decode.json 124 f.draft).map _) = _
    rw [Decode.nullable_json_draft (hw f hf).ne_null (hw f hf).fits, ← hf]
    rfl
  · intro hf
    rw [show st.responseFormat = none from hf]
  refine takes_optionalString
    (fun o => { st with commitMessage := o, tags := ∅, createdAt := none })
    (by decide) (fun _ => rfl) rfl ?_
  refine takes_optionalDict (fun d => { st with tags := d, createdAt := none })
    (by decide) (fun _ => rfl) (fun _ => rfl) rfl ?_
  exact .field (by decide) (congrArg (some ∘ Except.map _) (hl.createdAt.decode 124)) .nil

theorem legible_toJson {v : Version} (h : v.Legible) : v.toJson.Legible := by
  have htemplate : v.template.toJson.Legible := by
    cases v.template with
    | text content => trivial
    | chat messages =>
      refine Json.legibleItems_iff.2 fun m hm => ?_
      obtain ⟨m, -, rfl⟩ := List.mem_map.1 hm
      exact ⟨trivial, trivial, trivial⟩
  have hnames : (Json.strings v.variableNames).Legible := by
    refine Json.legibleItems_iff.2 fun s hs => ?_
    obtain ⟨s, -, rfl⟩ := List.mem_map.1 hs
    trivial
  simp only [toJson, Json.Legible, Json.legibleMembers_append, Json.LegibleMembers, and_true,
    true_and]
  exact ⟨⟨⟨⟨Json.legible_uint32 _, htemplate, hnames⟩, Json.legible_optional h.responseFormat _⟩,
    Json.legible_optionalString _ _⟩,
    Json.legible_optionalDict .string (fun _ => trivial) _ _⟩

end Version

namespace Prompt

def Writable (p : Prompt) : Prop := ∀ v ∈ p.versions, v.Writable

structure Legible (p : Prompt) : Prop where
  versions : ∀ v ∈ p.versions, v.Legible
  createdAt : p.createdAt.Legible
  updatedAt : p.updatedAt.Legible

theorem decode_toJson {p : Prompt} (hw : p.Writable) (hl : p.Legible) :
    Prompt.decode 127 p.toJson.draft = .ok p := by
  let st : Fields :=
    ⟨some p.name, p.description, p.tags, p.aliases, p.versions, p.lastVersion, some p.createdAt,
      some p.updatedAt⟩
  refine Decode.record_object st ?_ rfl
  simp only [Json.draftMembers_append, List.append_assoc]
  have hname : PromptName.decode 126 (Json.string p.name.text).draft = .ok p.name :=
    Decode.checked_string (by rw [PromptName.ofString_text]; rfl) 126
  refine .field (by decide) (congrArg (some ∘ Except.map _) hname) ?_
  refine takes_optionalString (fun o => { name := some p.name, description := o })
    (by decide) (fun _ => rfl) rfl ?_
  refine takes_optionalDict
    (fun d => { name := some p.name, description := p.description, tags := d })
    (by decide) (fun _ => rfl) (fun _ => rfl) rfl ?_
  refine takes_optionalDict
    (fun d =>
      { name := some p.name, description := p.description, tags := p.tags, aliases := d })
    (by decide) (fun _ => rfl) (Decode.uint32_draft 125) rfl ?_
  have hversions : Decode.list Version.decode 126 (Json.array (p.versions.map (·.toJson))).draft =
      .ok p.versions :=
    Decode.list_draft Version.toJson fun v hv => Version.decode_toJson (hw v hv) (hl.versions v hv)
  refine .field (by decide) (congrArg (some ∘ Except.map _) hversions) ?_
  refine .field (by decide)
    (congrArg (some ∘ Except.map _) (Decode.uint32_draft 126 p.lastVersion)) ?_
  refine .field (by decide) (congrArg (some ∘ Except.map _) (hl.createdAt.decode 126)) ?_
  exact .field (by decide) (congrArg (some ∘ Except.map _) (hl.updatedAt.decode 126)) .nil

theorem legible_toJson {p : Prompt} (h : p.Legible) : p.toJson.Legible := by
  have hversions : (Json.array (p.versions.map (·.toJson))).Legible := by
    refine Json.legibleItems_iff.2 fun w hw => ?_
    obtain ⟨v, hv, rfl⟩ := List.mem_map.1 hw
    exact Version.legible_toJson (h.versions v hv)
  simp only [toJson, Json.Legible, Json.legibleMembers_append, Json.LegibleMembers, and_true,
    true_and]
  exact ⟨⟨⟨Json.legible_optionalString _ _,
    Json.legible_optionalDict .string (fun _ => trivial) _ _⟩,
    Json.legible_optionalDict _ Json.legible_uint32 _ _⟩, hversions, Json.legible_uint32 _⟩

theorem decode_render {p : Prompt} (hw : p.Writable) (hl : p.Legible) :
    Prompt.decode.runString p.toJson.render = .ok p :=
  Decode.runString_render (legible_toJson hl) (decode_toJson hw hl)

end Prompt

end PromptRegistry
