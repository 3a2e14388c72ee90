import PromptRegistry.Proofs.Prompt.Core

/-!
# Times and response formats of a prompt

A prompt is made of times and response formats of a kind when each that it holds is. Every change of
a prompt at such a time keeps that (`Prompt.MadeOf`).
-/

namespace PromptRegistry

variable {time : Timestamp → Prop} {format : Json → Prop}

structure Version.MadeOf (time : Timestamp → Prop) (format : Json → Prop) (v : Version) : Prop where
  createdAt : time v.createdAt
  format : ∀ f, v.responseFormat = some f → format f

structure Prompt.MadeOf (time : Timestamp → Prop) (format : Json → Prop) (p : Prompt) : Prop where
  createdAt : time p.createdAt
  updatedAt : time p.updatedAt
  versions : ∀ v ∈ p.versions, v.MadeOf time format

namespace Prompt

variable {p q : Prompt} {now : Timestamp}

theorem MadeOf.new (hnow : time now) (name : PromptName) (text : Option String)
    (tags : Dict String) : (Prompt.new now name text tags).MadeOf time format :=
  ⟨hnow, hnow, by simp [Prompt.new]⟩

theorem MadeOf.touch (h : p.MadeOf time format) (hnow : time now)
    (hversions : ∀ v ∈ q.versions, v ∈ p.versions) (hcreated : q.createdAt = p.createdAt) :
    (q.touch now).MadeOf time format :=
  ⟨hcreated ▸ h.createdAt, hnow, fun v hv => h.versions v (hversions v hv)⟩

theorem MadeOf.setTags (h : p.MadeOf time format) (hnow : time now)
    (tags : List (String × String)) : (p.setTags now tags).MadeOf time format := by
  induction tags generalizing p with
  | nil => exact h
  | cons tag tags ih => exact ih (h.touch hnow (fun _ hv => hv) rfl)

theorem MadeOf.addVersion (h : p.MadeOf time format) (hnow : time now)
    (hd : ∀ f, d.responseFormat = some f → format f) (hq : p.addVersion? now d = some (v, q)) :
    q.MadeOf time format := by
  obtain ⟨-, hv, rfl⟩ := addVersion?_eq_some.1 hq
  refine ⟨h.createdAt, hnow, List.forall_mem_append.2 ⟨h.versions, ?_⟩⟩
  rw [List.forall_mem_singleton, hv]
  exact ⟨hnow, hd⟩

theorem MadeOf.mapTags (h : p.MadeOf time format) (n : UInt32)
    (change : Dict String → Dict String) :
    ∀ v ∈ mapTags n change p.versions, v.MadeOf time format := by
  intro v hv
  rcases mem_mapTags hv with hv | ⟨w, hw, rfl⟩
  · exact h.versions v hv
  · exact ⟨(h.versions w hw).createdAt, (h.versions w hw).format⟩

end Prompt

end PromptRegistry
