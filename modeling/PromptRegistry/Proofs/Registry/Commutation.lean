import PromptRegistry.Proofs.Procedure.About
import PromptRegistry.Proofs.Registry.Effect

/-!
# Operations on different prompts

An operation that names a single prompt makes calls about that name only
(`Operation.procedure_about`). Two of them with different names can therefore change places: each
answers or fails as it does in the other order, and the same prompts are left
(`operations_commute`).
-/

namespace PromptRegistry.Registry

open Procedure (About)

/-- The operation names a single prompt, if it can be read. -/
def Operation.isSingle : Operation → Bool
  | .searchPrompts _ | .count => false
  | _ => true

-- ---------------------------------------------------------------------------
-- One rule for each operation
-- ---------------------------------------------------------------------------

section
variable {names : String → Prop} {now : Timestamp}

theorem fetch_about (hname : names name) {Q : Prompt → Prop}
    (h : ∀ p : Prompt, p.name.text = name → Q p) : (fetch name).About names Q := by
  refine .bind (.demand fun key hkey => ?_)
  obtain rfl := PromptName.ofString_eq_ok hkey
  refine .bind (.get hname fun o ho => .ofOption fun p hp => h p ?_)
  exact congrArg PromptName.text (ho p hp)

theorem mutate_about (hname : names name) {change : Prompt → Procedure Prompt}
    (hchange : ∀ p : Prompt, p.name.text = name →
      (change p).About names fun q => q.name.text = name)
    {Q : Prompt → Prop} (h : ∀ q, Q q) : (mutate name change).About names Q := by
  refine .bind (fetch_about hname fun p hp => .bind (.mono ?_ (hchange p hp)))
  rintro q rfl
  exact .update hname h

theorem detailsOf_about {p : Prompt} : (detailsOf p n).About names fun _ => True :=
  .ofOption fun _ _ => trivial

theorem createPrompt_about {d : PromptDraft} (hname : names d.name) :
    (createPrompt now d).About names fun _ => True := by
  refine .bind (.demand fun name hkey => .bind (.demand fun _ _ => .bind (.emit ?_)))
  have hkey : names name.text := PromptName.ofString_eq_ok hkey ▸ hname
  refine .bind (.contains hkey fun found => .ite .fail (.bind (.create hkey fun p => ?_)))
  exact .bind (.emit (.pure trivial))

theorem getPrompt_about (hname : names name) : (getPrompt name).About names fun _ => True := by
  refine .bind (.demand fun key hkey => .bind (.emit (.get ?_ fun _ _ => trivial)))
  exact (PromptName.ofString_eq_ok hkey).symm ▸ hname

theorem requirePrompt_about (hname : names name) :
    (requirePrompt name).About names fun _ => True :=
  .bind (.mono (fun _ _ => .ofOption fun _ _ => trivial) (getPrompt_about hname))

theorem resolve_about (hname : names name) :
    (resolve name reference).About names fun _ => True := by
  refine .bind (.mono (fun found _ => ?_) (getPrompt_about hname))
  cases found with
  | some p => exact .pure trivial
  | none => exact .pure trivial

theorem loadUri_about {uri : Uri} (hname : names uri.name) :
    (loadUri uri).About names fun _ => True :=
  .bind (.emit (.bind (.mono (fun _ _ => .ofOption fun _ _ => trivial) (resolve_about hname))))

theorem formatUri_about {uri : Uri} (hname : names uri.name) :
    (formatUri uri values allowPartial).About names fun _ => True := by
  refine .bind (.mono (fun d _ => ?_) (loadUri_about hname))
  exact .bind (.demand fun _ _ => .bind (.emit (.pure trivial)))

theorem updatePrompt_about (hname : names name) :
    (updatePrompt now name text).About names fun _ => True := by
  refine .bind (mutate_about hname (fun p hp => .pure ?_) fun _ => .bind (.emit (.pure trivial)))
  exact hp

theorem setPromptTag_about (hname : names name) :
    (setPromptTag now name key value).About names fun _ => True := by
  refine .bind (.demand fun _ _ => ?_)
  refine .bind (mutate_about hname (fun p hp => .pure ?_) fun _ => .bind (.emit (.pure trivial)))
  exact hp

theorem deletePrompt_about (hname : names name) :
    (deletePrompt name).About names fun _ => True := by
  refine .bind (.demand fun key hkey => ?_)
  obtain rfl := PromptName.ofString_eq_ok hkey
  exact .bind (.delete hname fun _ => .ite (.emit trivial) .fail)

theorem deletePromptTag_about (hname : names name) :
    (deletePromptTag now name key).About names fun _ => True := by
  refine mutate_about hname (fun p hp => ?_) fun _ => trivial
  split
  · next q hq =>
    have hcore := (Prompt.deleteTag?_eq_some hq).1
    exact .pure ((congrArg PromptName.text hcore.name).trans hp)
  · exact .bind (.emit (.pure hp))

theorem createVersion_about {d : NewVersion} (hname : names name) :
    (createVersion now name d).About names fun _ => True := by
  refine .bind (.demand fun _ _ => .bind (fetch_about hname fun p hp => ?_))
  refine .bind (.ofOption fun (v, q) hq => ?_)
  have hq : q.name.text = name :=
    (congrArg PromptName.text (Prompt.addVersion?_core hq).1).trans hp
  exact .bind (.update (hq.symm ▸ hname) fun _ => .bind (.emit (.pure trivial)))

theorem register_about {r : Registration} (hname : names r.name) :
    (register now r).About names fun _ => True := by
  refine .bind (.demand fun name hkey => .bind (.demand fun _ _ => .bind (.demand fun _ _ => ?_)))
  have hkey : names name.text := PromptName.ofString_eq_ok hkey ▸ hname
  refine .bind (.get hkey fun found hfound => ?_)
  -- what takes the tags and the version has the name, be it new or not
  have hbase : (found.getD (.new now name r.description ∅)).name = name := by
    cases found with
    | none => rfl
    | some p => exact hfound p rfl
  have hcore := Prompt.setTags_sameCore now r.promptTags.entries
    (found.getD (.new now name r.description ∅))
  refine .bind (.ofOption fun (v, q) hq => ?_)
  have hqname : q.name = name :=
    (Prompt.addVersion?_core hq).1.trans (hcore.name.trans hbase)
  have hwritten : names q.name.text := hqname ▸ hkey
  refine .ite (.bind (.create hwritten fun _ => ?_))
    (.bind (.update hwritten fun _ => ?_))
  · exact .bind (.emit (.pure trivial))
  · exact .bind (.emit (.pure trivial))

theorem deleteVersion_about (hname : names name) :
    (deleteVersion now name n).About names fun _ => True := by
  refine .bind (.demand fun _ _ => .bind (fetch_about hname fun p hp => ?_))
  refine .bind (.ofOption fun q hq => ?_)
  have hq : q.name.text = name :=
    (congrArg PromptName.text (Prompt.deleteVersion?_eq_some hq).1).trans hp
  refine .bind (.update (hq.symm ▸ hname) fun _ => ?_)
  exact .ite (.bind (.emit (.emit trivial))) (.emit trivial)

theorem setVersionTag_about (hname : names name) :
    (setVersionTag now name n key value).About names fun _ => True := by
  refine .bind (.demand fun _ _ => .bind (.demand fun _ _ => ?_))
  refine .bind (mutate_about hname (fun p hp => .ofOption fun q hq => ?_) fun q =>
    .bind (.emit detailsOf_about))
  have hcore := (Prompt.setVersionTag?_eq_some hq).1
  exact (congrArg PromptName.text hcore.name).trans hp

theorem deleteVersionTag_about (hname : names name) :
    (deleteVersionTag now name n key).About names fun _ => True := by
  refine .bind (.demand fun _ _ => ?_)
  refine .bind (mutate_about hname (fun p hp => .ofOption fun q hq => ?_) fun q =>
    detailsOf_about)
  obtain ⟨⟨changed, q⟩, hdeleted, rfl⟩ := Option.map_eq_some_iff.1 hq
  have hcore := (Prompt.deleteVersionTag?_eq_some hdeleted).1
  exact (congrArg PromptName.text hcore.name).trans hp

theorem setAlias_about (hname : names name) :
    (setAlias now name a n).About names fun _ => True := by
  refine .bind (.demand fun _ _ => .bind (.demand fun _ _ => ?_))
  refine .bind (fetch_about hname fun p hp => .bind (.ofOption fun q hq => ?_))
  obtain ⟨-, rfl⟩ := Prompt.setAlias?_eq_some hq
  exact .bind (.update (hp.symm ▸ hname) fun _ => .bind (.emit detailsOf_about))

theorem deleteAlias_about (hname : names name) :
    (deleteAlias now name a).About names fun _ => True := by
  refine .bind (mutate_about hname (fun p hp => .ofOption fun q hq => ?_) fun _ =>
    .emit trivial)
  rw [Prompt.deleteAlias?_eq_some hq]
  exact hp

end

/-- An operation on a single prompt calls for nothing else than what is under its name; one that
names none, because its address cannot be read, makes no calls. -/
theorem Operation.procedure_about (sizes : Search.PageSizes) (now : Timestamp) {op : Operation}
    (hop : op.isSingle = true) :
    (op.procedure sizes now).About (fun name => op.name? = some name) fun _ => True := by
  have huri {text : String} {uri : Uri} (h : Uri.parse text = .ok uri) :
      (Uri.parse text).toOption.map (·.name) = some uri.name := by rw [h]; rfl
  cases op with
  | searchPrompts | count => cases hop
  | createPrompt d => exact createPrompt_about rfl
  | getPrompt name => exact getPrompt_about rfl
  | requirePrompt name => exact requirePrompt_about rfl
  | updatePrompt name text => exact updatePrompt_about rfl
  | deletePrompt name => exact deletePrompt_about rfl
  | setPromptTag name key value => exact setPromptTag_about rfl
  | deletePromptTag name key => exact deletePromptTag_about rfl
  | createVersion name d => exact createVersion_about rfl
  | register r => exact register_about rfl
  | getVersion name n => exact .bind (.demand fun _ _ => resolve_about rfl)
  | getByAlias name a => exact resolve_about rfl
  | load uri => exact .bind (.demand fun _ h => loadUri_about (huri h))
  | deleteVersion name n => exact deleteVersion_about rfl
  | setVersionTag name n key value => exact setVersionTag_about rfl
  | deleteVersionTag name n key => exact deleteVersionTag_about rfl
  | searchVersions name size token =>
    refine .bind (.demand fun _ _ => .bind (.demand fun _ _ => ?_))
    exact .bind (.mono (fun _ _ => .pure trivial) (requirePrompt_about rfl))
  | setAlias name a n => exact setAlias_about rfl
  | deleteAlias name a => exact deleteAlias_about rfl
  | format uri values allowPartial =>
    exact .bind (.demand fun _ h => formatUri_about (huri h))
  | formatVersion name n values allowPartial =>
    exact .bind (.demand fun _ _ => formatUri_about rfl)

-- ---------------------------------------------------------------------------
-- Two operations
-- ---------------------------------------------------------------------------

/-- Of two operations on prompts of different names each answers or fails, and reports, as it does
where the other was not run before, and in either order they leave the same prompts. The storage may
fail at any call, as long as that hangs on nothing but what the call is about. -/
theorem operations_commute {st : Storage σ} {contents : σ → Contents} {part : String → σ → τ}
    (hst : st.Atomic contents) (hapart : st.Apart contents part) {s : σ}
    (hc : (contents s).Keyed) (sizes : Search.PageSizes) {op op' : Operation}
    (hop : op.isSingle = true) (hop' : op'.isSingle = true)
    (hnames : ∀ name, op.name? = some name → op'.name? ≠ some name) (now now' : Timestamp) :
    let first := op.run sizes st now s
    let first' := op'.run sizes st now' s
    let second := op.run sizes st now first'.state
    let second' := op'.run sizes st now' first.state
    (second.result = first.result ∧ second.events = first.events) ∧
      (second'.result = first'.result ∧ second'.events = first'.events) ∧
      contents second.state = contents second'.state := by
  have habout := op.procedure_about sizes now hop
  have habout' := op'.procedure_about sizes now' hop'
  have hnames' : ∀ name, op'.name? = some name → ¬op.name? = some name :=
    fun name h' h => hnames name h h'
  have hsame := habout.unnoticed hst hapart habout' hnames hc
  have hsame' := habout'.unnoticed hst hapart habout hnames' hc
  exact ⟨⟨hsame.1, hsame.2.1⟩, ⟨hsame'.1, hsame'.2.1⟩,
    habout.commute hst hapart habout' hnames hc⟩

theorem operations_commute_missing :
    let st : Storage (Interruptible Contents) := .interruptible .memory
    let p : Prompt := .new default ⟨"greeting", by decide⟩ none ∅
    let s : Interruptible Contents := ⟨.put ∅ p, none⟩
    let delete (s : Interruptible Contents) :=
      (Operation.deletePrompt "greeting").run ⟨20, 100⟩ st default s
    let load (s : Interruptible Contents) :=
      (Operation.load "prompts:/farewell@latest").run ⟨20, 100⟩ st default s
    (delete (load s).state).result = .ok () ∧
      (load (delete s).state).result = .error (.missing (.target ⟨"farewell", .latest⟩)) ∧
      (delete (load s).state).state.kept = (load (delete s).state).state.kept := by
  intro st p s delete load
  have hst : st.Atomic fun s => s.kept := Storage.memory_atomic.interruptible
  have hapart := Storage.memory_healthy.apart.interruptible
  have hkeyed : Contents.Keyed s.kept := Contents.keyed_empty.put p
  have hload : (Operation.load "prompts:/farewell@latest").name? = some "farewell" := by
    decide +kernel
  have hop : (Operation.deletePrompt "greeting").isSingle = true := rfl
  have hop' : (Operation.load "prompts:/farewell@latest").isSingle = true := rfl
  have hnames : ∀ name, (Operation.deletePrompt "greeting").name? = some name →
      (Operation.load "prompts:/farewell@latest").name? ≠ some name := by
    rintro name ⟨⟩ h
    exact absurd (hload.symm.trans h) (by decide)
  have h := operations_commute hst hapart hkeyed ⟨20, 100⟩ hop hop' hnames default default
  have hdeleted : (delete s).result = .ok () := rfl
  have hmissing : (load s).result = .error (.missing (.target ⟨"farewell", .latest⟩)) := by
    rfl
  exact ⟨h.1.1.trans hdeleted, h.2.1.1.trans hmissing, h.2.2⟩

end PromptRegistry.Registry
