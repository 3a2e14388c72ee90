import PromptRegistry.Proofs.Procedure
import PromptRegistry.Proofs.Prompt.Core
import PromptRegistry.Registry.Operation

/-!
# What operations do

`Operation.Effect` says of an operation that succeeds what it answers, what it makes of the prompt
under its name and which events it reports, with the checks that were passed. `procedure_ensures`:
over contents that keep every prompt under its own name, an operation that succeeds has its effect
and changes no other prompt, and one that fails changes nothing.
-/

namespace PromptRegistry.Registry

open Procedure (Untouched Reads)

namespace Operation

/-- The name of the prompt that an operation is about. A search or a count is about no single
one. -/
def name? : Operation → Option String
  | .createPrompt d => some d.name
  | .register r => some r.name
  | .getPrompt name | .requirePrompt name | .updatePrompt name _ | .deletePrompt name
  | .setPromptTag name _ _ | .deletePromptTag name _ | .createVersion name _ | .getVersion name _
  | .getByAlias name _ | .deleteVersion name _ | .setVersionTag name _ _ _
  | .deleteVersionTag name _ _ | .searchVersions name _ _ | .setAlias name _ _
  | .deleteAlias name _ | .formatVersion name _ _ _ => some name
  | .load uri | .format uri _ _ => (Uri.parse uri).toOption.map (·.name)
  | .searchPrompts _ | .count => none

def isReading : Operation → Bool
  | .getPrompt _ | .requirePrompt _ | .searchPrompts _ | .getVersion _ _ | .getByAlias _ _
  | .load _ | .searchVersions _ _ _ | .format _ _ _ | .formatVersion _ _ _ _ | .count => true
  | _ => false

/-- An operation that succeeds at a time: the prompt that stood under its name, the answer, the
prompt that stands there now, and the events. -/
inductive Effect (now : Timestamp) :
    (op : Operation) → Option Prompt → op.Answer → Option Prompt → List Event → Prop
  | createPrompt {d : PromptDraft} {name : PromptName} (hname : name.text = d.name)
      (htags : checkTags d.tags = .ok ()) {p : Prompt}
      (hp : p = .new now name d.description d.tags) :
      Effect now (.createPrompt d) none p (some p) [.creating d.name, .promptCreated d.name]
  | updatePrompt {p : Prompt} :
      Effect now (.updatePrompt name text) (some p) (p.setDescription now text)
        (some (p.setDescription now text)) [.promptUpdated name]
  | deletePrompt {p : Prompt} :
      Effect now (.deletePrompt name) (some p) () none [.promptDeleted name]
  | setPromptTag {p : Prompt} (htag : Rules.checkTag key value = .ok ()) :
      Effect now (.setPromptTag name key value) (some p) (p.setTag now key value)
        (some (p.setTag now key value)) [.promptTagSet name key]
  | deletePromptTag {p q : Prompt} (hq : p.deleteTag? now key = some q) :
      Effect now (.deletePromptTag name key) (some p) q (some q) []
  | keepPromptTag {p : Prompt} (hq : p.deleteTag? now key = none) :
      Effect now (.deletePromptTag name key) (some p) p (some p) [.promptTagAbsent name key]
  | createVersion {d : NewVersion} {p q : Prompt} (hversion : checkVersion d = .ok ())
      (hq : p.addVersion? now d = some (v, q)) :
      Effect now (.createVersion name d) (some p) (q.details v) (some q)
        [.versionCreated name v.number]
  | register {r : Registration} {name : PromptName} (hname : name.text = r.name)
      (htags : checkTags r.promptTags = .ok ()) (hversion : checkVersion r.version = .ok ())
      {o : Option Prompt} {p q : Prompt} {v : Version}
      (hp : p = (o.getD (.new now name r.description ∅)).setTags now r.promptTags.entries)
      (hq : p.addVersion? now r.version = some (v, q)) :
      Effect now (.register r) o (q.details v) (some q) [.registered r.name v.number o.isNone]
  | deleteVersion {p q : Prompt} (hnumber : Rules.checkVersion n = .ok ())
      (hq : p.deleteVersion? now n = some q) :
      Effect now (.deleteVersion name n) (some p) () (some q)
        (if (p.aliasesOf n).isEmpty then [.versionDeleted name n]
          else [.aliasesLost name n (p.aliasesOf n), .versionDeleted name n])
  | setVersionTag {p q : Prompt} (hnumber : Rules.checkVersion n = .ok ())
      (htag : Rules.checkTag key value = .ok ()) (hq : p.setVersionTag? now n key value = some q)
      (hv : q.version? n = some v) :
      Effect now (.setVersionTag name n key value) (some p) (q.details v) (some q)
        [.versionTagSet name n key]
  | deleteVersionTag {p q : Prompt} (hnumber : Rules.checkVersion n = .ok ())
      (hq : p.deleteVersionTag? now n key = some (changed, q)) (hv : q.version? n = some v) :
      Effect now (.deleteVersionTag name n key) (some p) (q.details v) (some q) []
  | setAlias {p q : Prompt} (halias : Rules.checkAlias a = .ok ())
      (hnumber : Rules.checkVersion n = .ok ()) (hq : p.setAlias? now a n = some q)
      (hv : q.version? n = some v) :
      Effect now (.setAlias name a n) (some p) (q.details v) (some q)
        [.aliasSet name a n (p.aliases.get? a)]
  | deleteAlias {p q : Prompt} (hq : p.deleteAlias? now a = some q) :
      Effect now (.deleteAlias name a) (some p) () (some q) [.aliasDeleted name a]

inductive Done (now : Timestamp) (c : Contents) (op : Operation) (a : op.Answer) :
    Contents → List Event → Prop
  | read (hop : op.isReading = true) (hes : ∀ e ∈ es, e.level = .debug) : Done now c op a c es
  | put (hop : op.name? = some p.name.text)
      (h : op.Effect now (c.get? p.name.text) a (some p) es) : Done now c op a (c.put p) es
  | erase (hop : op.name? = some name) (h : op.Effect now (c.get? name) a none es) :
      Done now c op a (c.erase name) es

end Operation

-- ---------------------------------------------------------------------------
-- Reading a prompt and writing it back
-- ---------------------------------------------------------------------------

section
variable {c : Contents} {now : Timestamp}

theorem untouched_nil (e : Failure) : Untouched c e c [] := ⟨rfl, by simp⟩

theorem fetch_finds {Q : Procedure.Post Prompt} {E : Procedure.Post Failure}
    (hE : ∀ e, E e c es) (h : ∀ p, c.get? name = some p → Q p c es) :
    (fetch name).Ensures Q E c es := by
  refine .bind (.demand hE fun key hkey => ?_)
  obtain rfl := PromptName.ofString_eq_ok hkey
  exact .bind (.get hE (.ofOption hE h))

/-- A change of the prompt under a name may fail at any call and then changes nothing. -/
theorem mutate_writes {Q : Procedure.Post Prompt} {E : Procedure.Post Failure}
    {change : Prompt → Procedure Prompt} (hE : ∀ e, E e c es)
    (h : ∀ p, c.get? name = some p →
      (change p).Ensures (fun q c' es' => c' = c ∧ (∀ e, E e c es') ∧ Q q (c.put q) es') E c es) :
    (mutate name change).Ensures Q E c es := by
  refine .bind (fetch_finds hE fun p hp => .bind (.mono ?_ (h p hp)))
  rintro q c' es' ⟨rfl, hE', hQ⟩
  exact .update hE' fun _ => hQ

theorem fetch_ensures {Q : Procedure.Post Prompt} {E : Procedure.Post Failure} (hc : c.Keyed)
    (hE : ∀ e, E e c es) (h : ∀ p, c.get? name = some p → p.name.text = name → Q p c es) :
    (fetch name).Ensures Q E c es :=
  fetch_finds hE fun p hp => h p hp (hc name p hp)

theorem mutate_ensures {Q : Procedure.Post Prompt} {E : Procedure.Post Failure} (hc : c.Keyed)
    (hE : ∀ e, E e c es) {change : Prompt → Procedure Prompt}
    (h : ∀ p, c.get? name = some p → p.name.text = name →
      (change p).Ensures (fun q c' es' => c' = c ∧ (∀ e, E e c es') ∧ Q q (c.put q) es') E c es) :
    (mutate name change).Ensures Q E c es :=
  mutate_writes hE fun p hp => h p hp (hc name p hp)

-- ---------------------------------------------------------------------------
-- One rule for each operation that writes
-- ---------------------------------------------------------------------------

theorem Operation.Done.change {op : Operation} {a : op.Answer} {o : Option Prompt} {q : Prompt}
    (hop : op.name? = some name) (ho : c.get? name = o) (hname : q.name.text = name)
    (h : op.Effect now o a (some q) es) : op.Done now c a (c.put q) es := by
  subst hname
  exact .put hop (ho ▸ h)

theorem createPrompt_ensures {d : PromptDraft} :
    (createPrompt now d).Ensures (Operation.Done now c (.createPrompt d)) (Untouched c) c [] := by
  refine .bind (.demand untouched_nil fun name hname => ?_)
  refine .bind (.demand untouched_nil fun _ htags => ?_)
  have hname := PromptName.ofString_eq_ok hname
  have hE : ∀ e : Failure, Untouched c e c [.creating name.text] :=
    fun _ => ⟨rfl, by simp [Event.level]⟩
  refine .bind (.emit (.bind (.contains hE (.ite (fun _ => .fail (hE _)) fun hfree => ?_))))
  have hfree : c.get? name.text = none := Dict.contains_eq_false.1 (Bool.not_eq_true _ ▸ hfree)
  refine .bind (.create hE fun _ => .bind (.emit (.pure ?_)))
  refine .change rfl (hname ▸ hfree) hname ?_
  show Operation.Effect _ _ _ _ _ [.creating name.text, .promptCreated name.text]
  rw [hname]
  exact .createPrompt hname htags rfl

theorem updatePrompt_ensures (hc : c.Keyed) :
    (updatePrompt now name text).Ensures (Operation.Done now c (.updatePrompt name text))
      (Untouched c) c [] := by
  refine .bind (mutate_ensures hc untouched_nil fun p hp hname => .pure ⟨rfl, untouched_nil, ?_⟩)
  refine .bind (.emit (.pure (.change rfl hp hname ?_)))
  subst hname
  exact .updatePrompt

theorem deletePrompt_ensures :
    (deletePrompt name).Ensures (Operation.Done now c (.deletePrompt name)) (Untouched c) c [] := by
  refine .bind (.demand untouched_nil fun key hkey => ?_)
  obtain rfl := PromptName.ofString_eq_ok hkey
  refine .bind (.delete untouched_nil ?_)
  cases hfound : c.get? key.text with
  | none =>
    have herase : c.erase key.text = c := Dict.ext_get? fun k => by
      rw [Dict.get?_erase]
      split
      · next hk => rw [hk, hfound]
      · rfl
    rw [Contents.holds, Dict.contains_eq_false.2 hfound, herase]
    exact .fail (untouched_nil _)
  | some p =>
    rw [Contents.holds, Dict.contains_eq_true.2 ⟨p, hfound⟩]
    refine .emit (.erase rfl ?_)
    rw [hfound]
    exact .deletePrompt

theorem setPromptTag_ensures (hc : c.Keyed) :
    (setPromptTag now name key value).Ensures (Operation.Done now c (.setPromptTag name key value))
      (Untouched c) c [] := by
  refine .bind (.demand untouched_nil fun _ htag => ?_)
  refine .bind (mutate_ensures hc untouched_nil fun p hp hname => .pure ⟨rfl, untouched_nil, ?_⟩)
  exact .bind (.emit (.pure (.change rfl hp hname (.setPromptTag htag))))

theorem deletePromptTag_ensures (hc : c.Keyed) :
    (deletePromptTag now name key).Ensures (Operation.Done now c (.deletePromptTag name key))
      (Untouched c) c [] := by
  refine mutate_ensures hc untouched_nil fun p hp hname => ?_
  cases hq : p.deleteTag? now key with
  | some q =>
    have hcore := (Prompt.deleteTag?_eq_some hq).1
    exact .pure ⟨rfl, untouched_nil, .change rfl hp (hcore.name ▸ hname) (.deletePromptTag hq)⟩
  | none =>
    refine .bind (.emit (.pure ⟨rfl, fun _ => ⟨rfl, by simp [Event.level]⟩, ?_⟩))
    exact .change rfl hp hname (.keepPromptTag hq)

theorem createVersion_ensures (hc : c.Keyed) {d : NewVersion} :
    (createVersion now name d).Ensures (Operation.Done now c (.createVersion name d))
      (Untouched c) c [] := by
  refine .bind (.demand untouched_nil fun _ hversion => ?_)
  refine .bind (fetch_ensures hc untouched_nil fun p hp hname => ?_)
  refine .bind (.ofOption untouched_nil fun (v, q) hq => ?_)
  refine .bind (.update untouched_nil fun _ => .bind (.emit (.pure ?_)))
  have hqname := (Prompt.addVersion?_core hq).1 ▸ hname
  exact .change rfl hp hqname (.createVersion hversion hq)

theorem register_ensures (hc : c.Keyed) {r : Registration} :
    (register now r).Ensures (Operation.Done now c (.register r)) (Untouched c) c [] := by
  refine .bind (.demand untouched_nil fun name hname => ?_)
  refine .bind (.demand untouched_nil fun _ htags => ?_)
  refine .bind (.demand untouched_nil fun _ hversion => ?_)
  have hname := PromptName.ofString_eq_ok hname
  refine .bind (.get untouched_nil ?_)
  generalize hfound : c.get? name.text = found
  -- the prompt that takes the tags and the version stands under the name, be it new or not
  have hbase : (found.getD (.new now name r.description ∅)).name.text = r.name := by
    cases found with
    | none => exact hname
    | some p => exact (hc _ p hfound).trans hname
  have hcore := Prompt.setTags_sameCore now r.promptTags.entries
    (found.getD (.new now name r.description ∅))
  refine .bind (.ofOption untouched_nil fun (v, q) hq => ?_)
  have hqname := (Prompt.addVersion?_core hq).1 ▸ hcore.name ▸ hbase
  have hdone := Operation.Done.change rfl (hname ▸ hfound) hqname
    (.register hname htags hversion rfl hq)
  refine .ite (fun _ => .bind (.create untouched_nil fun _ => ?_))
    fun _ => .bind (.update untouched_nil fun _ => ?_)
  · exact .bind (.emit (.pure (hname ▸ hdone)))
  · exact .bind (.emit (.pure (hname ▸ hdone)))

theorem deleteVersion_ensures (hc : c.Keyed) :
    (deleteVersion now name n).Ensures (Operation.Done now c (.deleteVersion name n))
      (Untouched c) c [] := by
  refine .bind (.demand untouched_nil fun _ hnumber => ?_)
  refine .bind (fetch_ensures hc untouched_nil fun p hp hname => ?_)
  refine .bind (.ofOption untouched_nil fun q hq => ?_)
  refine .bind (.update untouched_nil fun _ => ?_)
  have hqname := (Prompt.deleteVersion?_eq_some hq).1 ▸ hname
  have hdone := Operation.Done.change rfl hp hqname (.deleteVersion hnumber hq)
  refine .ite (fun hlost => .bind (.emit (.emit ?_))) fun hlost => .emit ?_
  · rw [if_neg (by simpa using hlost)] at hdone
    exact hdone
  · rw [if_pos (by simpa using hlost)] at hdone
    exact hdone

theorem detailsOf_ensures {Q : Procedure.Post Details} {E : Procedure.Post Failure} {p : Prompt}
    (hv : p.version? n = some v) (h : Q (p.details v) c es) :
    (detailsOf p n).Ensures Q E c es := by
  unfold detailsOf
  rw [hv]
  exact h

theorem setVersionTag_ensures (hc : c.Keyed) :
    (setVersionTag now name n key value).Ensures
      (Operation.Done now c (.setVersionTag name n key value)) (Untouched c) c [] := by
  refine .bind (.demand untouched_nil fun _ hnumber => ?_)
  refine .bind (.demand untouched_nil fun _ htag => ?_)
  refine .bind (mutate_ensures hc untouched_nil fun p hp hname => ?_)
  refine .ofOption untouched_nil fun q hq => ⟨rfl, untouched_nil, .bind (.emit ?_)⟩
  have hcore := (Prompt.setVersionTag?_eq_some hq).1
  obtain ⟨v, hv⟩ := Option.isSome_iff_exists.1 (Prompt.isSome_setVersionTag? hq)
  exact detailsOf_ensures hv
    (.change rfl hp (hcore.name ▸ hname) (.setVersionTag hnumber htag hq hv))

theorem deleteVersionTag_ensures (hc : c.Keyed) :
    (deleteVersionTag now name n key).Ensures (Operation.Done now c (.deleteVersionTag name n key))
      (Untouched c) c [] := by
  refine .bind (.demand untouched_nil fun _ hnumber => ?_)
  refine .bind (mutate_ensures hc untouched_nil fun p hp hname => ?_)
  refine .ofOption untouched_nil fun q hq => ⟨rfl, untouched_nil, ?_⟩
  obtain ⟨⟨changed, q⟩, hdeleted, rfl⟩ := Option.map_eq_some_iff.1 hq
  have hcore := (Prompt.deleteVersionTag?_eq_some hdeleted).1
  obtain ⟨v, hv⟩ := Option.isSome_iff_exists.1 (Prompt.isSome_deleteVersionTag? hdeleted)
  exact detailsOf_ensures hv
    (.change rfl hp (hcore.name ▸ hname) (.deleteVersionTag hnumber hdeleted hv))

theorem setAlias_ensures (hc : c.Keyed) :
    (setAlias now name a n).Ensures (Operation.Done now c (.setAlias name a n))
      (Untouched c) c [] := by
  refine .bind (.demand untouched_nil fun _ halias => ?_)
  refine .bind (.demand untouched_nil fun _ hnumber => ?_)
  refine .bind (fetch_ensures hc untouched_nil fun p hp hname => ?_)
  refine .bind (.ofOption untouched_nil fun q hq => ?_)
  refine .bind (.update untouched_nil fun _ => .bind (.emit ?_))
  obtain ⟨hn, rfl⟩ := Prompt.setAlias?_eq_some hq
  obtain ⟨v, hv⟩ := Option.isSome_iff_exists.1 hn
  exact detailsOf_ensures hv (.change rfl hp hname (.setAlias halias hnumber hq hv))

theorem deleteAlias_ensures (hc : c.Keyed) :
    (deleteAlias now name a).Ensures (Operation.Done now c (.deleteAlias name a))
      (Untouched c) c [] := by
  refine .bind (mutate_ensures hc untouched_nil fun p hp hname => ?_)
  refine .ofOption untouched_nil fun q hq => ⟨rfl, untouched_nil, .emit ?_⟩
  have hqname : q.name.text = name := by rw [Prompt.deleteAlias?_eq_some hq]; exact hname
  exact .change rfl hp hqname (.deleteAlias hq)

end

-- ---------------------------------------------------------------------------
-- Operations that only look
-- ---------------------------------------------------------------------------

theorem getPrompt_reads : (getPrompt name).Reads :=
  .bind .demand fun _ => .bind (.emit rfl) fun _ => .get

theorem requirePrompt_reads : (requirePrompt name).Reads :=
  .bind getPrompt_reads fun _ => .ofOption

theorem searchPrompts_reads : (searchPrompts sizes q).Reads :=
  .bind .demand fun _ => .bind .demand fun _ => .bind .demand fun _ => .bind .demand fun _ =>
    .bind .list fun _ => .bind (.emit rfl) fun _ => .pure

theorem resolve_reads : (resolve name reference).Reads := by
  refine .bind getPrompt_reads fun found => ?_
  cases found with
  | some p => exact .pure
  | none => exact .pure

theorem loadUri_reads : (loadUri uri).Reads :=
  .bind (.emit rfl) fun _ => .bind resolve_reads fun _ => .ofOption

theorem formatUri_reads : (formatUri uri values allowPartial).Reads :=
  .bind loadUri_reads fun _ => .bind .demand fun _ => .bind (.emit rfl) fun _ => .pure

theorem searchVersions_reads : (searchVersions sizes name size token).Reads :=
  .bind .demand fun _ => .bind .demand fun _ => .bind requirePrompt_reads fun _ => .pure

theorem Operation.procedure_reads {op : Operation} (hop : op.isReading = true) :
    (op.procedure sizes now).Reads := by
  cases op with
  | getPrompt name => exact getPrompt_reads
  | requirePrompt name => exact requirePrompt_reads
  | searchPrompts q => exact searchPrompts_reads
  | getVersion name n => exact .bind .demand fun _ => resolve_reads
  | getByAlias name a => exact resolve_reads
  | load uri => exact .bind .demand fun _ => loadUri_reads
  | searchVersions name size token => exact searchVersions_reads
  | format uri values allowPartial => exact .bind .demand fun _ => formatUri_reads
  | formatVersion name n values allowPartial => exact .bind .demand fun _ => formatUri_reads
  | count => exact Reads.count
  | _ => cases hop

/-- Over contents with every prompt under its own name, an operation that succeeds has its effect,
and one that fails leaves the contents untouched. -/
theorem Operation.procedure_ensures (hc : c.Keyed) (op : Operation) :
    (op.procedure sizes now).Ensures (op.Done now c) (Untouched c) c [] := by
  cases hop : op.isReading with
  | true =>
    refine .mono ?_ (procedure_reads hop c [] (by simp))
    rintro a c' es ⟨rfl, hes⟩
    exact .read hop hes
  | false =>
    cases op with
    | createPrompt d => exact createPrompt_ensures
    | updatePrompt name text => exact updatePrompt_ensures hc
    | deletePrompt name => exact deletePrompt_ensures
    | setPromptTag name key value => exact setPromptTag_ensures hc
    | deletePromptTag name key => exact deletePromptTag_ensures hc
    | createVersion name d => exact createVersion_ensures hc
    | register r => exact register_ensures hc
    | deleteVersion name n => exact deleteVersion_ensures hc
    | setVersionTag name n key value => exact setVersionTag_ensures hc
    | deleteVersionTag name n key => exact deleteVersionTag_ensures hc
    | setAlias name a n => exact setAlias_ensures hc
    | deleteAlias name a => exact deleteAlias_ensures hc
    | _ => cases hop

end PromptRegistry.Registry
