import PromptRegistry.Proofs.Procedure.Healthy
import PromptRegistry.Proofs.Registry.Effect

/-!
# What operations fail for

Over contents with every prompt under its own name and with numbers left to give out, and unless the
storage fails, an operation fails because it is refused, because something that it needs is missing
(`Operation.absent?`), or because it is to create what is there already (`Operation.Clashes`). It
then has changed nothing, and no call of the storage has failed before
(`Operation.procedure_settles`).
-/

namespace PromptRegistry

/-- No prompt has given out all numbers. -/
def Contents.Unexhausted (c : Contents) : Prop :=
  ∀ name p, c.get? name = some p → p.lastVersion.toNat + 1 < UInt32.size

theorem Contents.unexhausted_empty : Contents.Unexhausted ∅ := by
  intro name p hp
  cases hp

theorem Contents.Unexhausted.put {c : Contents} (h : c.Unexhausted)
    (hp : p.lastVersion.toNat + 1 < UInt32.size) : (c.put p).Unexhausted := by
  intro name q hq
  rw [Contents.put, Dict.get?_insert] at hq
  split at hq
  · cases hq
    exact hp
  · exact h name q hq

namespace Registry

-- ---------------------------------------------------------------------------
-- What is missing
-- ---------------------------------------------------------------------------

def absentPart (c : Contents) (name : String) (has : Prompt → Bool) (part : Missing) :
    Option Missing :=
  match c.get? name with
  | none => some (.prompt name)
  | some p => if has p then none else some part

def absentTarget (c : Contents) (uri : Uri) : Option Missing :=
  if ((c.get? uri.name).bind (·.resolve uri.reference)).isSome then none else some (.target uri)

namespace Operation

def absent? (c : Contents) : Operation → Option Missing
  | .requirePrompt name | .updatePrompt name _ | .deletePrompt name | .setPromptTag name _ _
  | .deletePromptTag name _ | .createVersion name _ | .searchVersions name _ _ =>
    absentPart c name (fun _ => true) (.prompt name)
  | .deleteVersion name n | .setVersionTag name n _ _ | .deleteVersionTag name n _
  | .setAlias name _ n => absentPart c name (fun p => (p.version? n).isSome) (.version name n)
  | .deleteAlias name a => absentPart c name (·.aliases.contains a) (.aliasOf name a)
  | .load uri | .format uri _ _ => (Uri.parse uri).toOption.bind (absentTarget c)
  | .formatVersion name n _ _ => absentTarget c ⟨name, .version n⟩
  | .createPrompt _ | .getPrompt _ | .searchPrompts _ | .register _ | .getVersion _ _
  | .getByAlias _ _ | .count => none

/-- An operation is to create what is there already, and may do so otherwise. -/
def Clashes (c : Contents) : Operation → Taken → Prop
  | .createPrompt d, what => what = .prompt d.name ∧ Rules.checkName d.name = .ok () ∧
    checkTags d.tags = .ok () ∧ c.contains d.name = true
  | _, _ => False

def Unhindered (c : Contents) (op : Operation) : Prop :=
  op.absent? c = none ∧ ∀ what, ¬op.Clashes c what

inductive Fails (c : Contents) (op : Operation) : Failure → Prop
  | refused (h : ∀ what, ¬op.Clashes c what) : Fails c op (.refused why)
  | missing (h : op.absent? c = some what) : Fails c op (.missing what)
  | taken (h : op.Clashes c what) : Fails c op (.taken what)

def Settles (c : Contents) (op : Operation) (p : Procedure α) : Prop :=
  p.Settles (fun _ _ _ => op.Unhindered c) (op.Fails c) c false

end Operation

-- ---------------------------------------------------------------------------
-- Looking for a prompt and its parts
-- ---------------------------------------------------------------------------

section
variable {c : Contents} {op : Operation} {now : Timestamp}

theorem absentPart_of_none (h : c.get? name = none) (has : Prompt → Bool) (part : Missing) :
    absentPart c name has part = some (.prompt name) := by
  rw [absentPart, h]

theorem absentPart_of_some (h : c.get? name = some p) (has : Prompt → Bool) (part : Missing) :
    absentPart c name has part = if has p then none else some part := by
  rw [absentPart, h]

theorem absentTarget_eq (uri : Uri) : absentTarget c uri =
    match (c.get? uri.name).bind fun p => (p.resolve uri.reference).map p.details with
      | some _ => none
      | none => some (.target uri) := by
  rw [absentTarget]
  cases c.get? uri.name with
  | none => rfl
  | some p => cases hv : p.resolve uri.reference <;> simp [hv]

theorem holds_of_get? {q : Prompt} (hp : c.get? name = some p) (hname : q.name.text = name) :
    c.holds q.name = true := by
  subst hname
  exact Dict.contains_eq_true.2 ⟨p, hp⟩

theorem check_settles {Q : α → Contents → Bool → Prop} {r : Except ε α}
    (hop : ∀ what, ¬op.Clashes c what) (h : ∀ a, r = .ok a → Q a c false) :
    (Procedure.demand refusal r).Settles Q (op.Fails c) c false :=
  .demand (fun _ _ => .refused hop) h

theorem fetch_settles {Q : Prompt → Contents → Bool → Prop} (hc : c.Keyed)
    (habsent : op.absent? c = absentPart c name has part) (hop : ∀ what, ¬op.Clashes c what)
    (h : ∀ p, c.get? name = some p → p.name.text = name → Q p c false) :
    (fetch name).Settles Q (op.Fails c) c false := by
  refine .bind (check_settles hop fun key hkey => ?_)
  obtain rfl := PromptName.ofString_eq_ok hkey
  refine .bind (.get (.ofOption (fun hnone => ?_) fun p hp => h p hp (hc _ p hp)))
  exact .missing (habsent.trans (absentPart_of_none hnone _ _))

theorem mutate_settles {Q : Prompt → Contents → Bool → Prop} {change : Prompt → Procedure Prompt}
    (hc : c.Keyed) (habsent : op.absent? c = absentPart c name has part)
    (hop : ∀ what, ¬op.Clashes c what)
    (h : ∀ p, c.get? name = some p → p.name.text = name →
      (change p).Settles (fun q c' _ => c' = c ∧ q.name = p.name ∧ Q q (c.put q) true)
        (op.Fails c) c false) :
    (mutate name change).Settles Q (op.Fails c) c false := by
  refine .bind (fetch_settles hc habsent hop fun p hp hname => .bind (.mono ?_ (h p hp hname)))
  rintro q c' _ ⟨rfl, hq, hQ⟩
  exact .update (holds_of_get? hp (hq ▸ hname)) hQ

theorem part_settles {Q : α → Contents → Bool → Prop} {o : Option α}
    (habsent : op.absent? c = absentPart c name has part) (hp : c.get? name = some p)
    (ho : o.isSome = has p) (h : ∀ a, o = some a → op.absent? c = none → Q a c false) :
    (Procedure.ofOption (.missing part) o).Settles Q (op.Fails c) c false := by
  rw [absentPart_of_some hp, ← ho] at habsent
  refine .ofOption (fun hnone => .missing ?_) fun a ha => h a ha ?_
  · rw [habsent, hnone]
    rfl
  · rw [habsent, ha]
    rfl

theorem detailsOf_settles {Q : Details → Contents → Bool → Prop} {p : Prompt}
    (hv : p.version? n = some v) (h : Q (p.details v) c written) :
    (detailsOf p n).Settles Q E c written := by
  unfold detailsOf
  rw [hv]
  exact h

theorem getPrompt_settles {Q : Option Prompt → Contents → Bool → Prop}
    (hop : ∀ what, ¬op.Clashes c what) (h : Q (c.get? name) c false) :
    (getPrompt name).Settles Q (op.Fails c) c false := by
  refine .bind (check_settles hop fun key hkey => ?_)
  obtain rfl := PromptName.ofString_eq_ok hkey
  exact .bind (.emit (.get h))

theorem requirePrompt_settles {Q : Prompt → Contents → Bool → Prop}
    (habsent : op.absent? c = absentPart c name has part) (hop : ∀ what, ¬op.Clashes c what)
    (h : ∀ p, c.get? name = some p → Q p c false) :
    (requirePrompt name).Settles Q (op.Fails c) c false := by
  refine .bind (getPrompt_settles hop (.ofOption (fun hnone => ?_) h))
  exact .missing (habsent.trans (absentPart_of_none hnone _ _))

theorem resolve_settles {Q : Option Details → Contents → Bool → Prop}
    (hop : ∀ what, ¬op.Clashes c what)
    (h : Q ((c.get? name).bind fun p => (p.resolve reference).map p.details) c false) :
    (resolve name reference).Settles Q (op.Fails c) c false := by
  refine .bind (getPrompt_settles hop ?_)
  generalize c.get? name = found at h
  cases found <;> exact h

theorem loadUri_settles {Q : Details → Contents → Bool → Prop}
    (hop : ∀ what, ¬op.Clashes c what) (habsent : op.absent? c = absentTarget c uri)
    (h : ∀ d, op.absent? c = none → Q d c false) :
    (loadUri uri).Settles Q (op.Fails c) c false := by
  rw [absentTarget_eq] at habsent
  refine .bind (.emit (.bind (resolve_settles hop (.ofOption (fun hd => ?_) fun d hd => ?_))))
  · rw [hd] at habsent
    exact .missing habsent
  · rw [hd] at habsent
    exact h d habsent

theorem formatUri_settles {Q : FilledVersion → Contents → Bool → Prop}
    (hop : ∀ what, ¬op.Clashes c what) (habsent : op.absent? c = absentTarget c uri)
    (h : ∀ f, op.absent? c = none → Q f c false) :
    (formatUri uri values allowPartial).Settles Q (op.Fails c) c false := by
  refine .bind (loadUri_settles hop habsent fun d hd => ?_)
  exact .bind (check_settles hop fun _ _ => .bind (.emit (.pure (h _ hd))))

-- ---------------------------------------------------------------------------
-- One rule for each operation that writes
-- ---------------------------------------------------------------------------

theorem createPrompt_settles {d : PromptDraft} :
    (Operation.createPrompt d).Settles c (createPrompt now d) := by
  refine .bind (.demand (fun e he => .refused ?_) fun name hname => ?_)
  · rintro _ ⟨-, hvalid, -⟩
    cases (PromptName.ofString_eq_error.1 he).symm.trans hvalid
  refine .bind (.demand (fun e he => .refused ?_) fun _ htags => ?_)
  · rintro _ ⟨-, -, htags, -⟩
    cases he.symm.trans htags
  obtain hname := PromptName.ofString_eq_ok hname
  refine .bind (.emit (.bind (.contains (.ite (fun hheld => .fail ?_) fun hfree => ?_))))
  · rw [hname]
    exact .taken ⟨rfl, hname ▸ name.valid, htags, hname ▸ hheld⟩
  · rw [Bool.not_eq_true] at hfree
    refine .bind (.create hfree (.bind (.emit (.pure ⟨rfl, ?_⟩))))
    rintro _ ⟨-, -, -, hheld⟩
    rw [Contents.holds, hname, hheld] at hfree
    cases hfree

theorem updatePrompt_settles (hc : c.Keyed) :
    (Operation.updatePrompt name text).Settles c (updatePrompt now name text) := by
  refine .bind (mutate_settles hc rfl (fun _ => id) fun p hp _ => .pure ⟨rfl, rfl, ?_⟩)
  exact .bind (.emit (.pure ⟨absentPart_of_some hp _ _, fun _ => id⟩))

theorem deletePrompt_settles :
    (Operation.deletePrompt name).Settles c (deletePrompt name) := by
  refine .bind (check_settles (fun _ => id) fun key hkey => ?_)
  obtain rfl := PromptName.ofString_eq_ok hkey
  refine .bind (.delete ?_)
  cases hfound : c.get? key.text with
  | none =>
    rw [Contents.holds, Dict.contains_eq_false.2 hfound]
    exact .fail (.missing (absentPart_of_none hfound _ _))
  | some p =>
    rw [Contents.holds, Dict.contains_eq_true.2 ⟨p, hfound⟩]
    exact .emit ⟨absentPart_of_some hfound _ _, fun _ => id⟩

theorem setPromptTag_settles (hc : c.Keyed) :
    (Operation.setPromptTag name key value).Settles c (setPromptTag now name key value) := by
  refine .bind (check_settles (fun _ => id) fun _ _ => ?_)
  refine .bind (mutate_settles hc rfl (fun _ => id) fun p hp _ => .pure ⟨rfl, rfl, ?_⟩)
  exact .bind (.emit (.pure ⟨absentPart_of_some hp _ _, fun _ => id⟩))

theorem deletePromptTag_settles (hc : c.Keyed) :
    (Operation.deletePromptTag name key).Settles c (deletePromptTag now name key) := by
  refine mutate_settles hc rfl (fun _ => id) fun p hp _ => ?_
  have hdone : (Operation.deletePromptTag name key).Unhindered c :=
    ⟨absentPart_of_some hp _ _, fun _ => id⟩
  cases hq : p.deleteTag? now key with
  | some q => exact .pure ⟨rfl, (Prompt.deleteTag?_eq_some hq).1.name, hdone⟩
  | none => exact .bind (.emit (.pure ⟨rfl, rfl, hdone⟩))

theorem addVersion_settles {Q : Version × Prompt → Contents → Bool → Prop} {p : Prompt}
    (hroom : p.lastVersion.toNat + 1 < UInt32.size)
    (h : ∀ v q, p.addVersion? now d = some (v, q) → Q (v, q) c false) :
    (Procedure.ofOption .exhausted (p.addVersion? now d)).Settles Q (op.Fails c) c false := by
  refine .ofOption (fun hnone => ?_) fun (v, q) hq => h v q hq
  have hsome := (p.addVersion?_isSome now d).2 hroom
  rw [hnone] at hsome
  cases hsome

theorem createVersion_settles (hc : c.Keyed) (hroom : c.Unexhausted) {d : NewVersion} :
    (Operation.createVersion name d).Settles c (createVersion now name d) := by
  refine .bind (check_settles (fun _ => id) fun _ _ => ?_)
  refine .bind (fetch_settles hc rfl (fun _ => id) fun p hp hname => ?_)
  refine .bind (addVersion_settles (hroom _ p hp) fun v q hq => ?_)
  have hqname := (Prompt.addVersion?_core hq).1 ▸ hname
  refine .bind (.update (holds_of_get? hp hqname) (.bind (.emit (.pure ?_))))
  exact ⟨absentPart_of_some hp _ _, fun _ => id⟩

theorem register_settles (hc : c.Keyed) (hroom : c.Unexhausted) {r : Registration} :
    (Operation.register r).Settles c (register now r) := by
  refine .bind (check_settles (fun _ => id) fun name hname => ?_)
  refine .bind (check_settles (fun _ => id) fun _ _ => ?_)
  refine .bind (check_settles (fun _ => id) fun _ _ => ?_)
  refine .bind (.get ?_)
  -- the prompt that takes the tags keeps the name that was looked up and the highest number
  have hcore (p : Prompt) := Prompt.setTags_sameCore now r.promptTags.entries p
  have hlast (p : Prompt) : (p.setTags now r.promptTags.entries).lastVersion = p.lastVersion :=
    congrArg Core.lastVersion (hcore p).core
  cases hfound : c.get? name.text with
  | none =>
    have hzero := hlast (.new now name r.description ∅)
    refine .bind (addVersion_settles (hzero.symm ▸ show 0 + 1 < UInt32.size by decide) fun v q hq =>
      ?_)
    have hqname : q.name = name := (Prompt.addVersion?_core hq).1.trans (hcore _).name
    have hfree : c.holds q.name = false := hqname ▸ Dict.contains_eq_false.2 hfound
    exact .bind (.create hfree (.bind (.emit (.pure ⟨rfl, fun _ => id⟩))))
  | some p =>
    refine .bind (addVersion_settles ((hlast p).symm ▸ hroom _ p hfound) fun v q hq => ?_)
    have hqname : q.name = p.name := (Prompt.addVersion?_core hq).1.trans (hcore p).name
    have hheld : c.holds q.name = true := holds_of_get? hfound (hqname ▸ hc _ p hfound)
    exact .bind (.update hheld (.bind (.emit (.pure ⟨rfl, fun _ => id⟩))))

theorem deleteVersion_settles (hc : c.Keyed) :
    (Operation.deleteVersion name n).Settles c (deleteVersion now name n) := by
  refine .bind (check_settles (fun _ => id) fun _ _ => ?_)
  refine .bind (fetch_settles hc rfl (fun _ => id) fun p hp hname => ?_)
  refine .bind (part_settles rfl hp (p.deleteVersion?_isSome n) fun q hq hthere => ?_)
  have hqname := (Prompt.deleteVersion?_eq_some hq).1 ▸ hname
  refine .bind (.update (holds_of_get? hp hqname) ?_)
  exact .ite (fun _ => .bind (.emit (.emit ⟨hthere, fun _ => id⟩)))
    fun _ => .emit ⟨hthere, fun _ => id⟩

theorem setVersionTag_settles (hc : c.Keyed) :
    (Operation.setVersionTag name n key value).Settles c (setVersionTag now name n key value) := by
  refine .bind (check_settles (fun _ => id) fun _ _ => ?_)
  refine .bind (check_settles (fun _ => id) fun _ _ => ?_)
  refine .bind (mutate_settles hc rfl (fun _ => id) fun p hp hname => ?_)
  rw [hname]
  refine part_settles rfl hp (p.setVersionTag?_isSome n) fun q hq hthere => ?_
  obtain ⟨v, hv⟩ := Option.isSome_iff_exists.1 (Prompt.isSome_setVersionTag? hq)
  refine ⟨rfl, (Prompt.setVersionTag?_eq_some hq).1.name, .bind (.emit ?_)⟩
  exact detailsOf_settles hv ⟨hthere, fun _ => id⟩

theorem deleteVersionTag_settles (hc : c.Keyed) :
    (Operation.deleteVersionTag name n key).Settles c (deleteVersionTag now name n key) := by
  refine .bind (check_settles (fun _ => id) fun _ _ => ?_)
  refine .bind (mutate_settles hc rfl (fun _ => id) fun p hp hname => ?_)
  rw [hname]
  refine part_settles rfl hp (Option.isSome_map.trans (p.deleteVersionTag?_isSome n))
    fun q hq hthere => ?_
  obtain ⟨⟨changed, q⟩, hdeleted, rfl⟩ := Option.map_eq_some_iff.1 hq
  obtain ⟨v, hv⟩ := Option.isSome_iff_exists.1 (Prompt.isSome_deleteVersionTag? hdeleted)
  refine ⟨rfl, (Prompt.deleteVersionTag?_eq_some hdeleted).1.name, ?_⟩
  exact detailsOf_settles hv ⟨hthere, fun _ => id⟩

theorem setAlias_settles (hc : c.Keyed) :
    (Operation.setAlias name a n).Settles c (setAlias now name a n) := by
  refine .bind (check_settles (fun _ => id) fun _ _ => ?_)
  refine .bind (check_settles (fun _ => id) fun _ _ => ?_)
  refine .bind (fetch_settles hc rfl (fun _ => id) fun p hp hname => ?_)
  rw [hname]
  refine .bind (part_settles rfl hp (p.setAlias?_isSome n) fun q hq hthere => ?_)
  obtain ⟨hn, rfl⟩ := Prompt.setAlias?_eq_some hq
  obtain ⟨v, hv⟩ := Option.isSome_iff_exists.1 hn
  refine .bind (.update (holds_of_get? hp hname) (.bind (.emit ?_)))
  exact detailsOf_settles hv ⟨hthere, fun _ => id⟩

theorem deleteAlias_settles (hc : c.Keyed) :
    (Operation.deleteAlias name a).Settles c (deleteAlias now name a) := by
  refine .bind (mutate_settles hc rfl (fun _ => id) fun p hp hname => ?_)
  refine part_settles rfl hp (p.deleteAlias?_isSome a) fun q hq hthere => ?_
  obtain rfl := Prompt.deleteAlias?_eq_some hq
  exact ⟨rfl, rfl, .emit ⟨hthere, fun _ => id⟩⟩

-- ---------------------------------------------------------------------------
-- Operations that only look
-- ---------------------------------------------------------------------------

theorem searchPrompts_settles :
    (Operation.searchPrompts q).Settles c (searchPrompts sizes q) := by
  refine .bind (check_settles (fun _ => id) fun _ _ => ?_)
  refine .bind (check_settles (fun _ => id) fun _ _ => ?_)
  refine .bind (check_settles (fun _ => id) fun _ _ => ?_)
  refine .bind (check_settles (fun _ => id) fun _ _ => ?_)
  exact .bind (.list fun _ => .bind (.emit (.pure ⟨rfl, fun _ => id⟩)))

theorem searchVersions_settles :
    (Operation.searchVersions name size token).Settles c
      (searchVersions sizes name size token) := by
  refine .bind (check_settles (fun _ => id) fun _ _ => ?_)
  refine .bind (check_settles (fun _ => id) fun _ _ => ?_)
  refine .bind (requirePrompt_settles rfl (fun _ => id) fun p hp => .pure ?_)
  exact ⟨absentPart_of_some hp _ _, fun _ => id⟩

theorem load_settles :
    (Operation.load uri).Settles c (load uri) := by
  refine .bind (check_settles (fun _ => id) fun u hu => ?_)
  have habsent : (Operation.load uri).absent? c = absentTarget c u := by
    rw [Operation.absent?, hu]
    rfl
  refine loadUri_settles (fun _ => id) habsent fun d hd => ?_
  exact ⟨hd, fun _ => id⟩

theorem format_settles :
    (Operation.format uri values allowPartial).Settles c (format uri values allowPartial) := by
  refine .bind (check_settles (fun _ => id) fun u hu => ?_)
  have habsent : (Operation.format uri values allowPartial).absent? c = absentTarget c u := by
    rw [Operation.absent?, hu]
    rfl
  refine formatUri_settles (fun _ => id) habsent fun f hf => ?_
  exact ⟨hf, fun _ => id⟩

/-- Over contents with every prompt under its own name and with numbers left, an operation calls the
storage so that it does not fail. The operation succeeds if nothing is in its way, and else it fails
before it has changed anything. -/
theorem Operation.procedure_settles (hc : c.Keyed) (hroom : c.Unexhausted)
    (sizes : Search.PageSizes) (now : Timestamp) (op : Operation) :
    op.Settles c (op.procedure sizes now) := by
  cases op with
  | createPrompt d => exact createPrompt_settles
  | getPrompt name => exact getPrompt_settles (fun _ => id) ⟨rfl, fun _ => id⟩
  | requirePrompt name =>
    exact requirePrompt_settles rfl (fun _ => id)
      fun p hp => ⟨absentPart_of_some hp _ _, fun _ => id⟩
  | updatePrompt name text => exact updatePrompt_settles hc
  | deletePrompt name => exact deletePrompt_settles
  | setPromptTag name key value => exact setPromptTag_settles hc
  | deletePromptTag name key => exact deletePromptTag_settles hc
  | searchPrompts q => exact searchPrompts_settles
  | createVersion name d => exact createVersion_settles hc hroom
  | register r => exact register_settles hc hroom
  | getVersion name n =>
    exact .bind (check_settles (fun _ => id) fun _ _ =>
      resolve_settles (fun _ => id) ⟨rfl, fun _ => id⟩)
  | getByAlias name a => exact resolve_settles (fun _ => id) ⟨rfl, fun _ => id⟩
  | load uri => exact load_settles
  | deleteVersion name n => exact deleteVersion_settles hc
  | setVersionTag name n key value => exact setVersionTag_settles hc
  | deleteVersionTag name n key => exact deleteVersionTag_settles hc
  | searchVersions name size token => exact searchVersions_settles
  | setAlias name a n => exact setAlias_settles hc
  | deleteAlias name a => exact deleteAlias_settles hc
  | format uri values allowPartial => exact format_settles
  | formatVersion name n values allowPartial =>
    exact .bind (check_settles (fun _ => id) fun _ _ =>
      formatUri_settles (fun _ => id) rfl fun _ hthere => ⟨hthere, fun _ => id⟩)
  | count => exact .count ⟨rfl, fun _ => id⟩

end

-- ---------------------------------------------------------------------------
-- Runs
-- ---------------------------------------------------------------------------

/-- How an operation ends that meets no failure of the storage: its result, and the calls that it
made with their answers. -/
structure Operation.Faultless (c : Contents) (op : Operation) (result : Except Failure op.Answer)
    (replies : List Reply) : Prop where
  kind : ∀ e, result = .error e → e.kind = .validation ∨ e.kind = .notFound ∨ e.kind = .conflict
  taken : ∀ what, result = .error (.taken what) ↔ op.Clashes c what
  missing : ∀ what, result = .error (.missing what) → op.absent? c = some what
  absent : ∀ what, op.absent? c = some what →
    result = .error (.missing what) ∨ ∃ why, result = .error (.refused why)
  /-- No call of the storage fails. -/
  answered : ∀ r ∈ replies, r.Succeeds
  /-- Nothing fails after a change. -/
  changed : ∀ r ∈ replies, r.Writes → ∃ a, result = .ok a

namespace Operation

variable {c : Contents} {op : Operation}

theorem absent?_of_clashes (h : op.Clashes c what) : op.absent? c = none := by
  cases op with
  | createPrompt d => rfl
  | _ => cases h

theorem Fails.of_clashes (h : op.Fails c e) (hclash : op.Clashes c what) : e = .taken what := by
  cases h with
  | refused hnone => exact absurd hclash (hnone what)
  | missing habsent => cases (absent?_of_clashes hclash).symm.trans habsent
  | taken h =>
    cases op with
    | createPrompt d => rw [h.1, hclash.1]
    | _ => cases h

theorem Fails.of_absent (h : op.Fails c e) (habsent : op.absent? c = some what) :
    e = .missing what ∨ ∃ why, e = .refused why := by
  cases h with
  | refused => exact .inr ⟨_, rfl⟩
  | missing h =>
    obtain rfl := Option.some.inj (h.symm.trans habsent)
    exact .inl rfl
  | taken h => cases (absent?_of_clashes h).symm.trans habsent

theorem Fails.kind (h : op.Fails c e) :
    e.kind = .validation ∨ e.kind = .notFound ∨ e.kind = .conflict := by
  cases h with
  | refused => exact .inl rfl
  | missing => exact .inr (.inl rfl)
  | taken => exact .inr (.inr rfl)

theorem run_faultless {st : Storage σ} {contents : σ → Contents} {s : σ}
    (hst : st.Healthy contents) (hc : (contents s).Keyed) (hroom : (contents s).Unexhausted)
    (sizes : Search.PageSizes) (now : Timestamp) (op : Operation) :
    op.Faultless (contents s) (op.run sizes st now s).result
      ((op.procedure sizes now).replies st s) := by
  obtain ⟨hanswered, hvalue, hfailure⟩ := (op.procedure_settles hc hroom sizes now).run hst
  show op.Faultless _ ((op.procedure sizes now).run st s).result _
  generalize ((op.procedure sizes now).run st s).result = result at hvalue hfailure
  cases result with
  | ok a =>
    obtain ⟨-, habsent, hclash⟩ := hvalue a rfl
    refine ⟨nofun, fun what => ⟨nofun, fun h => absurd h (hclash what)⟩, nofun, fun what h => ?_,
      hanswered, fun _ _ _ => ⟨a, rfl⟩⟩
    cases habsent.symm.trans h
  | error e =>
    obtain ⟨hfails, -, hwrites⟩ := hfailure e rfl
    refine ⟨?_, fun what => ⟨?_, fun h => ?_⟩, ?_, fun what h => ?_, hanswered,
      fun r hr h => absurd h (hwrites r hr)⟩
    · rintro _ ⟨⟩
      exact hfails.kind
    · rintro ⟨⟩
      cases hfails
      assumption
    · rw [hfails.of_clashes h]
    · rintro _ ⟨⟩
      cases hfails
      assumption
    · rcases hfails.of_absent h with rfl | ⟨why, rfl⟩
      · exact .inl rfl
      · exact .inr ⟨why, rfl⟩

end Operation

end Registry

end PromptRegistry
