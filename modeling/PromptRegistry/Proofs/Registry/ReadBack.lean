import PromptRegistry.Proofs.Registry.Evaluation
import PromptRegistry.Proofs.Registry.Permanence

/-!
# What is written is read

What an operation answers is what is read right after it (`ReadBack`): the prompt under its name,
the details of a version by its number and by its address, and nothing where something was deleted.
So it is over prompts that are in order (`Consistent`), since the number of a version that is added
is of no other version.
-/

namespace PromptRegistry

/-- What reads rely on in a prompt under a key: its versions are of its name, their numbers ascend,
and its aliases may be assigned and point at versions. -/
structure Prompt.Consistent (key : String) (p : Prompt) : Prop where
  name : p.name.text = key
  versionNames : ∀ v ∈ p.versions, v.name = key
  numbered : p.Numbered
  aliases : ∀ a n, p.aliases.get? a = some n →
    Rules.checkAlias a = .ok () ∧ (p.version? n).isSome

def Contents.Consistent (c : Contents) : Prop :=
  ∀ key p, c.get? key = some p → p.Consistent key

theorem Contents.Consistent.keyed {c : Contents} (h : c.Consistent) : c.Keyed :=
  fun key p hp => (h key p hp).name

namespace Prompt

variable {p q : Prompt} {now : Timestamp}

theorem Consistent.version?_next {key : String} (h : p.Consistent key)
    (hnext : n.toNat = p.lastVersion.toNat + 1) : p.version? n = none := by
  have hnone := (numbered_core.2 h.numbered).version?_next hnext
  rw [core_version?] at hnone
  exact Option.map_eq_none_iff.1 hnone

theorem version?_append_self (h : p.version? v.number = none) :
    (p.append now v).version? v.number = some v := by
  unfold version? at h ⊢
  simp only [append, touch, List.find?_append, h, Option.none_or]
  exact List.find?_cons_of_pos (decide_eq_true rfl)

theorem Consistent.aliasesOf_eq_nil {key : String} (h : p.Consistent key)
    (hn : p.version? n = none) : p.aliasesOf n = [] := by
  have hnone : ∀ e ∈ p.aliases.entries, ¬decide (e.2 = n) = true := by
    rintro ⟨a, m⟩ he hm
    have hsome := (h.aliases a m (Dict.mem_toList.1 he)).2
    obtain rfl : m = n := of_decide_eq_true hm
    rw [hn] at hsome
    cases hsome
  show (p.aliases.entries.filter fun e => e.2 = n).map (·.1) = []
  rw [List.filter_eq_nil_iff.2 hnone, List.map_nil]

theorem consistent_of_empty {key : String} (hname : p.name.text = key) (hversions : p.versions = [])
    (haliases : p.aliases = ∅) : p.Consistent key where
  name := hname
  versionNames := by
    rw [hversions]
    exact List.forall_mem_nil _
  numbered := by
    constructor <;> rw [hversions]
    · exact .nil
    · exact List.forall_mem_nil _
  aliases := by
    rw [haliases]
    intro a n h
    cases h

theorem SameCore.versionNames (h : p.SameCore q) (hp : ∀ v ∈ p.versions, v.name = key) :
    ∀ v ∈ q.versions, v.name = key := by
  have hsnapshots : ∀ v ∈ p.core.snapshots, v.name = key := List.forall_mem_map.2 hp
  rw [← h.core] at hsnapshots
  exact List.forall_mem_map.1 hsnapshots

theorem Consistent.of_core {key : String} (h : p.Consistent key) (hcore : p.SameCore q) :
    q.Consistent key where
  name := hcore.name ▸ h.name
  versionNames := hcore.versionNames h.versionNames
  numbered := numbered_core.1 (hcore.core ▸ numbered_core.2 h.numbered)
  aliases a n hn := by
    rw [hcore.isSome_version?]
    exact h.aliases a n (hcore.aliases ▸ hn)

theorem Consistent.setTags_getD {key : PromptName} {found : Option Prompt}
    (h : ∀ p, found = some p → p.Consistent key.text) (text : Option String)
    (tags : List (String × String)) :
    ((found.getD (.new now key text ∅)).setTags now tags).Consistent key.text := by
  refine .of_core ?_ (setTags_sameCore now tags _)
  cases found with
  | none => exact consistent_of_empty rfl rfl rfl
  | some p => exact h p rfl

theorem version?_deleteVersion? (h : p.Numbered) (hq : p.deleteVersion? now n = some q) :
    q.version? n = none := by
  have hdrop := (numbered_core.2 h).version?_drop (n := n)
  rw [← core_deleteVersion? hq, core_version?] at hdrop
  exact Option.map_eq_none_iff.1 hdrop

theorem aliases_deleteVersion? (hq : p.deleteVersion? now n = some q)
    (ha : p.aliases.get? a = some n) : q.aliases.get? a = none := by
  obtain ⟨-, -, haliases, -, -⟩ := deleteVersion?_eq_some hq
  refine Option.eq_none_iff_forall_ne_some.2 fun m hm => ?_
  rw [haliases, Dict.get?_filter_eq_some, ha] at hm
  obtain ⟨hn, hne⟩ := hm
  cases hn
  exact of_decide_eq_true hne rfl

theorem aliases_deleteAlias? (hq : p.deleteAlias? now a = some q) :
    (∃ n, p.aliases.get? a = some n) ∧ q.aliases.get? a = none := by
  obtain rfl := deleteAlias?_eq_some hq
  unfold deleteAlias? at hq
  split at hq
  · next hcontains =>
    exact ⟨Dict.contains_eq_true.1 hcontains, (Dict.get?_erase ..).trans (if_pos rfl)⟩
  · cases hq

end Prompt

def Storage.look (st : Storage σ) (s : σ) (p : Procedure α) : Except Failure α :=
  (p.run st s).result

namespace Registry

def lookUp (name : String) : Reference → Procedure (Option Details)
  | .version n => getVersion name n
  | .byAlias a => getByAlias name a
  | .latest => getByAlias name Rules.latestAlias

section
variable {σ : Type}

def Finds (st : Storage σ) (s : σ) (name : String) (d : Details) : Prop :=
  st.look s (getVersion name d.version.number) = .ok (some d) ∧
    st.look s (load d.version.uri.render) = .ok d

/-- Nothing is found by a reference, nor by any text that reads as an address with it. -/
def FindsNothing (st : Storage σ) (s : σ) (name : String) (reference : Reference) : Prop :=
  st.look s (lookUp name reference) = .ok none ∧
    ∀ text, Uri.parse text = .ok ⟨name, reference⟩ →
      st.look s (load text) = .error (.missing (.target ⟨name, reference⟩))

/-- What was answered by an operation on contents is what is read in the state after it. -/
def Operation.ReadBack (st : Storage σ) (before : Contents) (s : σ) :
    (op : Operation) → op.Answer → Prop
  | .createPrompt d, p => st.look s (Registry.getPrompt d.name) = .ok (some p)
  | .updatePrompt name _, p | .setPromptTag name _ _, p | .deletePromptTag name _, p =>
    st.look s (Registry.getPrompt name) = .ok (some p)
  | .createVersion name _, d => Finds st s name d ∧ Details.aliases d = []
  | .register r, d => Finds st s r.name d ∧ Details.aliases d = []
  | .setVersionTag name n _ _, d | .deleteVersionTag name n _, d | .setAlias name _ n, d =>
    Finds st s name d ∧ (Details.version d).number = n
  | .deletePrompt name, _ => st.look s (Registry.getPrompt name) = .ok none ∧
    ∀ reference : Reference, reference.Valid → FindsNothing st s name reference
  | .deleteVersion name n, _ => FindsNothing st s name (.version n) ∧
    ∀ p a, before.get? name = some p → p.aliases.get? a = some n →
      FindsNothing st s name (.byAlias a)
  | .deleteAlias name a, _ => FindsNothing st s name (.byAlias a)
  | _, _ => True

end

-- ---------------------------------------------------------------------------
-- Reading
-- ---------------------------------------------------------------------------

section
variable {σ : Type} {st : Storage σ} {contents : σ → Contents} {s : σ}

theorem look_eq_found (hst : st.Healthy contents) (hc : (contents s).Keyed) {p : Procedure α}
    (hp : p.Indifferent) : st.look s p = found p (contents s) :=
  congrArg Prod.fst (hp.eval hst hc).symm

theorem look_getPrompt (hst : st.Healthy contents) (hc : (contents s).Keyed) (name : PromptName) :
    st.look s (getPrompt name.text) = .ok ((contents s).get? name.text) := by
  rw [look_eq_found hst hc getPrompt_indifferent, found_getPrompt]

theorem look_load (hst : st.Healthy contents) (hc : (contents s).Keyed) {name : PromptName}
    (h : Uri.parse text = .ok ⟨name.text, reference⟩) :
    st.look s (load text) = match ((contents s).get? name.text).bind fun p =>
        (p.resolve reference).map p.details with
      | some d => .ok d
      | none => .error (.missing (.target ⟨name.text, reference⟩)) :=
  (look_eq_found hst hc load_indifferent).trans (found_load name reference _ h)

theorem lookUp_indifferent : (lookUp name reference).Indifferent := by
  cases reference with
  | version n => exact getVersion_indifferent
  | byAlias a | latest => exact resolve_indifferent

theorem look_lookUp (hst : st.Healthy contents) (hc : (contents s).Keyed) (name : PromptName)
    (h : reference.Valid) : st.look s (lookUp name.text reference) =
      .ok (((contents s).get? name.text).bind fun p => (p.resolve reference).map p.details) := by
  have hfound : found (lookUp name.text reference) (contents s) =
      found (resolve name.text reference) (contents s) := by
    cases reference with
    | version n =>
      have hcheck : Rules.checkVersion n = .ok () := if_neg h
      rw [lookUp, getVersion, hcheck]
      rfl
    | byAlias a =>
      rw [lookUp, getByAlias, Rules.isLatest_of_checkAlias h]
      rfl
    | latest => rfl
  rw [look_eq_found hst hc lookUp_indifferent, hfound, found_resolve]

theorem findsNothing_of_resolve (hst : st.Healthy contents) (hc : (contents s).Keyed)
    {name : PromptName} (hvalid : reference.Valid)
    (h : ((contents s).get? name.text).bind (·.resolve reference) = none) :
    FindsNothing st s name.text reference := by
  have hnone : ((contents s).get? name.text).bind
      (fun p => (p.resolve reference).map p.details) = none := by
    cases hp : (contents s).get? name.text with
    | none => rfl
    | some p =>
      rw [hp] at h
      exact congrArg (Option.map p.details) h
  refine ⟨?_, fun text htext => ?_⟩
  · rw [look_lookUp hst hc name hvalid, hnone]
  · rw [look_load hst hc htext, hnone]

theorem finds_of_version? (hst : st.Healthy contents) (hc : (contents s).Keyed) {name : PromptName}
    {q : Prompt} {v : Version} (hq : (contents s).get? name.text = some q)
    (hv : q.version? v.number = some v) (hname : v.name = name.text) (hne : v.number ≠ 0) :
    Finds st s name.text (q.details v) := by
  have hfound : ((contents s).get? name.text).bind
      (fun p => (p.resolve (.version v.number)).map p.details) = some (q.details v) := by
    rw [hq]
    exact congrArg (Option.map q.details) hv
  have hvalid : Reference.Valid (.version v.number) := hne
  constructor
  · show st.look s (lookUp name.text (.version v.number)) = _
    rw [look_lookUp hst hc name hvalid, hfound]
  · show st.look s (load v.uri.render) = _
    rw [Version.uri, hname, look_load hst hc (Uri.parse_version name hne), hfound]

-- ---------------------------------------------------------------------------
-- Operations
-- ---------------------------------------------------------------------------

theorem finds_added (hst : st.Healthy contents) (hc : (contents s).Keyed) {name : PromptName}
    {p q : Prompt} (hp : p.Consistent name.text) (hadd : p.addVersion? now d = some (v, q))
    (hq : (contents s).get? name.text = some q) :
    Finds st s name.text (q.details v) ∧ (q.details v).aliases = [] := by
  obtain ⟨hnext, hv, rfl⟩ := Prompt.addVersion?_eq_some.1 hadd
  have hnone := hp.version?_next hnext
  have hname : v.name = name.text := by
    rw [hv]
    exact hp.name
  have hne : v.number ≠ 0 := by
    rintro hzero
    rw [hzero] at hnext
    exact Nat.succ_ne_zero _ hnext.symm
  exact ⟨finds_of_version? hst hc hq (Prompt.version?_append_self hnone) hname hne,
    hp.aliasesOf_eq_nil hnone⟩

theorem finds_changed (hst : st.Healthy contents) (hc : (contents s).Keyed) {name : PromptName}
    {q : Prompt} (hq : (contents s).get? name.text = some q)
    (hnames : ∀ v ∈ q.versions, v.name = name.text) (hnumber : Rules.checkVersion n = .ok ())
    (hv : q.version? n = some v) : Finds st s name.text (q.details v) ∧ v.number = n := by
  obtain ⟨hmem, rfl⟩ := Prompt.mem_versions_of_version? hv
  exact ⟨finds_of_version? hst hc hq hv (hnames v hmem) (ite_error_eq_ok.1 hnumber).1, rfl⟩

theorem findsNothing_byAlias (hst : st.Healthy contents) (hc : (contents s).Keyed)
    {name : PromptName} {q : Prompt} (hq : (contents s).get? name.text = some q)
    (halias : Rules.checkAlias a = .ok ()) (hnone : q.aliases.get? a = none) :
    FindsNothing st s name.text (.byAlias a) := by
  have hvalid : Reference.Valid (.byAlias a) := halias
  refine findsNothing_of_resolve hst hc hvalid ?_
  rw [hq]
  exact congrArg (Option.bind · q.version?) hnone

theorem Operation.Effect.exists_of_none {op : Operation} {a : op.Answer}
    (h : op.Effect now o a none es) : ∃ p, o = some p := by
  cases h
  exact ⟨_, rfl⟩

theorem Operation.Effect.readBack {op : Operation} {a : op.Answer}
    (h : op.Effect now o a o' es) {name : PromptName} (hop : op.name? = some name.text)
    {c : Contents} (hc : c.Consistent) (ho : c.get? name.text = o) (hst : st.Healthy contents)
    (hs : (contents s).Keyed) (ho' : (contents s).get? name.text = o') :
    op.ReadBack st c s a := by
  have hprompt (n : String) (hn : some n = some name.text) :
      st.look s (Registry.getPrompt n) = .ok o' := by
    rw [Option.some.inj hn, look_getPrompt hst hs, ho']
  cases h with
  | createPrompt | updatePrompt | setPromptTag | deletePromptTag | keepPromptTag =>
    exact hprompt _ hop
  | deletePrompt =>
    refine ⟨hprompt _ hop, fun reference hvalid => ?_⟩
    obtain rfl := Option.some.inj hop
    exact findsNothing_of_resolve hst hs hvalid (by rw [ho']; rfl)
  | createVersion _ hq =>
    obtain rfl := Option.some.inj hop
    exact finds_added hst hs (hc _ _ ho) hq ho'
  | @register r key hname _ _ _ base _ _ hp hq =>
    obtain rfl : key = name := PromptName.ext (hname.trans (Option.some.inj hop))
    have hbase : base.Consistent key.text :=
      hp ▸ .setTags_getD (fun p hp => hc _ _ (ho.trans hp)) r.description r.promptTags.entries
    show Finds st s r.name _ ∧ _
    rw [← hname]
    exact finds_added hst hs hbase hq ho'
  | deleteVersion hnumber hq =>
    obtain rfl := Option.some.inj hop
    have hvalid : Reference.Valid (.version _) := (ite_error_eq_ok.1 hnumber).1
    have hnone := Prompt.version?_deleteVersion? (hc _ _ ho).numbered hq
    refine ⟨findsNothing_of_resolve hst hs hvalid (by rw [ho']; exact hnone), ?_⟩
    intro p a hp ha
    obtain rfl := Option.some.inj (hp.symm.trans ho)
    have halias := ((hc _ _ ho).aliases a _ ha).1
    exact findsNothing_byAlias hst hs ho' halias (Prompt.aliases_deleteVersion? hq ha)
  | setVersionTag hnumber htag hq hv =>
    obtain rfl := Option.some.inj hop
    have hnames := (Prompt.setVersionTag?_eq_some hq).1.versionNames (hc _ _ ho).versionNames
    exact finds_changed hst hs ho' hnames hnumber hv
  | deleteVersionTag hnumber hq hv =>
    obtain rfl := Option.some.inj hop
    have hnames := (Prompt.deleteVersionTag?_eq_some hq).1.versionNames (hc _ _ ho).versionNames
    exact finds_changed hst hs ho' hnames hnumber hv
  | setAlias halias hnumber hq hv =>
    obtain rfl := Option.some.inj hop
    obtain ⟨-, rfl⟩ := Prompt.setAlias?_eq_some hq
    exact finds_changed hst hs ho' (hc _ _ ho).versionNames hnumber hv
  | deleteAlias hq =>
    obtain rfl := Option.some.inj hop
    obtain ⟨⟨n, hn⟩, hnone⟩ := Prompt.aliases_deleteAlias? hq
    exact findsNothing_byAlias hst hs ho' ((hc _ _ ho).aliases _ n hn).1 hnone

theorem Operation.readBack_of_isReading {op : Operation} (h : op.isReading = true)
    (a : op.Answer) : op.ReadBack st c s a := by
  cases op <;> trivial

/-- What an operation answers is what is read right after it. -/
theorem answers_read_back (hst : st.Healthy contents) (hc : (contents s).Consistent)
    (sizes : Search.PageSizes) (now : Timestamp) (op : Operation) {a : op.Answer}
    (ha : (op.run sizes st now s).result = .ok a) :
    op.ReadBack st (contents s) (op.run sizes st now s).state a := by
  have hturns := op.exchange_turns hst.atomic hc.keyed sizes now
  have hkeyed := hturns.keyed hc.keyed
  unfold Exchange.Turns at hturns
  simp only [Operation.exchange, ha] at hturns
  obtain ⟨es, hdone⟩ := hturns
  generalize hafter : contents (op.run sizes st now s).state = c' at hdone
  cases hdone with
  | read hop => exact op.readBack_of_isReading hop a
  | @put p es hop h =>
    have hp : (contents (op.run sizes st now s).state).get? p.name.text = some p := by
      rw [hafter, Contents.get?_put_self rfl]
    exact h.readBack hop hc rfl hst hkeyed hp
  | @erase name es hop h =>
    obtain ⟨p, hp⟩ := h.exists_of_none
    obtain rfl := hc.keyed name p hp
    have hnone : (contents (op.run sizes st now s).state).get? p.name.text = none := by
      rw [hafter, Dict.get?_erase, if_pos rfl]
    exact h.readBack hop hc rfl hst hkeyed hnone

theorem answers_read_back_greeting :
    let p : Prompt :=
      { Prompt.new default ⟨"greeting", by decide⟩ none ∅ with lastVersion := 4294967294 }
    let op := Operation.createVersion "greeting" ⟨.text "Hello", none, ∅, none⟩
    let o := op.run ⟨20, 100⟩ .memory default (Contents.put ∅ p)
    (Contents.put ∅ p).Consistent ∧ ∃ d, o.result = .ok d ∧ Finds .memory o.state "greeting" d ∧
      Details.aliases d = [] ∧ (Details.version d).number = 4294967295 := by
  intro p op o
  have hc : (Contents.put ∅ p).Consistent := by
    intro key q hq
    simp only [Contents.put, Dict.get?_insert] at hq
    split at hq
    · next hkey =>
      cases hq
      exact Prompt.consistent_of_empty hkey.symm rfl rfl
    · cases hq
  have hresult : o.result = .ok _ := rfl
  obtain ⟨hfinds, haliases⟩ :=
    answers_read_back Storage.memory_healthy hc ⟨20, 100⟩ default op hresult
  exact ⟨hc, _, hresult, hfinds, haliases, rfl⟩

end

end Registry

end PromptRegistry
