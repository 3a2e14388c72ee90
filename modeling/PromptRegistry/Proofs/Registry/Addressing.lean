import PromptRegistry.Proofs.Registry.Aliases
import PromptRegistry.Proofs.Registry.ReadBack

/-!
# Two ways to a version

A version can be asked for in parts, the name of its prompt and a number or an alias, or by the
address that is made up of the parts. The parts may be any texts, also ones that shift the marks of
the address. Both ways end alike for a number in any state of a storage (`getNumbered_load_agree`),
and for an alias they find the same wherever the registry made the contents (`getByAlias_load`).
-/

namespace PromptRegistry

/-- Where a prompt cannot be looked up, there is an outage. -/
def Storage.LooksUp (st : Storage σ) : Prop :=
  ∀ name s e, (st.get name s).1 = .error e → ∃ m, e = .storage m

theorem Storage.memory_looksUp : memory.LooksUp := by
  intro name c e h
  cases h

theorem Storage.LooksUp.interruptible {st : Storage σ} (h : st.LooksUp) :
    (interruptible st).LooksUp := by
  intro name s e he
  simp only [Storage.interruptible, unlessOut] at he
  split at he
  · cases he
    exact ⟨_, rfl⟩
  · exact h name s.kept e he

namespace Registry

def getNumbered (name text : String) : Procedure (Option Details) := do
  getVersion name (← demand (Rules.readVersion text))

/-- The same end of a look-up, which may find nothing, and of a loading, which then fails. -/
structure Agree (found : Except Failure (Option Details)) (loaded : Except Failure Details) :
    Prop where
  details : ∀ d, found = .ok (some d) ↔ loaded = .ok d
  nothing : found = .ok none ↔ ∃ what, loaded = .error (.missing what)
  refused : (∃ why, found = .error (.refused why)) ↔ ∃ why, loaded = .error (.refused why)
  outage : ∀ m, found = .error (.storage m) ↔ loaded = .error (.storage m)

theorem agree_refused (why why' : Refusal) :
    Agree (.error (.refused why)) (.error (.refused why')) := by
  constructor <;> simp

theorem agree_outage (m : String) : Agree (.error (.storage m)) (.error (.storage m)) := by
  constructor <;> simp

theorem agree_nothing (what : Missing) : Agree (.ok none) (.error (.missing what)) := by
  constructor <;> simp

theorem agree_details (d : Details) : Agree (.ok (some d)) (.ok d) := by
  constructor <;> simp

-- ---------------------------------------------------------------------------
-- Looking, in any state of any storage
-- ---------------------------------------------------------------------------

section
variable {σ : Type} (st : Storage σ) (s : σ)

theorem look_resolve (name : PromptName) (reference : Reference) :
    st.look s (resolve name.text reference) =
      (st.get name s).1.map fun o => o.bind fun p => (p.resolve reference).map p.details := by
  have hprompt : st.look s (getPrompt name.text) = (st.get name s).1 := by
    simp only [Storage.look, getPrompt, demand, PromptName.ofString_text]
    rfl
  rw [Storage.look] at hprompt
  rw [Storage.look, resolve, result_bind, hprompt]
  rcases (st.get name s).1 with e | _ | p <;> rfl

theorem look_resolve_refused (h : PromptName.ofString name = .error v) (reference : Reference) :
    st.look s (resolve name reference) = .error (.refused (.rule v)) := by
  simp only [Storage.look, resolve, getPrompt, demand, h]
  rfl

theorem look_loadUri (uri : Uri) : st.look s (loadUri uri) =
    match st.look s (resolve uri.name uri.reference) with
      | .ok (some d) => .ok d
      | .ok none => .error (.missing (.target uri))
      | .error e => .error e := by
  show ((resolve uri.name uri.reference >>= _).run st s).result = _
  rw [result_bind]
  show (st.look s (resolve uri.name uri.reference) >>= _) = _
  rcases st.look s (resolve uri.name uri.reference) with e | _ | d <;> rfl

theorem look_load_eq (text : String) : st.look s (load text) =
    match Uri.parse text with
      | .ok uri => st.look s (loadUri uri)
      | .error e => .error (.refused (.uri e)) := by
  rw [load]
  cases Uri.parse text <;> rfl

theorem look_getNumbered (name text : String) : st.look s (getNumbered name text) =
    match Rules.readVersion text with
      | .ok n => st.look s (resolve name (.version n))
      | .error v => .error (.refused (.rule v)) := by
  rw [getNumbered]
  cases hn : Rules.readVersion text with
  | error v => rfl
  | ok n =>
    have hcheck : Rules.checkVersion n = .ok () := if_neg (Rules.readVersion_eq_ok hn).1
    show st.look s (getVersion name n) = _
    rw [getVersion, hcheck]
    rfl

end

theorem not_fatal_of_look {st : Storage σ} (hst : st.LooksUp)
    (h : st.look s (getNumbered name text) = .error e) : e.isFatal = false := by
  rw [look_getNumbered] at h
  split at h
  · next n _ =>
    cases hname : PromptName.ofString name with
    | error v =>
      rw [look_resolve_refused st s hname] at h
      cases h
      rfl
    | ok key =>
      obtain rfl := PromptName.ofString_eq_ok hname
      rw [look_resolve] at h
      cases hget : (st.get key s).1 with
      | error e' =>
        obtain ⟨m, rfl⟩ := hst _ _ _ hget
        rw [hget] at h
        cases h
        rfl
      | ok o =>
        rw [hget] at h
        cases h
  · cases h
    rfl

-- ---------------------------------------------------------------------------
-- Numbers
-- ---------------------------------------------------------------------------

/-- A name and a written number find what the address made up of them is loaded as, and where they
find nothing, are refused or meet an outage, so does the address. -/
theorem getNumbered_load_agree {st : Storage σ} (hst : st.LooksUp) (s : σ) (name text : String) :
    Agree (st.look s (getNumbered name text))
      (st.look s (load (Uri.scheme ++ name ++ "/" ++ text))) := by
  rw [look_getNumbered, look_load_eq]
  cases hparse : Uri.parse (Uri.scheme ++ name ++ "/" ++ text) with
  | ok uri =>
    obtain ⟨hname, n, hn, rfl⟩ := Uri.parse_joinedVersion.1 hparse
    have hresolve := look_resolve st s ⟨name, hname⟩ (.version n)
    simp only [hn, look_loadUri, hresolve]
    cases hget : (st.get ⟨name, hname⟩ s).1 with
    | error e =>
      obtain ⟨m, rfl⟩ := hst _ _ _ hget
      exact agree_outage m
    | ok o =>
      simp only [Except.map]
      cases o.bind fun p => (p.resolve (.version n)).map p.details with
      | none => exact agree_nothing _
      | some d => exact agree_details d
  | error e =>
    -- one of the parts is not what it should be, as the text would be an address otherwise
    cases hn : Rules.readVersion text with
    | error v => exact agree_refused _ _
    | ok n =>
      cases hname : PromptName.ofString name with
      | error v =>
        simp only [look_resolve_refused st s hname]
        exact agree_refused _ _
      | ok key =>
        have hvalid : Rules.checkName name = .ok () := PromptName.ofString_eq_ok hname ▸ key.valid
        cases hparse.symm.trans (Uri.parse_joinedVersion.2 ⟨hvalid, n, hn, rfl⟩)

-- ---------------------------------------------------------------------------
-- Aliases
-- ---------------------------------------------------------------------------

/-- An alias that must not be assigned points nowhere. -/
theorem resolve_byAlias_eq_none {p : Prompt} (hp : p.Checked) (ha : Rules.checkAlias a ≠ .ok ()) :
    p.resolve (.byAlias a) = none := by
  cases hn : p.aliases.get? a with
  | none => exact congrArg (Option.bind · p.version?) hn
  | some n => exact absurd (hp.aliases a n hn).1 ha

/-- Where only aliases are kept that may be assigned, a name and an alias find what the address made
up of them is loaded as. -/
theorem found_getByAlias_iff {c : Contents} (hc : ∀ name p, c.get? name = some p → p.Checked)
    (name a : String) (d : Details) : found (getByAlias name a) c = .ok (some d) ↔
      found (load (Uri.scheme ++ name ++ "@" ++ a)) c = .ok d := by
  cases hparse : Uri.parse (Uri.scheme ++ name ++ "@" ++ a) with
  | ok uri =>
    obtain ⟨hname, reference, hread, rfl⟩ := Uri.parse_joinedAlias.1 hparse
    have hreference : (if Rules.isLatest a then .latest else .byAlias a) = reference := by
      rcases Uri.readAlias_eq_ok.1 hread with ⟨ha, rfl⟩ | ⟨ha, rfl⟩
      · rw [if_pos ha]
      · rw [Rules.isLatest_of_checkAlias ha]
        rfl
    rw [found_load ⟨name, hname⟩ reference c hparse, getByAlias, hreference,
      found_resolve ⟨name, hname⟩]
    cases (c.get? name).bind fun p => (p.resolve reference).map p.details with
    | none => simp
    | some d => simp
  | error e =>
    have hloaded :
        found (load (Uri.scheme ++ name ++ "@" ++ a)) c = .error (.refused (.uri e)) := by
      have h := look_load_eq .memory c (Uri.scheme ++ name ++ "@" ++ a)
      rw [hparse] at h
      exact h
    rw [hloaded]
    refine iff_of_false (fun h => ?_) (by simp)
    -- a name that is refused finds nothing, nor does an alias that is
    cases hname : PromptName.ofString name with
    | error v => cases (look_resolve_refused .memory c hname _).symm.trans h
    | ok key =>
      obtain rfl := PromptName.ofString_eq_ok hname
      have hread (reference : Reference) : Uri.readAlias a ≠ .ok reference := fun hread => by
        cases hparse.symm.trans (Uri.parse_joinedAlias.2 ⟨key.valid, _, hread, rfl⟩)
      have hlatest : ¬Rules.isLatest a = true := fun ha =>
        hread _ (Uri.readAlias_eq_ok.2 (.inl ⟨ha, rfl⟩))
      have halias : Rules.checkAlias a ≠ .ok () := fun ha =>
        hread _ (Uri.readAlias_eq_ok.2 (.inr ⟨ha, rfl⟩))
      rw [getByAlias, if_neg hlatest, found_resolve] at h
      obtain ⟨p, hp, hd⟩ := Option.bind_eq_some_iff.1 (Except.ok.inj h)
      rw [resolve_byAlias_eq_none (hc _ p hp) halias] at hd
      cases hd

variable {σ : Type} {st : Storage σ} {contents : σ → Contents} {s s₀ : σ}

theorem found_getByAlias_setAlias (hst : st.Atomic contents) (hc : (contents s).Keyed)
    (h : ((Operation.setAlias name a n).run sizes st now s).result = .ok d) :
    found (getByAlias name a) (contents ((Operation.setAlias name a n).run sizes st now s).state) =
      .ok (some d) ∧ (d : Details).version.number = n := by
  have hturns := (Operation.setAlias name a n).exchange_turns hst hc sizes now
  unfold Exchange.Turns at hturns
  simp only [Operation.exchange, h] at hturns
  obtain ⟨es, hdone⟩ := hturns
  generalize contents ((Operation.setAlias name a n).run sizes st now s).state = c' at hdone
  cases hdone with
  | read hop => cases hop
  | @erase other _ hop heffect =>
    generalize (contents s).get? other = o at heffect
    cases heffect
  | @put q _ hop heffect =>
    obtain rfl : name = q.name.text := Option.some.inj hop
    generalize hbefore : (contents s).get? q.name.text = o at heffect
    cases heffect with
    | @setAlias _ _ _ v p _ halias hnumber hq hv =>
      have htarget : q.aliases.get? a = some n := by
        obtain ⟨-, rfl⟩ := Prompt.setAlias?_eq_some hq
        exact (Dict.get?_insert ..).trans (if_pos rfl)
      refine ⟨?_, (Prompt.mem_versions_of_version? hv).2⟩
      rw [getByAlias, Rules.isLatest_of_checkAlias halias]
      show found (resolve q.name.text (.byAlias a)) _ = _
      rw [found_resolve, Contents.get?_put_self rfl, Option.bind_some, Prompt.resolve, htarget,
        Option.bind_some, hv]
      rfl

/-- Whatever the registry made of no prompts, a name and an alias find the details that the address
made up of them is loaded as; and right after an alias was set on a version, that is the version
both ways. -/
theorem getByAlias_load (hst : st.Atomic contents) (h₀ : contents s₀ = ∅)
    (h : Run sizes st s₀ xs s) :
    (∀ name a d, found (getByAlias name a) (contents s) = .ok (some d) ↔
      found (load (Uri.scheme ++ name ++ "@" ++ a)) (contents s) = .ok d) ∧
    ∀ now name a n d, ((Operation.setAlias name a n).run sizes st now s).result = .ok d →
      let c := contents ((Operation.setAlias name a n).run sizes st now s).state
      found (getByAlias name a) c = .ok (some d) ∧
        found (load (Uri.scheme ++ name ++ "@" ++ a)) c = .ok d ∧
          (d : Details).version.number = n := by
  refine ⟨found_getByAlias_iff (h.checked hst h₀), ?_⟩
  intro now name a n d hd c
  obtain ⟨hfound, hn⟩ :=
    found_getByAlias_setAlias hst (h.keyed hst (h₀ ▸ Contents.keyed_empty)) hd
  have hchecked := (h.next now (.setAlias name a n)).checked hst h₀
  exact ⟨hfound, (found_getByAlias_iff hchecked name a d).1 hfound, hn⟩

theorem getByAlias_load_greeting :
    ∃ xs s, Run ⟨20, 100⟩ .memory (∅ : Contents) xs s ∧
      ∃ d, ((Operation.setAlias "greeting" "live" 1).run ⟨20, 100⟩ .memory default s).result =
          .ok d ∧
        found (load "prompts:/greeting@live")
          ((Operation.setAlias "greeting" "live" 1).run ⟨20, 100⟩ .memory default s).state = .ok d ∧
        d.version.number = 1 := by
  have hstart : Run ⟨20, 100⟩ .memory (∅ : Contents) [] ∅ := .start
  have h := hstart.next default
    (.register ⟨"greeting", ⟨.text "Hello", none, ∅, none⟩, none, ∅⟩)
  have hset := (getByAlias_load Storage.memory_atomic rfl h).2 default "greeting" "live" 1 _ rfl
  exact ⟨_, _, h, _, rfl, hset.2⟩

end Registry

end PromptRegistry
