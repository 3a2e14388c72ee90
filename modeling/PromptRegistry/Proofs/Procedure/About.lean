import PromptRegistry.Procedure
import PromptRegistry.Proofs.Registry.Indifferent
import PromptRegistry.Proofs.Storage.Apart

/-!
# Procedures about names

A procedure is `About` some names if each of its calls is about one of them. Over a storage that
keeps names apart, its run depends on their parts only (`About.run_same`) and leaves the parts of
all other names (`About.frame`). So procedures about different names do not notice in which order
they are run (`About.commute`).
-/

namespace PromptRegistry

def Call.Fits : (call : Call) → Except Failure call.Answer → Prop
  | .get name, r => ∀ p : Prompt, r = .ok (some p) → p.name = name
  | _, _ => True

namespace Procedure

/-- Every call is about one of the names, and a value at the end satisfies `Q`, if no call is
answered with what stands under a wrong name. -/
def About (names : String → Prop) (Q : α → Prop) : Procedure α → Prop
  | .done (.ok a) => Q a
  | .done (.error _) => True
  | .log _ next => About names Q next
  | .call request next =>
    (∃ name, request.name? = some name ∧ names name) ∧
      ∀ r, request.Fits r → About names Q (next r)

-- ---------------------------------------------------------------------------
-- Rules
-- ---------------------------------------------------------------------------

section
variable {names : String → Prop} {Q : α → Prop}

theorem About.pure (h : Q a) : (Pure.pure a : Procedure α).About names Q := h

theorem About.fail : (Procedure.fail e : Procedure α).About names Q := trivial

theorem About.mono {Q Q' : α → Prop} (hQ : ∀ a, Q a → Q' a) {p : Procedure α}
    (h : p.About names Q) : p.About names Q' := by
  induction p with
  | done r =>
    cases r with
    | ok a => exact hQ a h
    | error e => trivial
  | log e next ih => exact ih h
  | call request next ih => exact ⟨h.1, fun r hr => ih r (h.2 r hr)⟩

theorem About.bind {p : Procedure β} {f : β → Procedure α}
    (h : p.About names fun b => (f b).About names Q) : (p >>= f).About names Q := by
  show (Procedure.bind f p).About names Q
  induction p with
  | done r =>
    cases r with
    | ok b => exact h
    | error e => trivial
  | log e next ih => exact ih h
  | call request next ih => exact ⟨h.1, fun r hr => ih r (h.2 r hr)⟩

theorem About.emit {Q : Unit → Prop} (h : Q ()) : (Procedure.emit e).About names Q := h

theorem About.demand {r : Except ε α} (h : ∀ a, r = .ok a → Q a) :
    (Procedure.demand refusal r).About names Q := by
  cases r with
  | ok a => exact h a rfl
  | error e => trivial

theorem About.ofOption {o : Option α} (h : ∀ a, o = some a → Q a) :
    (Procedure.ofOption e o).About names Q := by
  cases o with
  | some a => exact h a rfl
  | none => trivial

theorem About.ite {b : Prop} [Decidable b] {p q : Procedure α} (hp : p.About names Q)
    (hq : q.About names Q) : (if b then p else q).About names Q := by
  split
  · exact hp
  · exact hq

theorem About.perform (call : Call) {Q : call.Answer → Prop} (hcall : call.name? = some name)
    (hname : names name) (h : ∀ a, call.Fits (.ok a) → Q a) :
    (Procedure.perform call).About names Q := by
  refine ⟨⟨name, hcall, hname⟩, fun r hr => ?_⟩
  cases r with
  | ok a => exact h a hr
  | error e => trivial

theorem About.get {Q : Option Prompt → Prop} (hname : names name.text)
    (h : ∀ o : Option Prompt, (∀ p ∈ o, p.name = name) → Q o) :
    (Procedure.get name).About names Q :=
  .perform (.get name) rfl hname fun o ho =>
    h o fun p hp => ho p (congrArg Except.ok hp)

theorem About.contains {Q : Bool → Prop} (hname : names name.text) (h : ∀ found, Q found) :
    (Procedure.contains name).About names Q :=
  .perform (.contains name) rfl hname fun found _ => h found

theorem About.create {p : Prompt} {Q : Prompt → Prop} (hname : names p.name.text)
    (h : ∀ q, Q q) : (Procedure.create p).About names Q :=
  .perform (.create p) rfl hname fun q _ => h q

theorem About.update {p : Prompt} {Q : Prompt → Prop} (hname : names p.name.text)
    (h : ∀ q, Q q) : (Procedure.update p).About names Q :=
  .perform (.update p) rfl hname fun q _ => h q

theorem About.delete {Q : Bool → Prop} (hname : names name.text) (h : ∀ found, Q found) :
    (Procedure.delete name).About names Q :=
  .perform (.delete name) rfl hname fun found _ => h found

end

-- ---------------------------------------------------------------------------
-- Runs
-- ---------------------------------------------------------------------------

section
variable {σ τ : Type} {st : Storage σ} {contents : σ → Contents} {part : String → σ → τ}
  {names : String → Prop} {p : Procedure α} {s s' : σ}

theorem fits_of_keyed (hst : st.Atomic contents) (hc : (contents s).Keyed) (request : Call) :
    request.Fits (st.answer request s).1 := by
  cases request with
  | get name =>
    intro p hp
    rcases hst (.get name) s with ⟨e, he, -⟩ | ⟨found, hfound, heffect, -⟩
    · cases he.symm.trans hp
    · cases hfound.symm.trans hp
      exact PromptName.ext (hc _ p heffect.symm)
  | _ => trivial

theorem keyed_answer (hst : st.Atomic contents) (hc : (contents s).Keyed) (request : Call) :
    (contents (st.answer request s).2).Keyed := by
  rcases hst request s with ⟨e, -, hkept⟩ | ⟨a, -, heffect⟩
  · exact hkept ▸ hc
  · exact heffect.keyed hc

/-- What a run is about is all that it depends on: what it comes to, what it reports and what it
leaves there. -/
theorem About.run_same (hst : st.Atomic contents) (hapart : st.Apart contents part)
    (hp : p.About names Q) (hc : (contents s).Keyed)
    (hsame : ∀ name, names name → part name s = part name s') :
    (p.run st s).result = (p.run st s').result ∧ (p.run st s).events = (p.run st s').events ∧
      ∀ name, names name → part name (p.run st s).state = part name (p.run st s').state := by
  induction p generalizing s s' with
  | done r => exact ⟨rfl, rfl, hsame⟩
  | log e next ih =>
    obtain ⟨hresult, hevents, hstate⟩ := ih hp hc hsame
    exact ⟨hresult, congrArg (e :: ·) hevents, hstate⟩
  | call request next ih =>
    obtain ⟨⟨name, hcall, hname⟩, hnext⟩ := hp
    have hlocal := hapart.call hcall
    obtain ⟨hanswer, hpart⟩ := hlocal.same (hsame name hname)
    have hafter : ∀ other, names other →
        part other (st.answer request s).2 = part other (st.answer request s').2 := by
      intro other hother
      by_cases hne : other = name
      · exact hne ▸ hpart
      · rw [hlocal.frame hne, hlocal.frame hne, hsame other hother]
    have h := ih _ (hnext _ (fits_of_keyed hst hc request)) (keyed_answer hst hc request) hafter
    simp only [Procedure.run, ← hanswer]
    exact h

theorem About.frame (hst : st.Atomic contents) (hapart : st.Apart contents part)
    (hp : p.About names Q) (hc : (contents s).Keyed) (hother : ¬names other) :
    part other (p.run st s).state = part other s := by
  induction p generalizing s with
  | done r => rfl
  | log e next ih => exact ih hp hc
  | call request next ih =>
    obtain ⟨⟨name, hcall, hname⟩, hnext⟩ := hp
    have hne : other ≠ name := fun h => hother (h ▸ hname)
    have h := ih _ (hnext _ (fits_of_keyed hst hc request)) (keyed_answer hst hc request)
    exact h.trans ((hapart.call hcall).frame hne)

theorem run_keyed (hst : st.Atomic contents) (p : Procedure α) (hc : (contents s).Keyed) :
    (contents (p.run st s).state).Keyed := by
  induction p generalizing s with
  | done r => exact hc
  | log e next ih => exact ih hc
  | call request next ih => exact ih _ (keyed_answer hst hc request)

/-- A run does not notice one that was about other names. -/
theorem About.unnoticed (hst : st.Atomic contents) (hapart : st.Apart contents part)
    {q : Procedure β} (hp : p.About names Q) (hq : q.About names' Q')
    (hnames : ∀ name, names name → ¬names' name) (hc : (contents s).Keyed) :
    let o := p.run st s
    let o' := p.run st (q.run st s).state
    o'.result = o.result ∧ o'.events = o.events ∧
      ∀ name, names name → part name o'.state = part name o.state :=
  hp.run_same hst hapart (run_keyed hst q hc) fun name hname =>
    hq.frame hst hapart hc (hnames name hname)

theorem About.commute (hst : st.Atomic contents) (hapart : st.Apart contents part)
    {q : Procedure β} (hp : p.About names Q) (hq : q.About names' Q')
    (hnames : ∀ name, names name → ¬names' name) (hc : (contents s).Keyed) :
    contents (p.run st (q.run st s).state).state =
      contents (q.run st (p.run st s).state).state := by
  have hnames' : ∀ name, names' name → ¬names name := fun name h h' => hnames name h' h
  have hkeyed := run_keyed hst p hc
  have hkeyed' := run_keyed hst q hc
  refine hapart.contents_eq fun name => ?_
  by_cases hname : names name
  · rw [(hp.unnoticed hst hapart hq hnames hc).2.2 name hname,
      hq.frame hst hapart hkeyed (hnames name hname)]
  · rw [hp.frame hst hapart hkeyed' hname]
    by_cases hname' : names' name
    · rw [(hq.unnoticed hst hapart hp hnames' hc).2.2 name hname']
    · rw [hq.frame hst hapart hkeyed hname', hq.frame hst hapart hc hname',
        hp.frame hst hapart hc hname]

end

end Procedure

end PromptRegistry
