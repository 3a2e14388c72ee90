import PromptRegistry.Storage.Basic

/-!
# Storages in memory

A dictionary of prompts, and a storage that can be cut off from what it keeps.
-/

namespace PromptRegistry

abbrev Contents := Dict Prompt

namespace Contents

/-- The prompts under their names; of two with one name the later stays. -/
def ofPrompts (ps : List Prompt) : Contents := Dict.ofList (ps.map fun p => (p.name.text, p))

/-- Every prompt stands under its own name. -/
def Keyed (c : Contents) : Prop := ∀ key p, c.get? key = some p → p.name.text = key

def holds (c : Contents) (name : PromptName) : Bool := c.contains name.text

def put (c : Contents) (p : Prompt) : Contents := c.insert p.name.text p

end Contents

namespace Storage

/-- The storage that is a dictionary. It lists prompts in ascending order of their names. -/
def memory : Storage Contents where
  get name c := (.ok (c.get? name.text), c)
  list c := (.ok c.values, c)
  create p c := if c.holds p.name then (.error (.taken (.entry p.name)), c) else (.ok p, c.put p)
  update p c := if c.holds p.name then (.ok p, c.put p) else (.error (.missing (.entry p.name)), c)
  save p c := (.ok p, c.put p)
  delete name c := (.ok (c.holds name), c.erase name.text)
  contains name c := (.ok (c.holds name), c)
  count c := (.ok c.size, c)
  clear _ := (.ok (), ∅)

end Storage

/-- Something kept, and the message of an outage while there is one. -/
structure Interruptible (σ : Type) where
  kept : σ
  outage : Option String

namespace Storage

def unlessOut (act : σ → Except Failure α × σ) (s : Interruptible σ) :
    Except Failure α × Interruptible σ :=
  match s.outage with
  | some message => (.error (.storage message), s)
  | none =>
    let (r, kept) := act s.kept
    (r, { s with kept })

def interruptible (st : Storage σ) : Storage (Interruptible σ) where
  get name := unlessOut (st.get name)
  list := unlessOut st.list
  create p := unlessOut (st.create p)
  update p := unlessOut (st.update p)
  delete name := unlessOut (st.delete name)
  clear := unlessOut st.clear

end Storage

end PromptRegistry
