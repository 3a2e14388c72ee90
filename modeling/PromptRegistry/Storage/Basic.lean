import PromptRegistry.Failure
import PromptRegistry.Prompt

/-!
# Storages

A storage keeps whole prompts under their names. It is known by how it answers calls; what it
keeps them in, `σ`, is its own. Every call takes effect or fails.
-/

namespace PromptRegistry

inductive Call where
  | get (name : PromptName)
  | list
  | create (p : Prompt)
  | update (p : Prompt)
  | save (p : Prompt)
  | delete (name : PromptName)
  | contains (name : PromptName)
  | count
  | clear

def Call.Answer : Call → Type
  | .get _ => Option Prompt
  | .list => List Prompt
  | .create _ | .update _ | .save _ => Prompt
  | .delete _ | .contains _ => Bool
  | .count => Nat
  | .clear => Unit

/-- A storage that keeps its prompts in `σ`. The last three calls can be composed of the
others. -/
structure Storage (σ : Type) where
  get : PromptName → σ → Except Failure (Option Prompt) × σ
  list : σ → Except Failure (List Prompt) × σ
  create : Prompt → σ → Except Failure Prompt × σ
  update : Prompt → σ → Except Failure Prompt × σ
  delete : PromptName → σ → Except Failure Bool × σ
  clear : σ → Except Failure Unit × σ
  contains : PromptName → σ → Except Failure Bool × σ := fun name s =>
    let (r, s) := get name s
    (r.map (·.isSome), s)
  count : σ → Except Failure Nat × σ := fun s =>
    let (r, s) := list s
    (r.map (·.length), s)
  save : Prompt → σ → Except Failure Prompt × σ := fun p s =>
    match contains p.name s with
    | (.ok true, s) => update p s
    | (.ok false, s) => create p s
    | (.error e, s) => (.error e, s)

namespace Storage

def answer (st : Storage σ) : (c : Call) → σ → Except Failure c.Answer × σ
  | .get name => st.get name
  | .list => st.list
  | .create p => st.create p
  | .update p => st.update p
  | .save p => st.save p
  | .delete name => st.delete name
  | .contains name => st.contains name
  | .count => st.count
  | .clear => st.clear

end Storage

end PromptRegistry
