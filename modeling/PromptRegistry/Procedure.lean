import PromptRegistry.Event
import PromptRegistry.Storage.Basic

/-!
# Procedures

A procedure is a script of storage calls and events that ends in a result. What a call is
answered with decides how it goes on. It can be run over any storage.
-/

namespace PromptRegistry

inductive Procedure (α : Type) where
  | done (result : Except Failure α)
  | log (event : Event) (next : Procedure α)
  | call (c : Call) (next : Except Failure c.Answer → Procedure α)

structure Outcome (σ α : Type) where
  result : Except Failure α
  state : σ
  events : List Event

namespace Procedure

def bind (f : α → Procedure β) : Procedure α → Procedure β
  | .done (.ok a) => f a
  | .done (.error e) => .done (.error e)
  | .log e next => .log e (bind f next)
  | .call c next => .call c fun r => bind f (next r)

instance : Monad Procedure where
  pure a := .done (.ok a)
  bind p f := p.bind f

def fail (e : Failure) : Procedure α := .done (.error e)

def emit (e : Event) : Procedure Unit := .log e (.done (.ok ()))

/-- Calls the storage. A failure of the call is one of the procedure. -/
def perform (c : Call) : Procedure c.Answer := .call c .done

def ofOption (e : Failure) : Option α → Procedure α
  | some a => .done (.ok a)
  | none => fail e

def demand (refusal : ε → Refusal) : Except ε α → Procedure α
  | .ok a => .done (.ok a)
  | .error e => fail (.refused (refusal e))

/-- The procedure with its failure as part of the result, unless that is fatal. -/
def attempt : Procedure α → Procedure (Except Failure α)
  | .done (.ok a) => .done (.ok (.ok a))
  | .done (.error e) => if e.isFatal then .done (.error e) else .done (.ok (.error e))
  | .log e next => .log e (attempt next)
  | .call c next => .call c fun r => attempt (next r)

def run (st : Storage σ) : Procedure α → σ → Outcome σ α
  | .done r, s => ⟨r, s, []⟩
  | .log e next, s =>
    let o := run st next s
    { o with events := e :: o.events }
  | .call c next, s =>
    let (r, s) := st.answer c s
    run st (next r) s

def get (name : PromptName) : Procedure (Option Prompt) := perform (.get name)

def list : Procedure (List Prompt) := perform .list

def create (p : Prompt) : Procedure Prompt := perform (.create p)

def update (p : Prompt) : Procedure Prompt := perform (.update p)

def delete (name : PromptName) : Procedure Bool := perform (.delete name)

def contains (name : PromptName) : Procedure Bool := perform (.contains name)

def count : Procedure Nat := perform .count

end Procedure

end PromptRegistry
