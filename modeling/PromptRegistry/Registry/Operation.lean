import PromptRegistry.Registry.Basic

/-!
# Operations

The operations of the registry as data, and the run of one after another over a storage.
-/

namespace PromptRegistry.Registry

inductive Operation where
  | createPrompt (d : PromptDraft)
  | getPrompt (name : String)
  | requirePrompt (name : String)
  | updatePrompt (name : String) (description : Option String)
  | deletePrompt (name : String)
  | setPromptTag (name key value : String)
  | deletePromptTag (name key : String)
  | searchPrompts (q : Query)
  | createVersion (name : String) (d : NewVersion)
  | register (r : Registration)
  | getVersion (name : String) (number : UInt32)
  | getByAlias (name aliasName : String)
  | load (uri : String)
  | deleteVersion (name : String) (number : UInt32)
  | setVersionTag (name : String) (number : UInt32) (key value : String)
  | deleteVersionTag (name : String) (number : UInt32) (key : String)
  | searchVersions (name : String) (size : Option Nat) (token : Option String)
  | setAlias (name aliasName : String) (number : UInt32)
  | deleteAlias (name aliasName : String)
  | format (uri : String) (values : Dict String) (allowPartial : Bool)
  | formatVersion (name : String) (number : UInt32) (values : Dict String)
      (allowPartial : Bool)
  | count

namespace Operation

def Answer : Operation → Type
  | .getPrompt .. => Option Prompt
  | .createPrompt .. | .requirePrompt .. | .updatePrompt .. | .setPromptTag ..
  | .deletePromptTag .. => Prompt
  | .searchPrompts .. => Search.Page Prompt
  | .getVersion .. | .getByAlias .. => Option Details
  | .createVersion .. | .register .. | .load .. | .setVersionTag .. | .deleteVersionTag ..
  | .setAlias .. => Details
  | .searchVersions .. => Search.Page Details
  | .format .. | .formatVersion .. => FilledVersion
  | .deletePrompt .. | .deleteVersion .. | .deleteAlias .. => Unit
  | .count => Nat

def procedure (sizes : Search.PageSizes) (now : Timestamp) :
    (op : Operation) → Procedure op.Answer
  | .createPrompt d => Registry.createPrompt now d
  | .getPrompt name => Registry.getPrompt name
  | .requirePrompt name => Registry.requirePrompt name
  | .updatePrompt name description => Registry.updatePrompt now name description
  | .deletePrompt name => Registry.deletePrompt name
  | .setPromptTag name key value => Registry.setPromptTag now name key value
  | .deletePromptTag name key => Registry.deletePromptTag now name key
  | .searchPrompts q => Registry.searchPrompts sizes q
  | .createVersion name d => Registry.createVersion now name d
  | .register r => Registry.register now r
  | .getVersion name number => Registry.getVersion name number
  | .getByAlias name aliasName => Registry.getByAlias name aliasName
  | .load uri => Registry.load uri
  | .deleteVersion name number => Registry.deleteVersion now name number
  | .setVersionTag name number key value => Registry.setVersionTag now name number key value
  | .deleteVersionTag name number key => Registry.deleteVersionTag now name number key
  | .searchVersions name size token => Registry.searchVersions sizes name size token
  | .setAlias name aliasName number => Registry.setAlias now name aliasName number
  | .deleteAlias name aliasName => Registry.deleteAlias now name aliasName
  | .format uri values allowPartial => Registry.format uri values allowPartial
  | .formatVersion name number values allowPartial =>
    Registry.formatVersion name number values allowPartial
  | .count => Registry.count

def run (sizes : Search.PageSizes) (st : Storage σ) (now : Timestamp) (op : Operation) (s : σ) :
    Outcome σ op.Answer :=
  (op.procedure sizes now).run st s

end Operation

end PromptRegistry.Registry
