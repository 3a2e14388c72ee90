import PromptRegistry.Rules

/-!
# Prompt URIs

`prompts:/name/version` and `prompts:/name@alias`: the address of one version of a prompt.
-/

namespace PromptRegistry

inductive Reference where
  | version (number : UInt32)
  | byAlias (name : String)
  | latest
deriving DecidableEq, Repr

def Reference.describe : Reference → String
  | .version n => "version " ++ Text.Decimal.render n.toNat
  | .byAlias a => "alias '" ++ a ++ "'"
  | .latest => "latest version"

structure Uri where
  name : String
  reference : Reference
deriving DecidableEq, Repr

inductive UriError where
  | missingScheme (text : String)
  | missingReference (text : String)
  | invalid (text : String) (violation : Violation)
deriving DecidableEq, Repr

def UriError.message : UriError → String
  | .missingScheme s => "Invalid prompt URI '" ++ s ++ "': must start with 'prompts:/'"
  | .missingReference s =>
    "Invalid prompt URI '" ++ s ++
      "': expected 'prompts:/<name>/<version>' or 'prompts:/<name>@<alias>'"
  | .invalid s v => "Invalid prompt URI '" ++ s ++ "': " ++ v.message

namespace Uri

def scheme : String := "prompts:/"

def render (u : Uri) : String :=
  match u.reference with
  | .version n => scheme ++ u.name ++ "/" ++ Text.Decimal.render n.toNat
  | .byAlias a => scheme ++ u.name ++ "@" ++ a
  | .latest => scheme ++ u.name ++ "@" ++ Rules.latestAlias

def dropScheme? : List Char → List Char → Option (List Char)
  | [], cs => some cs
  | _ :: _, [] => none
  | s :: scheme, c :: cs => if s = c then dropScheme? scheme cs else none

def splitOnce? (separator : Char) : List Char → Option (List Char × List Char)
  | [] => none
  | c :: cs =>
    if c = separator then some ([], cs)
    else (splitOnce? separator cs).map fun (a, b) => (c :: a, b)

def readAlias (aliasName : String) : Except Violation Reference :=
  if Rules.isLatest aliasName then .ok .latest
  else do
    Rules.checkAlias aliasName
    .ok (.byAlias aliasName)

/-- Reads the two parts of an address: the reference first, then the name. -/
def assemble (name : List Char) (reference : Except Violation Reference) :
    Except Violation Uri := do
  let reference ← reference
  Rules.checkName (String.ofList name)
  .ok ⟨String.ofList name, reference⟩

/-- Reads an address. A commercial at anywhere makes what follows it an alias. -/
def parse (text : String) : Except UriError Uri :=
  match dropScheme? scheme.toList text.toList with
  | none => .error (.missingScheme text)
  | some rest =>
    match splitOnce? '@' rest with
    | some (name, aliasName) =>
      (assemble name (readAlias (String.ofList aliasName))).mapError (.invalid text)
    | none =>
      match splitOnce? '/' rest with
      | some (name, version) =>
        (assemble name ((Rules.readVersion (String.ofList version)).map .version)).mapError
          (.invalid text)
      | none => .error (.missingReference text)

end Uri

end PromptRegistry
