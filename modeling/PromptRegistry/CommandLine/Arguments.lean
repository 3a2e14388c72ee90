import PromptRegistry.Text.Blank
import PromptRegistry.Uri

/-!
# Arguments

What the arguments of the program ask for. They name a command, and each command takes at most one
plain argument, flags and options of its own.
-/

namespace PromptRegistry.CommandLine

inductive Command where
  | serve
  | format (uri : String) (values : List (String × String)) (allowPartial : Bool)
  | listVariables (template : String) (singleBraces : Bool)
deriving DecidableEq, Repr

inductive AssignmentError where
  | noEqualsSign (text : String)
  | emptyName (text : String)
deriving DecidableEq, Repr

def AssignmentError.message : AssignmentError → String
  | .noEqualsSign s => "expected KEY=VALUE, got '" ++ s ++ "'"
  | .emptyName s => "empty variable name in '" ++ s ++ "'"

inductive UsageError where
  | help
  | helpOnNothing
  | version
  | unknownCommand
  | unknownArgument
  | missingArgument
  | repeatedFlag
  | flagWithValue
  | optionWithoutValue
  | assignment (e : AssignmentError)
deriving DecidableEq, Repr

def readAssignment (text : String) : Except AssignmentError (String × String) :=
  match Uri.splitOnce? '=' text.toList with
  | none => .error (.noEqualsSign text)
  | some (name, value) =>
    let name := String.ofList (Text.trim name)
    if name.isEmpty then .error (.emptyName text) else .ok (name, String.ofList value)

structure Shape where
  takesArgument : Bool
  flags : List String
  option : Option String

structure Reading where
  argument : Option String := none
  flags : List String := []
  values : List (String × String) := []
  /-- An option that was met and is not yet read, with its value if that was met. -/
  pending : Option (Option String) := none
  /-- Two hyphens were met: only plain arguments follow. -/
  plainOnly : Bool := false

namespace Reading

def assign (text : String) (r : Reading) : Except UsageError Reading :=
  match readAssignment text with
  | .ok value => .ok { r with values := r.values ++ [value], pending := none }
  | .error e => .error (.assignment e)

def settle (r : Reading) : Except UsageError Reading :=
  match r.pending with
  | none => .ok r
  | some none => .error .optionWithoutValue
  | some (some text) => r.assign text

def takePlain (shape : Shape) (text : String) (r : Reading) : Except UsageError Reading :=
  if shape.takesArgument && r.argument.isNone then do
    let r ← r.settle
    return { r with argument := some text }
  else .error .unknownArgument

def takeLong (shape : Shape) (name : String) (value : Option String) (r : Reading) :
    Except UsageError Reading :=
  if shape.option = some name then do
    let r ← r.settle
    match value with
    | some text => r.assign text
    | none => return { r with pending := some none }
  else if name ≠ "help" && !shape.flags.contains name then .error .unknownArgument
  else if value.isSome then .error .flagWithValue
  else do
    let r ← r.settle
    if name = "help" then .error .help
    else if r.flags.contains name then .error .repeatedFlag
    else return { r with flags := name :: r.flags }

def takeShort (letters : List Char) (r : Reading) : Except UsageError Reading :=
  if letters.head? = some 'h' then do
    let _ ← r.settle
    .error .help
  else .error .unknownArgument

def take (shape : Shape) (r : Reading) (text : String) : Except UsageError Reading :=
  if r.plainOnly then r.takePlain shape text
  else
    match text.toList with
    | ['-', '-'] => .ok { r with plainOnly := true }
    | '-' :: '-' :: cs =>
      match Uri.splitOnce? '=' cs with
      | some (name, value) => r.takeLong shape (String.ofList name) (some (String.ofList value))
      | none => r.takeLong shape (String.ofList cs) none
    | '-' :: c :: cs => r.takeShort (c :: cs)
    | _ =>
      match r.pending with
      | some none => .ok { r with pending := some (some text) }
      | _ => r.takePlain shape text

def all (shape : Shape) (args : List String) : Except UsageError Reading := do
  let r ← args.foldlM (take shape) {}
  let r ← r.settle
  if shape.takesArgument && r.argument.isNone then .error .missingArgument else .ok r

end Reading

def serveShape : Shape := ⟨false, [], none⟩

def formatShape : Shape := ⟨true, ["allow-partial"], some "var"⟩

def variablesShape : Shape := ⟨true, ["single-brace"], none⟩

def commandNames : List String := ["serve", "format", "variables", "help"]

def readHelp : List String → UsageError
  | [] => .help
  | [name] => if commandNames.contains name then .help else .unknownCommand
  | _ => .unknownCommand

def readFirst (text : String) (rest : List String) : UsageError :=
  match text.toList with
  | ['-', '-'] =>
    match rest with
    | [] => .helpOnNothing
    | name :: _ => if commandNames.contains name then .unknownArgument else .unknownCommand
  | '-' :: '-' :: cs =>
    let name := String.ofList (cs.takeWhile (· ≠ '='))
    if name ≠ "help" && name ≠ "version" then .unknownArgument
    else if cs.contains '=' then .flagWithValue
    else if name = "help" then .help
    else .version
  | '-' :: 'h' :: _ => .help
  | '-' :: 'V' :: _ => .version
  | '-' :: _ :: _ => .unknownArgument
  | _ => .unknownCommand

def Command.ofArguments : List String → Except UsageError Command
  | [] => .error .helpOnNothing
  | "serve" :: args => do
    let _ ← Reading.all serveShape args
    return .serve
  | "format" :: args => do
    let r ← Reading.all formatShape args
    return .format (r.argument.getD "") r.values (r.flags.contains "allow-partial")
  | "variables" :: args => do
    let r ← Reading.all variablesShape args
    return .listVariables (r.argument.getD "") (r.flags.contains "single-brace")
  | "help" :: args => .error (readHelp args)
  | text :: args => .error (readFirst text args)

def versionLine : String := "prompt-registry 0.1.0\n"

end PromptRegistry.CommandLine
