import PromptRegistry.Settings.Layer

/-!
# The environment

Variables whose names begin with a common word set single settings: the parts of the name, between
double underscores, are the names on the way to the setting.
-/

namespace PromptRegistry.Settings

abbrev Environment := List (String × String)

namespace Environment

def get? (env : Environment) (name : String) : Option String := lookupEntry name env

/-- The environment with a variable, unless it is there already. -/
def provide (env : Environment) (name value : String) : Environment :=
  if (env.get? name).isSome then env else env ++ [(name, value)]

def namespaceMark : List Char := "app__".toList

/-- The text with a point for every two underscores, from the front. -/
def pointed : List Char → List Char
  | '_' :: '_' :: cs => '.' :: pointed cs
  | c :: cs => c :: pointed cs
  | [] => []

def pathOf? (name : String) : Option String :=
  let cs := (Text.lowerCase name).toList
  if namespaceMark.isPrefixOf cs then some (String.ofList (pointed (cs.drop namespaceMark.length)))
  else none

def readInteger? (cs : List Char) : Option Int := do
  let (negative, ds) := Real64.splitSign cs
  let n ← Text.Decimal.readDigits? 9223372036854775809 ds
  if negative then some (-(n : Int)) else if n < 9223372036854775808 then some n else none

/-- The value that a text spells: a flag, an integer, a real number or the text itself. -/
def valueOf (text : String) : Value :=
  match Text.lowerCase text with
  | "true" => .flag true
  | "false" => .flag false
  | _ =>
    match readInteger? text.toList with
    | some n => .integer n
    | none =>
      match Real64.ofChars? text.toList with
      | some x => .real x
      | none => .text text

def layer (env : Environment) : List (String × Value) :=
  env.filterMap fun (name, text) => (pathOf? name).map (·, valueOf text)

end Environment

end PromptRegistry.Settings
