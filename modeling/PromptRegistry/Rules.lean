import PromptRegistry.Text.Ascii
import PromptRegistry.Text.Blank
import PromptRegistry.Text.Decimal
import PromptRegistry.Text.Utf8

/-!
# Names, aliases, tags and version numbers

What may be the name of a prompt, an alias, a tag or a version number. Lengths count bytes. A
check reports the first rule that is broken.
-/

namespace PromptRegistry

inductive Violation where
  | emptyName
  | nameTooLong (length : Nat)
  | invalidName (name : String)
  | emptyAlias
  | aliasTooLong (length : Nat)
  | invalidAlias (aliasName : String)
  | reservedAlias (aliasName : String)
  | versionLikeAlias (aliasName : String)
  | emptyTagKey
  | tagKeyTooLong (length : Nat)
  | tagValueTooLong (key : String) (length : Nat)
  | invalidVersion (version : String)
deriving DecidableEq, Repr

namespace Rules

def greatestName : Nat := 255

def greatestAlias : Nat := 255

def greatestTagKey : Nat := 250

def greatestTagValue : Nat := 5000

/-- The alias that stands for the highest version and cannot be assigned. -/
def latestAlias : String := "latest"

end Rules

open Rules in
def Violation.message : Violation → String
  | .emptyName => "Prompt name cannot be empty"
  | .nameTooLong n => tooLong "Prompt name" n greatestName
  | .invalidName s =>
    "Invalid prompt name '" ++ s ++
      "': only alphanumerics, underscores, periods and hyphens are allowed"
  | .emptyAlias => "Alias cannot be empty"
  | .aliasTooLong n => tooLong "Alias" n greatestAlias
  | .invalidAlias s =>
    "Invalid alias '" ++ s ++ "': only alphanumerics, underscores and hyphens are allowed"
  | .reservedAlias s => "Alias '" ++ s ++ "' is reserved"
  | .versionLikeAlias s =>
    "Alias '" ++ s ++ "' looks like a version reference and cannot be used"
  | .emptyTagKey => "Tag key cannot be empty"
  | .tagKeyTooLong n => tooLong "Tag key" n greatestTagKey
  | .tagValueTooLong key n => tooLong ("Tag value for '" ++ key ++ "'") n greatestTagValue
  | .invalidVersion s => "Invalid version '" ++ s ++ "': must be a positive integer"
where
  tooLong (what : String) (length greatest : Nat) : String :=
    what ++ " too long: " ++ Text.Decimal.render length ++ " characters (max " ++
      Text.Decimal.render greatest ++ ")"

namespace Rules

def isAliasChar (c : Char) : Bool := Text.isAsciiAlphanumeric c || c = '_' || c = '-'

def isNameChar (c : Char) : Bool := isAliasChar c || c = '.'

/-- The alias that stands for the highest version, in any case. -/
def isLatest (aliasName : String) : Bool := Text.sameIgnoringCase aliasName latestAlias

/-- A letter V and digits, the look of a version number. -/
def isVersionLike (aliasName : String) : Bool :=
  match aliasName.toList with
  | c :: ds => (c = 'v' || c = 'V') && !ds.isEmpty && ds.all Text.isAsciiDigit
  | [] => false

def checkName (name : String) : Except Violation Unit :=
  if name.isEmpty then .error .emptyName
  else if greatestName < Text.Utf8.size name then .error (.nameTooLong (Text.Utf8.size name))
  else if !name.toList.all isNameChar then .error (.invalidName name)
  else .ok ()

def checkAlias (aliasName : String) : Except Violation Unit :=
  if aliasName.isEmpty then .error .emptyAlias
  else if greatestAlias < Text.Utf8.size aliasName then
    .error (.aliasTooLong (Text.Utf8.size aliasName))
  else if !aliasName.toList.all isAliasChar then .error (.invalidAlias aliasName)
  else if isLatest aliasName then .error (.reservedAlias aliasName)
  else if isVersionLike aliasName then .error (.versionLikeAlias aliasName)
  else .ok ()

def checkTag (key value : String) : Except Violation Unit :=
  if Text.isBlankText key then .error .emptyTagKey
  else if greatestTagKey < Text.Utf8.size key then .error (.tagKeyTooLong (Text.Utf8.size key))
  else if greatestTagValue < Text.Utf8.size value then
    .error (.tagValueTooLong key (Text.Utf8.size value))
  else .ok ()

def checkVersion (version : UInt32) : Except Violation Unit :=
  if version = 0 then .error (.invalidVersion (Text.Decimal.render version.toNat)) else .ok ()

/-- Reads a version number: a positive number of 32 bits, with blanks around it and a plus sign
in front if need be. -/
def readVersion (text : String) : Except Violation UInt32 :=
  match Text.Decimal.readNat? UInt32.size (Text.trim text.toList) with
  | some (n + 1) => .ok (UInt32.ofNat (n + 1))
  | _ => .error (.invalidVersion text)

end Rules

structure PromptName where
  text : String
  valid : Rules.checkName text = .ok ()
deriving DecidableEq

namespace PromptName

def ofString (text : String) : Except Violation PromptName :=
  match h : Rules.checkName text with
  | .ok () => .ok ⟨text, h⟩
  | .error e => .error e

@[ext] theorem ext {a b : PromptName} (h : a.text = b.text) : a = b := by
  cases a; cases b; cases h; rfl

theorem ofString_text (name : PromptName) : ofString name.text = .ok name := by
  unfold ofString
  split
  · rfl
  · next h => rw [name.valid] at h; cases h

theorem ofString_eq_ok {text : String} {name : PromptName} (h : ofString text = .ok name) :
    name.text = text := by
  unfold ofString at h
  split at h
  · cases h; rfl
  · cases h

theorem ofString_eq_error {text : String} {e : Violation} :
    ofString text = .error e ↔ Rules.checkName text = .error e := by
  unfold ofString
  split <;> simp_all

end PromptName

end PromptRegistry
