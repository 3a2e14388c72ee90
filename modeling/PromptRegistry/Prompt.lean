import PromptRegistry.Json.Basic
import PromptRegistry.Template
import PromptRegistry.Time.Timestamp
import PromptRegistry.Uri

/-!
# Prompts

A prompt owns its versions, its aliases and its tags. Version numbers count up from one and are
not given out twice; an alias points at a version by number. A change that has an effect takes
the time of the change.
-/

namespace PromptRegistry

structure Version where
  name : String
  number : UInt32
  template : Template
  variableNames : List String
  responseFormat : Option Json
  commitMessage : Option String
  tags : Dict String
  createdAt : Timestamp

def Version.uri (v : Version) : Uri := ⟨v.name, .version v.number⟩

structure Prompt where
  name : PromptName
  description : Option String
  tags : Dict String
  aliases : Dict UInt32
  versions : List Version
  /-- The highest number given out so far. -/
  lastVersion : UInt32
  createdAt : Timestamp
  updatedAt : Timestamp

structure NewVersion where
  template : Template
  commitMessage : Option String
  tags : Dict String
  responseFormat : Option Json

namespace Prompt

def new (now : Timestamp) (name : PromptName) (description : Option String)
    (tags : Dict String) : Prompt :=
  { name, description, tags, aliases := ∅, versions := [], lastVersion := 0, createdAt := now,
    updatedAt := now }

def version? (p : Prompt) (number : UInt32) : Option Version :=
  p.versions.find? (·.number = number)

/-- The later of two versions; of two with the same number the second. -/
def later (a b : Version) : Version := if b.number < a.number then a else b

def latest? (p : Prompt) : Option Version :=
  match p.versions with
  | [] => none
  | v :: vs => some (vs.foldl later v)

def resolve (p : Prompt) : Reference → Option Version
  | .version n => p.version? n
  | .byAlias a => (p.aliases.get? a).bind p.version?
  | .latest => p.latest?

def aliasesOf (p : Prompt) (number : UInt32) : List String :=
  (p.aliases.filter fun _ n => n = number).keys

def touch (now : Timestamp) (p : Prompt) : Prompt := { p with updatedAt := now }

def setDescription (now : Timestamp) (description : Option String) (p : Prompt) : Prompt :=
  touch now { p with description }

def setTag (now : Timestamp) (key value : String) (p : Prompt) : Prompt :=
  touch now { p with tags := p.tags.insert key value }

def deleteTag? (now : Timestamp) (key : String) (p : Prompt) : Option Prompt :=
  if p.tags.contains key then some (touch now { p with tags := p.tags.erase key }) else none

/-- The number after the highest that was given out. The highest of all has none after it. -/
def nextNumber? (p : Prompt) : Option UInt32 :=
  if p.lastVersion.toNat + 1 < UInt32.size then some (p.lastVersion + 1) else none

def newVersion (now : Timestamp) (number : UInt32) (d : NewVersion) (p : Prompt) : Version :=
  { name := p.name.text, number, template := d.template,
    variableNames := d.template.variableNames, responseFormat := d.responseFormat,
    commitMessage := d.commitMessage, tags := d.tags, createdAt := now }

def append (now : Timestamp) (v : Version) (p : Prompt) : Prompt :=
  touch now { p with versions := p.versions ++ [v], lastVersion := v.number }

/-- Adds a version under the next number, while there is one. -/
def addVersion? (now : Timestamp) (d : NewVersion) (p : Prompt) : Option (Version × Prompt) :=
  p.nextNumber?.map fun n =>
    let v := p.newVersion now n d
    (v, p.append now v)

/-- Removes a version and the aliases that point at it, if it is there. -/
def deleteVersion? (now : Timestamp) (number : UInt32) (p : Prompt) : Option Prompt :=
  if (p.version? number).isSome then
    some (touch now { p with
      versions := p.versions.eraseP (·.number = number)
      aliases := p.aliases.filter fun _ n => n ≠ number })
  else none

def setAlias? (now : Timestamp) (aliasName : String) (number : UInt32) (p : Prompt) :
    Option Prompt :=
  if (p.version? number).isSome then
    some (touch now { p with aliases := p.aliases.insert aliasName number })
  else none

def deleteAlias? (now : Timestamp) (aliasName : String) (p : Prompt) : Option Prompt :=
  if p.aliases.contains aliasName then
    some (touch now { p with aliases := p.aliases.erase aliasName })
  else none

/-- Changes the tags of the first version with a number. -/
def mapTags (number : UInt32) (change : Dict String → Dict String) : List Version → List Version
  | [] => []
  | v :: vs =>
    if v.number = number then { v with tags := change v.tags } :: vs
    else v :: mapTags number change vs

def setVersionTag? (now : Timestamp) (number : UInt32) (key value : String) (p : Prompt) :
    Option Prompt :=
  if (p.version? number).isSome then
    some (touch now { p with versions := mapTags number (·.insert key value) p.versions })
  else none

/-- Removes a tag of a version, if the version is there. A tag that is not there is no change. -/
def deleteVersionTag? (now : Timestamp) (number : UInt32) (key : String) (p : Prompt) :
    Option (Bool × Prompt) :=
  match p.version? number with
  | none => none
  | some v =>
    if v.tags.contains key then
      some (true, touch now { p with versions := mapTags number (·.erase key) p.versions })
    else some (false, p)

end Prompt

end PromptRegistry
