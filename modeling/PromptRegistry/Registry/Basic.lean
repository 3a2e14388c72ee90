import PromptRegistry.Procedure
import PromptRegistry.Search.Filter
import PromptRegistry.Search.Order

/-!
# The registry

The operations on prompts, versions, aliases and tags, as procedures over a storage. A change
reads a whole prompt, changes it and writes it back. Operations that take the time do so as their
first argument.
-/

namespace PromptRegistry

structure Details where
  version : Version
  aliases : List String

def Prompt.details (p : Prompt) (v : Version) : Details := ⟨v, p.aliasesOf v.number⟩

structure FilledVersion where
  version : Version
  formatted : Formatted

namespace Registry

structure PromptDraft where
  name : String
  description : Option String
  tags : Dict String

/-- A version that is to be registered. A new prompt takes the description; any prompt takes the
tags. -/
structure Registration where
  name : String
  version : NewVersion
  description : Option String
  promptTags : Dict String

structure Query where
  filter : Option String
  size : Option Nat
  order : List String
  token : Option String

def checkTags (tags : Dict String) : Except Violation Unit :=
  tags.entries.forM fun tag => Rules.checkTag tag.1 tag.2

def checkVersion (d : NewVersion) : Except Refusal Unit := do
  d.template.check.mapError .template
  (checkTags d.tags).mapError .rule
  match d.responseFormat with
  | some format => if format.isObject then .ok () else .error .responseFormat
  | none => .ok ()

def demand (r : Except Violation α) : Procedure α := Procedure.demand .rule r

/-- The prompt under a name, without an event. -/
def fetch (name : String) : Procedure Prompt := do
  let key ← demand (PromptName.ofString name)
  Procedure.ofOption (.missing (.prompt name)) (← Procedure.get key)

def mutate (name : String) (change : Prompt → Procedure Prompt) : Procedure Prompt := do
  let p ← fetch name
  Procedure.update (← change p)

def detailsOf (p : Prompt) (number : UInt32) : Procedure Details :=
  Procedure.ofOption (.missing (.version p.name.text number)) <|
    (p.version? number).map p.details

/-! ## Prompts -/

def createPrompt (now : Timestamp) (d : PromptDraft) : Procedure Prompt := do
  let name ← demand (PromptName.ofString d.name)
  demand (checkTags d.tags)
  Procedure.emit (.creating name.text)
  if ← Procedure.contains name then
    Procedure.fail (.taken (.prompt name.text))
  else
    let p ← Procedure.create (.new now name d.description d.tags)
    Procedure.emit (.promptCreated p.name.text)
    return p

def getPrompt (name : String) : Procedure (Option Prompt) := do
  let key ← demand (PromptName.ofString name)
  Procedure.emit (.getting key.text)
  Procedure.get key

def requirePrompt (name : String) : Procedure Prompt := do
  Procedure.ofOption (.missing (.prompt name)) (← getPrompt name)

def updatePrompt (now : Timestamp) (name : String) (description : Option String) :
    Procedure Prompt := do
  let p ← mutate name fun p => return p.setDescription now description
  Procedure.emit (.promptUpdated p.name.text)
  return p

def deletePrompt (name : String) : Procedure Unit := do
  let key ← demand (PromptName.ofString name)
  if ← Procedure.delete key then
    Procedure.emit (.promptDeleted key.text)
  else
    Procedure.fail (.missing (.prompt name))

def setPromptTag (now : Timestamp) (name key value : String) : Procedure Prompt := do
  demand (Rules.checkTag key value)
  let p ← mutate name fun p => return p.setTag now key value
  Procedure.emit (.promptTagSet name key)
  return p

/-- Removes a tag of a prompt. A tag that is not there is no failure. -/
def deletePromptTag (now : Timestamp) (name key : String) : Procedure Prompt :=
  mutate name fun p =>
    match p.deleteTag? now key with
    | some p => return p
    | none => do
      Procedure.emit (.promptTagAbsent name key)
      return p

def searchPrompts (sizes : Search.PageSizes) (q : Query) : Procedure (Search.Page Prompt) := do
  let filter ← Procedure.demand (.search ∘ .filter) (Search.Filter.parse (q.filter.getD ""))
  let order ← Procedure.demand (.search ∘ .orderClause) (Search.OrderClause.parseAll q.order)
  let size ← Procedure.demand .search (sizes.resolve q.size)
  let offset ← Procedure.demand .search (Search.PageToken.offset q.token)
  let ps ← Procedure.list
  let ps := Search.sortPrompts order (ps.filter filter.holds)
  Procedure.emit (.searched ps.length offset size)
  return Search.paginate ps offset size

/-! ## Versions -/

def createVersion (now : Timestamp) (name : String) (d : NewVersion) : Procedure Details := do
  Procedure.demand id (checkVersion d)
  let p ← fetch name
  let (v, p) ← Procedure.ofOption .exhausted (p.addVersion? now d)
  let _ ← Procedure.update p
  Procedure.emit (.versionCreated name v.number)
  return p.details v

/-- Adds a version to a prompt, which is created if it is not there. -/
def register (now : Timestamp) (r : Registration) : Procedure Details := do
  let name ← demand (PromptName.ofString r.name)
  demand (checkTags r.promptTags)
  Procedure.demand id (checkVersion r.version)
  let found ← Procedure.get name
  let p := found.getD (.new now name r.description ∅)
  let p := r.promptTags.entries.foldl (fun p tag => p.setTag now tag.1 tag.2) p
  let (v, p) ← Procedure.ofOption .exhausted (p.addVersion? now r.version)
  let _ ← if found.isNone then Procedure.create p else Procedure.update p
  Procedure.emit (.registered name.text v.number found.isNone)
  return p.details v

def resolve (name : String) (reference : Reference) : Procedure (Option Details) := do
  match ← getPrompt name with
  | some p => return (p.resolve reference).map p.details
  | none => return none

def getVersion (name : String) (number : UInt32) : Procedure (Option Details) := do
  demand (Rules.checkVersion number)
  resolve name (.version number)

def getByAlias (name aliasName : String) : Procedure (Option Details) :=
  resolve name (if Rules.isLatest aliasName then .latest else .byAlias aliasName)

def loadUri (uri : Uri) : Procedure Details := do
  Procedure.emit (.loading uri)
  Procedure.ofOption (.missing (.target uri)) (← resolve uri.name uri.reference)

def load (uri : String) : Procedure Details := do
  loadUri (← Procedure.demand .uri (Uri.parse uri))

def deleteVersion (now : Timestamp) (name : String) (number : UInt32) : Procedure Unit := do
  demand (Rules.checkVersion number)
  let p ← fetch name
  let changed ← Procedure.ofOption (.missing (.version name number)) (p.deleteVersion? now number)
  let _ ← Procedure.update changed
  let lost := p.aliasesOf number
  if !lost.isEmpty then
    Procedure.emit (.aliasesLost name number lost)
  Procedure.emit (.versionDeleted name number)

def setVersionTag (now : Timestamp) (name : String) (number : UInt32) (key value : String) :
    Procedure Details := do
  demand (Rules.checkVersion number)
  demand (Rules.checkTag key value)
  let p ← mutate name fun p =>
    Procedure.ofOption (.missing (.version p.name.text number))
      (p.setVersionTag? now number key value)
  Procedure.emit (.versionTagSet name number key)
  detailsOf p number

def deleteVersionTag (now : Timestamp) (name : String) (number : UInt32) (key : String) :
    Procedure Details := do
  demand (Rules.checkVersion number)
  let p ← mutate name fun p =>
    Procedure.ofOption (.missing (.version p.name.text number))
      ((p.deleteVersionTag? now number key).map (·.2))
  detailsOf p number

def newerFirst (a b : Version) : Bool := b.number ≤ a.number

def searchVersions (sizes : Search.PageSizes) (name : String) (size : Option Nat)
    (token : Option String) : Procedure (Search.Page Details) := do
  let size ← Procedure.demand .search (sizes.resolve size)
  let offset ← Procedure.demand .search (Search.PageToken.offset token)
  let p ← requirePrompt name
  return Search.paginate ((p.versions.mergeSort newerFirst).map p.details) offset size

/-! ## Aliases -/

def setAlias (now : Timestamp) (name aliasName : String) (number : UInt32) : Procedure Details := do
  demand (Rules.checkAlias aliasName)
  demand (Rules.checkVersion number)
  let p ← fetch name
  let changed ← Procedure.ofOption (.missing (.version p.name.text number))
    (p.setAlias? now aliasName number)
  let changed ← Procedure.update changed
  Procedure.emit (.aliasSet name aliasName number (p.aliases.get? aliasName))
  detailsOf changed number

def deleteAlias (now : Timestamp) (name aliasName : String) : Procedure Unit := do
  let _ ← mutate name fun p =>
    Procedure.ofOption (.missing (.aliasOf name aliasName)) (p.deleteAlias? now aliasName)
  Procedure.emit (.aliasDeleted name aliasName)

/-! ## Formatting -/

def formatUri (uri : Uri) (values : Dict String) (allowPartial : Bool) :
    Procedure FilledVersion := do
  let d ← loadUri uri
  let formatted ← Procedure.demand .template (d.version.template.format values allowPartial)
  Procedure.emit (.formatted uri allowPartial)
  return ⟨d.version, formatted⟩

def format (uri : String) (values : Dict String) (allowPartial : Bool) :
    Procedure FilledVersion := do
  formatUri (← Procedure.demand .uri (Uri.parse uri)) values allowPartial

def formatVersion (name : String) (number : UInt32) (values : Dict String)
    (allowPartial : Bool) : Procedure FilledVersion := do
  demand (Rules.checkVersion number)
  formatUri ⟨name, .version number⟩ values allowPartial

def count : Procedure Nat := Procedure.count

end Registry

end PromptRegistry
