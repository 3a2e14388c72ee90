import PromptRegistry.CommandLine.Arguments
import PromptRegistry.Document
import PromptRegistry.Settings.Address
import PromptRegistry.Settings.Load

/-!
# Commands

What a command prints, or why it fails. A template is read from a file, or is the text itself
where there is no such file.
-/

namespace PromptRegistry.CommandLine

open Settings (Surroundings)

inductive RunError where
  | failure (f : Failure)
  | settings
  | host
  | system (message : String)
deriving DecidableEq

/-- Reads a template: a chat, if the text is the document of one, and else the text itself. -/
def readTemplate (content : String) : Template :=
  let plain := Template.text content
  if (Text.trimStart content.toList).head? ≠ some '[' then plain
  else
    match Template.decode.runString content with
    | .ok (.chat messages) => .chat messages
    | _ => plain

/-- The variables of a template, each on a line, and its single-brace form if that is asked
for. -/
def describeTemplate (t : Template) (singleBraces : Bool) : String :=
  let lines := t.variableNames ++
    if singleBraces then ["", t.toSingleBraces.toJson.renderIndented] else []
  String.join (lines.map (· ++ "\n"))

def loadSettings (around : Surroundings) : Except RunError Settings :=
  (Settings.load? around.prepared).elim (.error .settings) .ok

def refuse (r : Except Misconfiguration α) : Except RunError α :=
  r.mapError fun why => .failure (.misconfigured why)

def unreachable : Failure := .storage "Failed to connect to PostgreSQL: no connection can be made"

/-- Formats a stored prompt. Only a storage that outlives the process can hold one. -/
def runFormat (around : Surroundings) : Except RunError String := do
  let s ← loadSettings around
  match ← refuse s.storage.choice with
  | .memory => .error (.failure (.misconfigured .notPersistent))
  | .postgres _ =>
    let _ ← refuse s.plan
    .error (.failure unreachable)

def runServe (around : Surroundings) : Except RunError String := do
  let s ← loadSettings around
  match ← refuse s.plan with
  | (.postgres _, _) => .error (.failure unreachable)
  | (.memory, _) =>
    if !Settings.Address.isAddress s.server.host then .error .host
    else .error (.system "Cannot assign requested address (os error 99)")

def Command.run (around : Surroundings) : Command → Except RunError String
  | .serve => runServe around
  | .format .. => runFormat around
  | .listVariables template singleBraces =>
    .ok (describeTemplate (readTemplate ((around.file? template).getD template)) singleBraces)

end PromptRegistry.CommandLine
