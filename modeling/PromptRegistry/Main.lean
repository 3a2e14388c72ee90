import PromptRegistry.CommandLine.Run

/-!
# The program

Gathers what a command needs of its surroundings, carries it out and prints what comes of it.
-/

open PromptRegistry CommandLine

def readFile? (path : String) : IO (Option String) := do
  try
    return some (← IO.FS.readFile path)
  catch _ =>
    return none

def settingVariables : List String :=
  ["APP__SERVER__HOST", "APP__SERVER__PORT", "APP__LOGGING__LEVEL", "APP__LOGGING__FORMAT",
    "APP__STORAGE__BACKEND", "APP__STORAGE__TABLE", "APP__STORAGE__POSTGRES__URL",
    "APP__STORAGE__POSTGRES__MAX_CONNECTIONS", "APP__STORAGE__POSTGRES__MIN_CONNECTIONS",
    "APP__STORAGE__POSTGRES__CONNECT_TIMEOUT_SECS", "APP__STORAGE__POSTGRES__IDLE_TIMEOUT_SECS",
    "APP__SEARCH__DEFAULT_MAX_RESULTS", "APP__SEARCH__MAX_RESULTS_LIMIT"]

def filesOf : Command → List String
  | .listVariables template _ => [template]
  | _ => Settings.environmentFile :: Settings.filePaths

def gather (c : Command) : IO Settings.Surroundings := do
  let files ← (filesOf c).filterMapM fun path => do return (← readFile? path).map (path, ·)
  let environment ← settingVariables.filterMapM fun name => do
    return (← IO.getEnv name).map (name, ·)
  return { file? := fun path => lookupEntry path files, environment }

def describeUsage : UsageError → String
  | .help | .helpOnNothing =>
    "Usage: prompt-registry serve\n" ++
    "       prompt-registry format <URI> [--var KEY=VALUE]... [--allow-partial]\n" ++
    "       prompt-registry variables <TEMPLATE> [--single-brace]\n"
  | .version => versionLine
  | .unknownCommand => "error: unrecognized subcommand\n"
  | .unknownArgument => "error: unexpected argument\n"
  | .missingArgument => "error: a required argument was not provided\n"
  | .repeatedFlag => "error: a flag cannot be used multiple times\n"
  | .flagWithValue => "error: a flag takes no value\n"
  | .optionWithoutValue => "error: a value is required\n"
  | .assignment e => "error: " ++ e.message ++ "\n"

def describeFailure : RunError → String
  | .failure f => f.message
  | .settings => "the settings cannot be read"
  | .host => "invalid IP address syntax"
  | .system message => message

def main (args : List String) : IO UInt32 := do
  match Command.ofArguments args with
  | .error .help => IO.print (describeUsage .help); return 0
  | .error .version => IO.print (describeUsage .version); return 0
  | .error e => IO.eprint (describeUsage e); return 2
  | .ok c =>
    match c.run (← gather c) with
    | .ok text => IO.print text; return 0
    | .error e => IO.eprintln ("Error: " ++ describeFailure e); return 1
