import FeatureCheck.CommandLine.Run
import FeatureCheck.Logging.Stamp
import Std.Time.DateTime.Timestamp

/-!
# The program

Reads what a run asks for, and writes what it comes to.
-/

set_option autoImplicit false

namespace FeatureCheck.Program

def readFile (path : String) : IO (Except FileError Bytes) := do
  try
    return .ok (← IO.FS.readBinFile path).toList
  catch error =>
    match error with
    | .noFileOrDirectory .. => return .error .notFound
    | _ => return .error .isADirectory

/-- Reads the files at some paths; no others are known. -/
def readFiles (paths : List String) : IO Files := do
  let known ← paths.mapM fun path => do return (path, ← readFile path)
  return fun path => (known.lookup path).getD (.error .notFound)

def readVariables : IO Environment.Variables := do
  match ← readFile "/proc/self/environ" with
  | .error _ => return []
  | .ok content =>
      let entries := (content.splitOn 0).filterMap Text.decode?
      return entries.filterMap fun entry =>
        match entry.toList.span (· != '=') with
        | (name, _ :: value) => some (String.ofList name, String.ofList value)
        | _ => none

def now : IO Nat := do
  return (← Std.Time.Timestamp.now).toSecondsSinceUnixEpoch.val.toNat

/-- Makes the log file, and gives what appends lines to it. -/
def openLog (settings : LoggerSettings) : IO (Option IO.FS.Handle) := do
  match settings.directory with
  | none => return none
  | some directory =>
      IO.FS.createDirAll directory
      return some (← IO.FS.Handle.mk (Path.join directory settings.fileName) .append)

def writeEvents (filter : Filter) (file : Option IO.FS.Handle) (events : List LogEvent) :
    IO Unit := do
  for event in events do
    if filter.allows event.target event.level then
      IO.eprintln (event.line false false)
      if let some file := file then file.putStrLn (event.line false true)

def finish (outcome : CommandLine.Outcome) : IO UInt32 := do
  IO.print outcome.printed
  IO.eprint outcome.complaint
  return outcome.status.toUInt32

def runInvocation (invocation : CommandLine.Invocation) : IO UInt32 := do
  let seconds ← now
  let settings := invocation.loggerSettings (Stamp.date seconds)
  match settings.check, settings.makeFilter (← IO.getEnv "RUST_LOG") with
  | .error problem, _ | _, .error problem =>
      finish (.ofProblem (LoggerError.message problem))
  | .ok _, .ok (filter, _) =>
      let file ← try
          openLog settings
        catch error => return ← finish (.ofProblem (toString error))
      let environment ← readVariables
      let configurationFiles ← readFiles (Configuration.paths invocation.settings.config)
      let catalogPaths :=
        match invocation.configuration configurationFiles environment with
        | .ok configuration => invocation.catalogPaths configuration
        | .error _ => []
      let files ← readFiles (Configuration.paths invocation.settings.config ++ catalogPaths)
      let outcome := invocation.outcome files environment
      let time := Stamp.time seconds
      let last := if file.isSome then [Logger.lastEvent time] else []
      writeEvents filter file (outcome.happenings.map (·.event time) ++ last)
      finish outcome

end FeatureCheck.Program

def main (arguments : List String) : IO UInt32 :=
  match FeatureCheck.CommandLine.Invocation.parse arguments with
  | .error refusal => FeatureCheck.Program.finish (.ofRefusal refusal)
  | .ok invocation => FeatureCheck.Program.runInvocation invocation
