import FeatureCheck.FileTree
import FeatureCheck.Logging.Event
import FeatureCheck.Logging.Filter
import FeatureCheck.Path
import FeatureCheck.Problem

/-!
# Loggers

A logger writes the events that pass its filter to the console, to a file, or to both. Only one may
run at a time.
-/

namespace FeatureCheck

set_option autoImplicit false

structure LoggerSettings where
  /-- What the names of log files begin with. -/
  name : String
  threshold : Threshold := some .warn
  filter : Option String := none
  hasConsole : Bool := true
  asJson : Bool := false
  directory : Option String := none
  day : Option String := none
  maxFiles : Nat := 7

inductive LoggerError where
  | blankName
  | noFiles
  | badFilter (filter : String) (error : DirectiveError)
  | noOutput
  | directory (error : FileError)
  | file (error : FileError)
  | running
  deriving DecidableEq, Repr

namespace LoggerError

def word : LoggerError → String
  | .blankName | .noFiles | .badFilter .. | .noOutput => "InvalidConfiguration"
  | .directory _ => "Io"
  | .file _ => "Appender"
  | .running => "Subscriber"

def label : LoggerError → String
  | .blankName | .noFiles | .badFilter .. | .noOutput => "Invalid logger configuration"
  | .directory _ => "Log directory error"
  | .file _ => "Rolling file appender error"
  | .running => "Tracing subscriber error"

def details : LoggerError → String
  | .blankName => "Logger name cannot be empty"
  | .noFiles => "max_files must be greater than zero"
  | .badFilter filter error => "Invalid env filter '" ++ filter ++ "': " ++ error.message
  | .noOutput => "No logging output enabled. Enable the console or a log directory."
  | .directory error | .file error => error.message
  | .running => "another logger is running"

def message (problem : Problem LoggerError) : String :=
  problem.describe label details

end LoggerError

structure LogOutput where
  console : List String
  files : FileTree

namespace LogOutput

def print (output : LogOutput) (line : String) : LogOutput :=
  { output with console := output.console ++ [line] }

end LogOutput

structure Logger where
  filter : Filter
  hasConsole : Bool
  asJson : Bool
  file : Option Place

namespace LoggerSettings

def fileName (settings : LoggerSettings) : String :=
  settings.name ++ settings.day.elim "" ("." ++ ·) ++ ".log"

def check (settings : LoggerSettings) : Except (Problem LoggerError) Unit :=
  if Text.isBlank settings.name then .error ⟨.blankName, none⟩
  else if settings.directory.isSome ∧ settings.maxFiles = 0 then .error ⟨.noFiles, none⟩
  else .ok ()

/-- The filter of the settings or else, as far as it can be read, the one of the environment;
without directives the threshold holds for all targets. -/
def makeFilter (settings : LoggerSettings) (inherited : Option String) :
    Except (Problem LoggerError) (Filter × List (String × DirectiveError)) :=
  match settings.filter with
  | some text =>
      match Filter.parse text with
      | .ok filter => .ok (filter.orDefault settings.threshold, [])
      | .error error => .error ⟨.badFilter text error, none⟩
  | none =>
      let (filter, others) := Filter.parseKnown (inherited.getD "")
      .ok (filter.orDefault settings.threshold, others)

/-- What the console tells if the directory cannot be listed, as it has no name. -/
def listingComplaint : String :=
  "Error reading the log directory/files: No such file or directory (os error 2)"

/-- Removes the oldest log files, so that the number of files is kept with one more. -/
def prune (settings : LoggerSettings) (files : FileTree) (directory : Place) : FileTree :=
  let logs := (files.filesIn directory).filter fun name =>
    settings.name.toList.isPrefixOf name.toList && "log".toList.isSuffixOf name.toList
  (logs.take (logs.length - (settings.maxFiles - 1))).foldl
    (fun files name => files.remove (directory ++ [name])) files

def openFile (settings : LoggerSettings) (files : FileTree) (directory : String) :
    Except (Problem LoggerError) (FileTree × Place) := do
  let failed := fun (error : FileError) => (⟨.directory error,
    some ("Failed to create log directory " ++ directory)⟩ : Problem LoggerError)
  (FileTree.checkPath directory).mapError failed
  let files ← (files.makeDirectories [] (FileTree.parts directory)).mapError failed
  let unusable := fun (error : FileError) => (⟨.file error,
    some ("Log directory " ++ directory)⟩ : Problem LoggerError)
  let place ← (files.locateDirectory directory).mapError unusable
  let files := if directory.isEmpty then files else settings.prune files place
  (FileTree.checkPath (Path.join directory settings.fileName)).mapError unusable
  let inner := FileTree.parts settings.fileName
  let files ← (files.makeDirectories place inner.dropLast).mapError unusable
  let file := place ++ inner.filter fun part => part != "" && part != "."
  return (← (files.append file []).mapError unusable, file)

/-- Starts a logger; what was written before a refusal stays. -/
def start (settings : LoggerSettings) (inherited : Option String) (isRunning : Bool)
    (output : LogOutput) : Except (Problem LoggerError) Logger × LogOutput :=
  match settings.check, settings.makeFilter inherited with
  | .error problem, _ => (.error problem, output)
  | .ok _, .error problem => (.error problem, output)
  | .ok _, .ok (filter, ignored) =>
      let output := ignored.foldl (fun output (text, error) =>
        output.print ("ignoring \x60" ++ text ++ "\x60: " ++ error.message)) output
      let finish := fun (file : Option Place) (output : LogOutput) =>
        if isRunning then (.error ⟨.running, none⟩, output)
        else (.ok ⟨filter, settings.hasConsole, settings.asJson, file⟩, output)
      match settings.directory with
      | some directory =>
          let output := if directory.isEmpty then output.print listingComplaint else output
          match settings.openFile output.files directory with
          | .ok (files, place) => finish (some place) { output with files := files }
          | .error problem => (.error problem, output)
      | none =>
          if settings.hasConsole then finish none output else (.error ⟨.noOutput, none⟩, output)

end LoggerSettings

namespace Logger

def writesFiles (logger : Logger) : Bool :=
  logger.file.isSome

def write (logger : Logger) (event : LogEvent) (output : LogOutput) : LogOutput :=
  let output := if logger.hasConsole then output.print (event.line logger.asJson false)
    else output
  match logger.file with
  | none => output
  | some place =>
      let line := Text.bytesOf (event.line logger.asJson true ++ "\n")
      { output with files := (output.files.append place line).toOption.getD output.files }

def emit (logger : Logger) (event : LogEvent) (output : LogOutput) : LogOutput :=
  if logger.filter.allows event.target event.level then logger.write event output else output

def lastEvent (time : String) : LogEvent :=
  ⟨time, .debug, "fcompat_logger", "Logging system shutting down, flushing log files"⟩

def stop (logger : Logger) (time : String) (output : LogOutput) : LogOutput :=
  if logger.writesFiles then logger.emit (lastEvent time) output else output

def run (logger : Logger) (events : List LogEvent) (time : String) (output : LogOutput) :
    LogOutput :=
  logger.stop time (events.foldl (fun output event => logger.emit event output) output)

end Logger

end FeatureCheck
