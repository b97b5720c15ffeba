import FeatureCheck.CommandLine.Help
import FeatureCheck.Engine
import FeatureCheck.Logging.Logger

/-!
# Runs of the program

A run reads the arguments, starts its logger, loads its configuration, and then checks
declarations or lists platforms. It ends with zero unless a check finds errors; it ends with one
if it cannot begin, and with two if the arguments are wrong.
-/

namespace FeatureCheck.CommandLine

set_option autoImplicit false

structure Settings where
  config : Option String
  runtime : RuntimeKind
  runtimeVersion : String
  mirror : Option String
  installDir : Option String
  asJson : Bool
  verbosity : Nat
  logDir : Option String

inductive Task where
  | check (declarations : Declarations)
  | platforms (feature : String)

structure Invocation where
  settings : Settings
  task : Task

namespace Invocation

/-- The last value of an option, from behind the command if it is given there. -/
def value? (front behind : Given) (option : OptionName) : Option String :=
  (behind.values option).getLast? <|> (front.values option).getLast?

def count (front behind : Given) (option : OptionName) : Nat :=
  if behind.has option then (behind.values option).length else (front.values option).length

def ofGiven (front : Given) (command : CommandName) (behind : Given) : Invocation where
  settings :=
    { config := value? front behind .config
      runtime := ((value? front behind .runtime).bind fun word =>
        (RuntimeKind.parse word).toOption).getD .ol
      runtimeVersion := (value? front behind .runtimeVersion).getD defaultVersion
      mirror := value? front behind .mirror
      installDir := value? front behind .installDir
      asJson := front.has .json || behind.has .json
      verbosity := count front behind .verbose
      logDir := value? front behind .logDir }
  task := match command with
    | .check =>
        .check ⟨behind.values .features, behind.values .platforms, behind.values .elements⟩
    | .platforms => .platforms (behind.operands.head?.getD "")

def parse (arguments : List String) : Except Refusal Invocation :=
  (readArguments arguments).map fun (front, command, behind) => ofGiven front command behind

def identity (invocation : Invocation) : RuntimeIdentity :=
  .of invocation.settings.runtime invocation.settings.runtimeVersion

/-- The logger of a run; its file is named for the day. -/
def loggerSettings (invocation : Invocation) (day : String) : LoggerSettings where
  name := programName
  threshold := some (Level.ofVerbosity invocation.settings.verbosity)
  directory := invocation.settings.logDir
  day := some day

/-- The configuration; options go over its sources. -/
def configuration (invocation : Invocation) (files : Files)
    (environment : Environment.Variables) : Except ConfigurationError Configuration := do
  let configuration ← Configuration.load files invocation.settings.config environment
  let sources := configuration.sources
  return { configuration with
    sources := { sources with
      mirrorDir := invocation.settings.mirror <|> sources.mirrorDir
      installDir := invocation.settings.installDir <|> sources.installDir } }

end Invocation

/-- What happens in a run: a level, the part of the program it happens in, and a message. -/
structure Happening where
  level : Level
  target : String
  message : String
  deriving DecidableEq, Repr

namespace Happening

def event (happening : Happening) (time : String) : LogEvent :=
  ⟨time, happening.level, happening.target, happening.message⟩

def loading (path : Option String) : Happening :=
  match path with
  | some path => ⟨.info, "fcompat_config", "Loading config from " ++ path⟩
  | none =>
      ⟨.debug, "fcompat_config", "No config path given, probing '" ++
        Configuration.defaultPath ++ "' in the working dir"⟩

def ready (identity : RuntimeIdentity) : Happening :=
  ⟨.debug, "fcompat_engine", "Engine ready identity=" ++ identity.display⟩

def checked (report : Report) : Happening :=
  ⟨.info, "fcompat_engine", "Configuration checked source=" ++ report.source.word ++
    " errors=" ++ toString (report.count .error) ++
    " warnings=" ++ toString (report.count .warning)⟩

end Happening

/-- What a run prints, the status that it ends with, and what happens in it. -/
structure Outcome where
  status : Nat
  printed : String
  complaint : String := ""
  happenings : List Happening := []
  deriving DecidableEq, Repr

namespace Outcome

def ofRefusal : Refusal → Outcome
  | .help part => { status := 0, printed := helpText part }
  | .helpOnHelp => { status := 0, printed := helpOnHelpText }
  | .version => { status := 0, printed := versionText }
  | refusal => { status := 2, printed := "", complaint := refusal.message }

def ofProblem (complaint : String) : Outcome :=
  { status := 1, printed := "", complaint := "Error: " ++ complaint ++ "\n" }

def ofReport (report : Report) (asJson : Bool) : Outcome where
  status := if report.hasErrors then 1 else 0
  printed := if asJson then report.renderJson ++ "\n" else report.renderText

def ofPlatforms (feature : String) (platforms : NameSet) (asJson : Bool) : Outcome where
  status := 0
  printed := if asJson then renderPlatformsJson feature platforms ++ "\n"
    else renderPlatforms feature platforms

end Outcome

namespace Invocation

def perform (invocation : Invocation) (files : Files) (configuration : Configuration) : Outcome :=
  let engine := Engine.ofConfiguration files configuration
  let ready := Happening.ready invocation.identity
  match invocation.task with
  | .check declarations =>
      let report := (engine.check .initial invocation.identity declarations).1
      { Outcome.ofReport report invocation.settings.asJson with
        happenings := [ready, .checked report] }
  | .platforms feature =>
      let platforms := (engine.platforms .initial invocation.identity feature).1
      { Outcome.ofPlatforms feature platforms invocation.settings.asJson with
        happenings := [ready] }

/-- What the run comes to once its logger has started. -/
def outcome (invocation : Invocation) (files : Files) (environment : Environment.Variables) :
    Outcome :=
  let outcome := match invocation.configuration files environment with
    | .error error => Outcome.ofProblem ("Critical: Configuration is malformed: " ++ error.context)
    | .ok configuration => invocation.perform files configuration
  { outcome with
    happenings := .loading invocation.settings.config :: outcome.happenings }

/-- The files that may be asked for under a configuration. -/
def catalogPaths (invocation : Invocation) (configuration : Configuration) : List String :=
  let sources := configuration.sources
  (sources.mirrorDir.map fun root => Sources.mirrorPath root invocation.identity).toList ++
    (sources.installDir.map fun root => Path.join root sources.installedCatalog).toList

end Invocation

structure Surroundings where
  files : FileTree
  environment : Environment.Variables := []
  /-- The filter for logs that the environment sets. -/
  logFilter : Option String := none
  day : String := "today"
  time : String := "now"

def run (arguments : List String) (surroundings : Surroundings) : Outcome × FileTree :=
  match Invocation.parse arguments with
  | .error refusal => (.ofRefusal refusal, surroundings.files)
  | .ok invocation =>
      let settings := invocation.loggerSettings surroundings.day
      let (logger, output) :=
        settings.start surroundings.logFilter false ⟨[], surroundings.files⟩
      match logger with
      | .error problem =>
          (.ofProblem ("Failed to initialize logging: " ++ LoggerError.message problem),
            output.files)
      | .ok logger =>
          let outcome := invocation.outcome output.files.read surroundings.environment
          let events := outcome.happenings.map (·.event surroundings.time)
          (outcome, (logger.run events surroundings.time output).files)

end FeatureCheck.CommandLine
