/-!
# Options and commands

What may stand on the command line. The common options are known in front of a command and behind
it; what stands behind it counts.
-/

namespace FeatureCheck.CommandLine

set_option autoImplicit false

inductive OptionName where
  | config
  | runtime
  | runtimeVersion
  | mirror
  | installDir
  | json
  | verbose
  | logDir
  | features
  | platforms
  | elements
  | help
  | version
  deriving DecidableEq, Repr

/-- What an option takes and how often it may be given. -/
inductive OptionUse where
  /-- One value, once. -/
  | single
  /-- Values with commas between them, any number of times. -/
  | listed
  /-- No value, once. -/
  | flag
  /-- No value, any number of times. -/
  | counted
  /-- No value; the answer is given at once. -/
  | answer
  deriving DecidableEq, Repr

structure CommandOption where
  name : OptionName
  use : OptionUse
  long : String
  short : Option Char := none
  valueName : String := ""
  help : String

namespace CommandOption

def takesValue (option : CommandOption) : Bool :=
  option.use = .single || option.use = .listed

end CommandOption

def defaultVersion : String := "25.0.0.3"

namespace CommandOption

def config : CommandOption :=
  { name := .config, use := .single, long := "config", short := some 'c', valueName := "CONFIG"
    help := "Configuration file (TOML, JSON or YAML); \x60fcompat.*\x60 in the working directory " ++
      "otherwise" }

def runtime : CommandOption :=
  { name := .runtime, use := .single, long := "runtime", valueName := "RUNTIME"
    help := "Runtime flavor [default: ol]" }

def runtimeVersion : CommandOption :=
  { name := .runtimeVersion, use := .single, long := "runtime-version", short := some 'r'
    valueName := "RUNTIME_VERSION"
    help := "Runtime version whose feature catalog is used, e.g. 25.0.0.3 [default: " ++
      defaultVersion ++ "]" }

def features : CommandOption :=
  { name := .features, use := .listed, long := "feature", short := some 'f'
    valueName := "FEATURES"
    help := "Declared feature (repeatable or comma-separated)" }

def platforms : CommandOption :=
  { name := .platforms, use := .listed, long := "platform", short := some 'p'
    valueName := "PLATFORMS"
    help := "Declared platform (repeatable or comma-separated)" }

def elements : CommandOption :=
  { name := .elements, use := .listed, long := "element", short := some 'e'
    valueName := "ELEMENTS"
    help := "Config element used by the configuration (repeatable or comma-separated)" }

/-- The common options that stand behind those above. -/
def others : List CommandOption := [
  { name := .mirror, use := .single, long := "mirror", valueName := "MIRROR"
    help := "Local mirror of published catalogs; overrides the configuration" },
  { name := .installDir, use := .single, long := "install-dir", valueName := "INSTALL_DIR"
    help := "Installed runtime root; overrides the configuration" },
  { name := .json, use := .flag, long := "json", help := "Print machine-readable JSON" },
  { name := .verbose, use := .counted, long := "verbose", short := some 'v'
    help := "More log output on stderr (-v info, -vv debug, -vvv trace)" },
  { name := .logDir, use := .single, long := "log-dir", valueName := "LOG_DIR"
    help := "Also write rolling log files into this directory" },
  { name := .help, use := .answer, long := "help", short := some 'h', help := "Print help" }]

def version : CommandOption :=
  { name := .version, use := .answer, long := "version", short := some 'V'
    help := "Print version" }

end CommandOption

inductive CommandName where
  | check
  | platforms
  deriving DecidableEq, Repr

namespace CommandName

def all : List CommandName := [.check, .platforms]

def word : CommandName → String
  | .check => "check"
  | .platforms => "platforms"

def ofWord? (word : String) : Option CommandName :=
  all.find? fun command => command.word = word

def about : CommandName → String
  | .check => "Validate declared features, platforms and config elements"
  | .platforms => "List the platforms a feature supports"

/-- The options known behind a command, in the order in which help shows them. -/
def options : CommandName → List CommandOption
  | .check =>
    [.config, .features, .platforms, .runtime, .elements, .runtimeVersion] ++ CommandOption.others
  | .platforms => [.config, .runtime, .runtimeVersion] ++ CommandOption.others

def operands : CommandName → List (String × String)
  | .check => []
  | .platforms => [("FEATURE", "Versioned or versionless public feature name")]

end CommandName

/-- A part of the command line: what stands in front of the command, or behind it. -/
inductive Part where
  | front
  | behind (command : CommandName)
  deriving DecidableEq, Repr

namespace Part

def options : Part → List CommandOption
  | .front => [.config, .runtime, .runtimeVersion] ++ CommandOption.others ++ [.version]
  | .behind command => command.options

/-- How many operands there are. -/
def operandCount : Part → Nat
  | .front => 0
  | .behind command => command.operands.length

end Part

end FeatureCheck.CommandLine
