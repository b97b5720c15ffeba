import FeatureCheck.Configuration.Document
import FeatureCheck.Configuration.Environment
import FeatureCheck.Tables

/-!
# Configuration

Settings come from a file and from the environment, which goes over the file; what neither sets has
its default.
-/

namespace FeatureCheck

set_option autoImplicit false

structure ResolverSettings where
  /-- Seconds between two remote fetches for one identity. -/
  requestDelaySeconds : Nat := 120
  maxCachedRuntimes : Nat := 64
  deriving DecidableEq, Repr

structure SourceSettings where
  /-- A directory of published catalogs. -/
  mirrorDir : Option String := none
  /-- The directory of an installed runtime. -/
  installDir : Option String := none
  /-- The path of the catalog in an installation. -/
  installedCatalog : String := "lib/features/generated-features.json"
  deriving DecidableEq, Repr

structure Configuration where
  resolver : ResolverSettings := {}
  sources : SourceSettings := {}
  tables : CompatibilityTables := .standard

open Json in
def ResolverSettings.decoder : Decoder ResolverSettings :=
  .record [
    .of "request_delay_seconds" false .natural fun seconds settings =>
      { settings with requestDelaySeconds := seconds },
    .of "max_cached_runtimes" false .natural fun count settings =>
      { settings with maxCachedRuntimes := count }]
    {}

open Json in
def SourceSettings.decoder : Decoder SourceSettings :=
  .record [
    .of "mirror_dir" false (.optional .text) fun path settings =>
      { settings with mirrorDir := path },
    .of "install_dir" false (.optional .text) fun path settings =>
      { settings with installDir := path },
    .of "installed_catalog" false .text fun path settings =>
      { settings with installedCatalog := path }]
    {}

inductive ConfigurationError where
  | unreadable
  | mistyped
  deriving DecidableEq, Repr

/-- What was being done when the problem was met. -/
def ConfigurationError.context : ConfigurationError → String
  | .unreadable => "Failed to build config"
  | .mistyped => "Failed to deserialize config"

namespace Configuration

def defaultPath : String := "fcompat"

open Json in
/-- A configuration is an object; what it does not know is passed over. -/
def decoder : Decoder Configuration
  | .object members stop =>
      Decoder.record [
        .of "resolver" false ResolverSettings.decoder fun resolver configuration =>
          { configuration with resolver := resolver },
        .of "sources" false SourceSettings.decoder fun sources configuration =>
          { configuration with sources := sources },
        .of "tables" false CompatibilityTables.decoder fun tables configuration =>
          { configuration with tables := tables }]
        {} (.object members stop)
  | other => .error other.mismatch

def paths (path : Option String) : List String :=
  let path := path.getD defaultPath
  path :: (SettingsFormat.alternatives path).map (·.1)

/-- The settings of a file. Only a path that is given must lead to one. -/
def fileSettings (files : Files) (path : Option String) : Except ConfigurationError Json :=
  match SettingsFormat.locate? files (path.getD defaultPath), path with
  | some (format, content), _ =>
      match format.read? content with
      | some settings => .ok settings
      | none => .error .unreadable
  | none, none => .ok (.object [])
  | none, some _ => .error .unreadable

/-- The settings of a file and, over them, those of the environment. -/
def layered (file : Json) (environment : Environment.Variables) : Json :=
  (Environment.layer environment).onto ((Layer.ofObject file).onto (.object []))

def ofSettings (settings : Json) : Except ConfigurationError Configuration :=
  (decoder (Json.draft settings)).mapError fun _ => .mistyped

def load (files : Files) (path : Option String) (environment : Environment.Variables) :
    Except ConfigurationError Configuration := do
  ofSettings (layered (← fileSettings files path) environment)

end Configuration

end FeatureCheck
