import FeatureCheck.FileTree
import FeatureCheck.Ini.Document
import FeatureCheck.Json.Decoder
import FeatureCheck.Json5.Document
import FeatureCheck.Path
import FeatureCheck.Ron.Document
import FeatureCheck.Text.Split
import FeatureCheck.Toml.Document
import FeatureCheck.Yaml.Document

/-!
# Settings from a file

The name of a file says in which format it is written. A path that leads to no file is tried again
with the extension of each format behind its name. A file holds an object.
-/

namespace FeatureCheck

set_option autoImplicit false

inductive SettingsFormat where
  | toml
  | json
  | yaml
  | ini
  | ron
  | json5
  deriving DecidableEq, Repr

namespace SettingsFormat

/-- Extensions of file names and their formats. -/
def extensions : List (String × SettingsFormat) :=
  [("toml", .toml), ("json", .json), ("yaml", .yaml), ("yml", .yaml), ("ini", .ini), ("ron", .ron),
    ("json5", .json5)]

/-- What stands behind the last dot of a file name, unless the dot is its first character. -/
def extension? (path : String) : Option String :=
  let name := (path.toList.splitOn '/').getLast?.getD []
  match Text.splitLast? '.' name with
  | some (_ :: _, extension) => some (String.ofList extension)
  | _ => none

def ofPath? (path : String) : Option SettingsFormat :=
  (extension? path).bind fun extension => extensions.lookup extension

end SettingsFormat

namespace Json

/-- Of members with one key, the last. -/
def distinct (members : List (String × Json)) : List (String × Json) :=
  members.foldr (fun member kept =>
    if kept.any fun other => other.1 = member.1 then kept else member :: kept) []

mutual

/-- A value as a setting: of members with one key, the last counts. -/
def asSetting : Json → Json
  | .array items => .array (asSettings items)
  | .object members => .object (distinct (asMembers members))
  | value => value

def asSettings : List Json → List Json
  | [] => []
  | item :: items => item.asSetting :: asSettings items

def asMembers : List (String × Json) → List (String × Json)
  | [] => []
  | (key, value) :: members => (key, value.asSetting) :: asMembers members

end

mutual

/-- How many arrays and objects stand around each other. -/
def depth : Json → Nat
  | .array items => depthOfItems items + 1
  | .object members => depthOfMembers members + 1
  | _ => 0

def depthOfItems : List Json → Nat
  | [] => 0
  | item :: items => max item.depth (depthOfItems items)

def depthOfMembers : List (String × Json) → Nat
  | [] => 0
  | (_, value) :: members => max value.depth (depthOfMembers members)

end

def greatestDepth : Nat := 127

/-- Reads JSON, unless it is nested too deeply. -/
def settings? (glyphs : List Text.Glyph) : Option Json :=
  (Decoder.decode Draft.toJson glyphs).toOption.filter fun value => value.depth ≤ greatestDepth

end Json

namespace SettingsFormat

/-- The text of a file, without a byte order mark; ill-formed bytes count as unknown characters. -/
def glyphsOf (content : List UInt8) : List Text.Glyph :=
  match Text.glyphs content with
  | some '\ufeff' :: glyphs => glyphs.map known
  | glyphs => glyphs.map known
where
  known (glyph : Text.Glyph) : Text.Glyph := some (glyph.getD '\ufffd')

def parse (format : SettingsFormat) (glyphs : List Text.Glyph) : Option Json :=
  match format with
  | .toml => Toml.parse (glyphs.filterMap id)
  | .json => Json.settings? glyphs
  | .yaml => Yaml.parse (glyphs.filterMap id)
  | .ini => Ini.parse (glyphs.filterMap id)
  | .ron => Ron.parse (glyphs.filterMap id)
  | .json5 => Json5.parse (glyphs.filterMap id)

def read? (format : SettingsFormat) (content : List UInt8) : Option Json :=
  let value := (format.parse (glyphsOf content)).map Json.asSetting
  value.filter fun value => match value with
    | .object _ => true
    | _ => false

/-- The files that a path may mean besides the one with its own name. -/
def alternatives (path : String) : List (String × SettingsFormat) :=
  extensions.filterMap fun (extension, format) =>
    (Path.withExtension? path extension).map fun path => (path, format)

/-- The file that a path means, and its format. -/
def locate? (files : Files) (path : String) : Option (SettingsFormat × List UInt8) :=
  match files path with
  | .ok content => (ofPath? path).map fun format => (format, content)
  | .error _ =>
      (alternatives path).findSome? fun (path, format) =>
        (files path).toOption.map fun content => (format, content)

end SettingsFormat

end FeatureCheck
