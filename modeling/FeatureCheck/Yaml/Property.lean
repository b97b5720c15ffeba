import FeatureCheck.Text.Numeral
import FeatureCheck.Yaml.Cursor

/-!
# YAML tokens

The tokens of a document. Anchors and tags stand in front of the content of a node, directives in
front of a document.
-/

namespace FeatureCheck.Yaml

set_option autoImplicit false

/-- A tag is a suffix behind the text that its handle stands for. -/
structure Tag where
  handle : String
  suffix : String
  deriving DecidableEq, Repr

inductive Token where
  | versionDirective
  | tagDirective (handle replacement : String)
  | documentStart
  | documentEnd
  | blockListStart
  | blockMappingStart
  | blockEnd
  | listStart
  | listEnd
  | mappingStart
  | mappingEnd
  | item
  | separator
  | key
  | value
  | reference (name : String)
  | anchor (name : String)
  | tag (tag : Tag)
  | scalar (isPlain : Bool) (text : String)
  deriving DecidableEq, Repr

namespace Property

def name? (cursor : Cursor) : Option (String × Cursor) :=
  let (name, after) := (cursor.take 1).takeWhile isAnchorChar
  if name.isEmpty then none else some (String.ofList name, after)

/-! ## Tags -/

/-- The octet of an escape in front. -/
def octet? (cursor : Cursor) : Option Nat :=
  match cursor.text.take 3 with
  | ['%', high, low] => do
      return Text.valueInBase 16 [← Text.hexValue? high, ← Text.hexValue? low]
  | _ => none

def width? (octet : Nat) : Option Nat :=
  if octet < 0x80 then some 1
  else if 0xC0 ≤ octet ∧ octet < 0xE0 then some 2
  else if 0xE0 ≤ octet ∧ octet < 0xF0 then some 3
  else if 0xF0 ≤ octet ∧ octet < 0xF8 then some 4
  else none

/-- The further octets of an escaped character, whose value so far is `code`. -/
def furtherOctets? : Nat → Nat → Cursor → Option (Nat × Cursor)
  | 0, code, cursor => some (code, cursor)
  | count + 1, code, cursor => do
      let octet ← octet? cursor
      if octet < 0x80 ∨ 0xC0 ≤ octet then none
      else furtherOctets? count (code * 256 + octet) (cursor.take 3)

/-- The character whose number the escaped octets in front write. -/
def escape? (cursor : Cursor) : Option (Char × Cursor) := do
  let octet ← octet? cursor
  let (code, after) ← furtherOctets? ((← width? octet) - 1) octet (cursor.take 3)
  if code < 0xD800 ∨ 0xE000 ≤ code ∧ code < 0x110000 then return (Char.ofNat code, after)
  else none

/-- The characters in front that satisfy a test, with escapes replaced. -/
def uri? (test : Char → Bool) : Nat → Cursor → Option (List Char × Cursor)
  | 0, _ => none
  | fuel + 1, cursor =>
      match cursor.next?.filter test with
      | none => some ([], cursor)
      | some c => do
          let (c, after) ← if c = '%' then escape? cursor else some (c, cursor.take 1)
          let (rest, after) ← uri? test fuel after
          return (c :: rest, after)

def uriIn? (test : Char → Bool) (cursor : Cursor) : Option (List Char × Cursor) :=
  uri? test (cursor.text.length + 1) cursor

/-- A handle of tags: a word between exclamation marks, the second of which may be missing. -/
def handle? (cursor : Cursor) : Option (List Char × Cursor) :=
  if cursor.next? = some '!' then
    let (word, after) := (cursor.take 1).takeWhile isWordChar
    if after.next? = some '!' then some ('!' :: word ++ ['!'], after.take 1)
    else some ('!' :: word, after)
  else none

def isClosed (handle : List Char) : Bool :=
  1 < handle.length && handle.getLast? = some '!'

/-- A tag that is written out in angle brackets. -/
def verbatimTag? (cursor : Cursor) : Option (Tag × Cursor) := do
  let (suffix, after) ← uriIn? isUriChar (cursor.take 2)
  if after.next? = some '>' then return (⟨"", String.ofList suffix⟩, after.take 1) else none

/-- A tag behind a handle; one exclamation mark alone is a tag too. -/
def shorthandTag? (cursor : Cursor) : Option (Tag × Cursor) := do
  let (handle, after) ← handle? cursor
  let (suffix, after) ← uriIn? isTagChar after
  if isClosed handle then return (⟨String.ofList handle, String.ofList suffix⟩, after)
  match handle.drop 1 ++ suffix with
  | [] => return (⟨"", "!"⟩, after)
  | suffix => return (⟨"!", String.ofList suffix⟩, after)

def tag? (inFlow : Bool) (cursor : Cursor) : Option (Tag × Cursor) := do
  let (tag, after) ←
    if cursor.second? = some '<' then verbatimTag? cursor else shorthandTag? cursor
  if isGap after.next? ∨ inFlow ∧ after.next?.any isFlowMark then return (tag, after) else none

/-! ## Directives -/

def dropVersionNumber? (cursor : Cursor) : Option Cursor :=
  let (digits, after) := cursor.takeWhile Char.isDigit
  if digits.isEmpty ∨ 9 < digits.length then none else some after

/-- A version is two numbers with a point between them; none is refused. -/
def version? (cursor : Cursor) : Option (Token × Cursor) := do
  let after ← dropVersionNumber? cursor.dropBlanks
  if after.next? ≠ some '.' then none
  return (.versionDirective, ← dropVersionNumber? (after.take 1))

/-- What a handle stands for starts with an exclamation mark or a character of a tag. -/
def replacement? (cursor : Cursor) : Option (List Char × Cursor) :=
  if cursor.next? = some '!' then do
    let (rest, after) ← uriIn? isUriChar (cursor.take 1)
    return ('!' :: rest, after)
  else if cursor.next?.any isTagChar then uriIn? isUriChar cursor
  else none

def tagHandle? (cursor : Cursor) : Option (Token × Cursor) := do
  let (handle, after) ← handle? cursor.dropBlanks
  if !isClosed handle ∧ handle ≠ ['!'] then none
  let (text, after) ← replacement? after.dropBlanks
  if isGap after.next? then
    return (.tagDirective (String.ofList handle) (String.ofList text), after)
  else none

/-- The directive whose mark stands here, up to the end of its line. One with an unknown name is
passed over like a handle that stands for nothing. -/
def directive? (cursor : Cursor) : Option (Token × Cursor) := do
  let (name, after) := (cursor.take 1).takeWhile isWordChar
  if name.isEmpty ∨ !isGap after.next? then none
  let (token, after) ← match String.ofList name with
    | "YAML" => version? after
    | "TAG" => tagHandle? after
    | _ => some (.tagDirective "" "", after.dropLine)
  let after ← after.dropTrailing?
  if !isLineEnd after.next? then none
  return (token, if after.text.isEmpty then after else after.newLine)

end Property

end FeatureCheck.Yaml
