import FeatureCheck.Json.Basic
import FeatureCheck.Text.Letter
import FeatureCheck.Text.Numeral
import FeatureCheck.Text.Reader

/-!
# RON documents

Structures, maps, lists, options and plain values. A structure with named fields is an object like
a map, one without is a list, and so is a tuple. Names of structures do not count.
-/

namespace FeatureCheck.Ron

open Text

set_option autoImplicit false

/-! ## Layout -/

def isBlank (c : Char) : Bool :=
  c ∈ [' ', '\t', '\n', '\r', '\x0b', '\x0c', '\u0085', '\u200e', '\u200f', '\u2028', '\u2029']

/-- The text behind the end of a block comment, with so many comments open around this place. -/
def dropBlockComment : Nat → List Char → Option (List Char)
  | _, [] => none
  | 0, '*' :: '/' :: rest => some rest
  | depth + 1, '*' :: '/' :: rest => dropBlockComment depth rest
  | depth, '/' :: '*' :: rest => dropBlockComment (depth + 1) rest
  | depth, _ :: rest => dropBlockComment depth rest

def layoutUpTo : Nat → Reader Unit
  | 0 => failure
  | fuel + 1 => do
      let _ ← Reader.takeWhile isBlank
      if ← Reader.accept "//" then
        let _ ← Reader.takeWhile (· ≠ '\n')
        layoutUpTo fuel
      else if ← Reader.accept "/*" then
        set (← dropBlockComment 0 (← get))
        layoutUpTo fuel

def layout : Reader Unit := do
  layoutUpTo ((← get).length + 1)

/-! ## Names -/

def isNameStart (c : Char) : Bool :=
  isLetter c || c == '_'

def isNamePart (c : Char) : Bool :=
  isAlphanumeric c || c == '_'

def isRawPart (c : Char) : Bool :=
  isNamePart c || c ∈ ['.', '+', '-']

/-- The name in front, if there is one, and what follows. -/
def name? (text : List Char) : Option (List Char × List Char) :=
  match text with
  | 'r' :: '#' :: rest =>
      if rest.head?.any isRawPart then some (rest.takeWhile isRawPart, rest.dropWhile isRawPart)
      else none
  | c :: _ =>
      let isText := [['"'], ['#', '"'], ['#', '#']].any fun lead => lead.isPrefixOf text.tail
      if c = 'b' ∧ (text.tail.head?.any fun c => c = '"' ∨ c = '\'') ∨ c = 'r' ∧ isText then none
      else if isNameStart c then some (text.takeWhile isNamePart, text.dropWhile isNamePart)
      else none
  | [] => none

def acceptName : Reader (Option (List Char)) := do
  match name? (← get) with
  | some (name, rest) => set rest; return some name
  | none => return none

/-! ## Texts -/

def escape : Reader Char := do
  match ← Reader.next with
  | '\'' => return '\''
  | '"' => return '"'
  | '\\' => return '\\'
  | 'n' => return '\n'
  | 'r' => return '\r'
  | 't' => return '\t'
  | '0' => return '\x00'
  | 'x' =>
      let high ← Reader.next
      let low ← Reader.next
      return Char.ofNat (← hexNumber? [high, low])
  | 'u' =>
      Reader.expect "\x7b"
      let digits ← Reader.takeWhile fun c => (hexValue? c).isSome
      Reader.expect "\x7d"
      if digits.isEmpty ∨ 6 < digits.length then failure
      return ← scalar? digits
  | _ => failure

def quotedUpTo : Nat → Reader (List Char)
  | 0 => failure
  | fuel + 1 => do
      let c ← Reader.next
      if c = '"' then return []
      let c ← if c = '\\' then escape else pure c
      return c :: (← quotedUpTo fuel)

/-- The text up to a closing mark, in which nothing is special. -/
def rawUpTo (close : List Char) : List Char → Option (List Char × List Char)
  | [] => none
  | c :: rest =>
      match close.isPrefixOf? (c :: rest) with
      | some after => some ([], after)
      | none => (rawUpTo close rest).map fun (text, after) => (c :: text, after)

/-- A text in quotes, or one between marks of its own. -/
def quoted : Reader String := do
  if ← Reader.accept "\"" then
    return String.ofList (← quotedUpTo ((← get).length + 1))
  Reader.expect "r"
  let marks ← Reader.takeWhile (· = '#')
  Reader.expect "\""
  let (text, rest) ← rawUpTo ('"' :: marks) (← get)
  set rest
  return String.ofList text

def letter : Reader String := do
  Reader.expect "'"
  let c ← Reader.next
  let c ← if c = '\\' then escape else if c = '\'' then failure else pure c
  Reader.expect "'"
  return String.singleton c

/-! ## Numbers -/

def base : Reader Nat := do
  if ← Reader.accept "0x" then return 16
  if ← Reader.accept "0b" then return 2
  if ← Reader.accept "0o" then return 8
  return 10

def bounds? (suffix : List Char) : Option (Int × Int) :=
  match String.ofList suffix with
  | "" => some (leastSigned, 0xFFFFFFFFFFFFFFFF)
  | "i8" => some (-0x80, 0x7F)
  | "i16" => some (-0x8000, 0x7FFF)
  | "i32" => some (-0x80000000, 0x7FFFFFFF)
  | "i64" => some (leastSigned, greatestSigned)
  | "u8" => some (0, 0xFF)
  | "u16" => some (0, 0xFFFF)
  | "u32" => some (0, 0xFFFFFFFF)
  | "u64" => some (0, 0xFFFFFFFFFFFFFFFF)
  | _ => none

def isFloatSuffix (suffix : List Char) : Bool :=
  String.ofList suffix ∈ ["", "f32", "f64"]

def sign : Reader (List Char) := do
  if ← Reader.accept "-" then return ['-']
  if ← Reader.accept "+" then return ['+']
  return []

/-- A fraction or a power of ten: its characters, and perhaps its type. -/
def real? (text : List Char) : Option (List Char × List Char) :=
  let isRealChar := fun c : Char => c.isDigit || c ∈ ['.', 'e', 'E', '+', '-', '_']
  let body := (text.takeWhile isRealChar).filter (· ≠ '_')
  if text.head? ≠ some '_' ∧ body.any (· ∈ ['.', 'e', 'E']) ∧ isDecimal body then
    some (body, text.dropWhile isRealChar)
  else none

def number : Reader JsonNumber := do
  let sign ← sign
  let text ← get
  match real? text with
  | some (body, rest) =>
      set (rest.dropWhile isNamePart)
      if !isFloatSuffix (rest.takeWhile isNamePart) then failure
      return .other (String.ofList (sign.filter (· = '-') ++ body))
  | none =>
      let base ← base
      let isDigit := fun c : Char => c = '_' || (hexValue? c).any (· < base)
      let digits ← Reader.takeWhile isDigit
      let suffix ← Reader.takeWhile isNamePart
      if digits.head? = some '_' then failure
      let digits := digits.filter (· ≠ '_')
      if digits.isEmpty then failure
      if base = 10 ∧ !suffix.isEmpty ∧ isFloatSuffix suffix then
        return .other (String.ofList (sign.filter (· = '-') ++ digits))
      let value := signedBy sign (valueInBase base (← (digits.mapM hexValue? : Option _)))
      let (least, greatest) ← bounds? suffix
      if least ≤ value ∧ value ≤ greatest then return .whole value else failure

/-! ## Values -/

def word? (name : List Char) : Option Json :=
  match String.ofList name with
  | "true" => some (.bool true)
  | "false" => some (.bool false)
  | "None" => some .null
  | "inf" | "inff32" | "inff64" => some (.number (.other "inf"))
  | "NaN" | "NaNf32" | "NaNf64" => some (.number (.other "nan"))
  | _ => none

/-- The fields of a structure are named: a name and a colon come next. -/
def hasNames : Reader Bool := do
  let start ← get
  let isNamed ← match ← acceptName with
    | some _ =>
        layout
        Reader.accept ":"
    | none => pure false
  set start
  return isNamed

/-- A key of a map has to be a text. -/
def textOf : Json → Option String
  | .text value => some value
  | _ => none

def greatestDepth : Nat := 128

def fields (value : Reader Json) (count : Nat) : Reader Json := do
  layout
  if ← hasNames then
    let field := do
      let some name ← acceptName | failure
      layout
      Reader.expect ":"
      layout
      return (String.ofList name, ← value)
    return .object (← Reader.itemsUntil ")" layout field count)
  return .array (← Reader.itemsUntil ")" layout value count)

def value : Nat → Reader Json
  | 0 => failure
  | depth + 1 => do
      let count := (← get).length
      match ← acceptName with
      | some name =>
          if String.ofList name = "Some" then
            layout
            Reader.expect "("
            layout
            let inner ← value depth
            layout
            Reader.expect ")"
            return inner
          match word? name with
          | some value => return value
          | none =>
              layout
              if ← Reader.accept "(" then fields (value depth) count else return .null
      | none =>
          if ← Reader.accept "()" then return .null
          if ← Reader.accept "(" then return ← fields (value depth) count
          if ← Reader.accept "[" then
            return .array (← Reader.itemsUntil "]" layout (value depth) count)
          if ← Reader.accept "\x7b" then
            let member := do
              let key ← value depth
              layout
              Reader.expect ":"
              layout
              return (← textOf key, ← value depth)
            return .object (← Reader.itemsUntil "\x7d" layout member count)
          match ← Reader.peek? with
          | some '"' | some 'r' => return .text (← quoted)
          | some '\'' => return .text (← letter)
          | _ => return .number (← number)

/-! ## Documents -/

def extensions : List String :=
  ["unwrap_newtypes", "implicit_some", "unwrap_variant_newtypes", "explicit_struct_names"]

/-- Passes over the extensions that a document asks for, which have to be known. -/
def attributes : Nat → Reader Unit
  | 0 => failure
  | fuel + 1 => do
      layout
      if ← Reader.accept "#" then
        for mark in ["!", "[", "enable", "("] do
          layout
          Reader.expect mark
        let name := do
          let some name ← acceptName | failure
          if String.ofList name ∈ extensions then return name else failure
        let names ← Reader.itemsUntil ")" layout name ((← get).length + 1)
        if names.isEmpty then failure
        layout
        Reader.expect "]"
        attributes fuel

def document : Reader Json := do
  attributes ((← get).length + 1)
  let value ← value greatestDepth
  layout
  return value

def parse (text : List Char) : Option Json :=
  document.all? text

end FeatureCheck.Ron
