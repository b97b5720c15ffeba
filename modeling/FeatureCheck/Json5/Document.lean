import FeatureCheck.Json.Basic
import FeatureCheck.Json.Number
import FeatureCheck.Text.Letter
import FeatureCheck.Text.Numeral
import FeatureCheck.Text.Reader
import FeatureCheck.Text.Space

/-!
# JSON5 documents

JSON as people write it: with comments, names as keys, single quotes, a comma behind the last item,
and numbers in base sixteen.
-/

namespace FeatureCheck.Json5

open Text

set_option autoImplicit false

/-! ## Layout -/

def isLineEnd (c : Char) : Bool :=
  c ∈ ['\n', '\r', '\u2028', '\u2029']

def isBlank (c : Char) : Bool :=
  isSpace c && c != '\u0085' || c == '\ufeff'

/-- The text behind the end of a block comment. -/
def dropBlockComment : List Char → Option (List Char)
  | [] => none
  | '*' :: '/' :: rest => some rest
  | _ :: rest => dropBlockComment rest

/-- Passes over blanks and comments. -/
def layoutUpTo : Nat → Reader Unit
  | 0 => failure
  | fuel + 1 => do
      let _ ← Reader.takeWhile isBlank
      if ← Reader.accept "//" then
        let _ ← Reader.takeWhile fun c => !isLineEnd c
        layoutUpTo fuel
      else if ← Reader.accept "/*" then
        set (← dropBlockComment (← get))
        layoutUpTo fuel

def layout : Reader Unit := do
  layoutUpTo ((← get).length + 1)

/-! ## Texts -/

def hexDigits (count : Nat) : Reader Nat := do
  let digits := (← get).take count
  if digits.length ≠ count then failure
  set ((← get).drop count)
  return ← hexNumber? digits

/-- The character of a code unit of four digits, or of two that make a pair. -/
def codeUnits : Reader Char := do
  let unit ← hexDigits 4
  if 0xD800 ≤ unit ∧ unit < 0xDC00 then
    Reader.expect "\\u"
    let low ← hexDigits 4
    if low < 0xDC00 ∨ 0xE000 ≤ low then failure
    return Char.ofNat (0x10000 + (unit - 0xD800) * 0x400 + (low - 0xDC00))
  if 0xDC00 ≤ unit ∧ unit < 0xE000 then failure
  return Char.ofNat unit

def escaped? : Char → Option Char
  | '0' => some '\x00'
  | 'b' => some '\x08'
  | 'f' => some '\x0c'
  | 'n' => some '\n'
  | 'r' => some '\r'
  | 't' => some '\t'
  | 'v' => some '\x0b'
  | c => if c.isDigit then none else some c

/-- What stands behind a backslash; the end of a line stands for nothing. -/
def escape : Reader (List Char) := do
  let c ← Reader.next
  if c = 'x' then return [Char.ofNat (← hexDigits 2)]
  if c = 'u' then return [← codeUnits]
  if isLineEnd c then
    if c = '\r' then
      let _ ← Reader.accept "\n"
    return []
  return [← escaped? c]

def quotedUpTo (quote : Char) : Nat → Reader (List Char)
  | 0 => failure
  | fuel + 1 => do
      let c ← Reader.next
      if c = quote then return []
      if c = '\n' ∨ c = '\r' then failure
      let chars ← if c = '\\' then escape else pure [c]
      return chars ++ (← quotedUpTo quote fuel)

def quoted? : Reader (Option String) := do
  let isQuoted ← Reader.peek?
  if isQuoted = some '"' ∨ isQuoted = some '\'' then
    let quote ← Reader.next
    return some (String.ofList (← quotedUpTo quote ((← get).length + 1)))
  return none

def isNameStart (c : Char) : Bool :=
  isLetter c || c == '$' || c == '_'

def isNamePart (c : Char) : Bool :=
  isNameStart c || isAlphanumeric c || c ∈ ['\u200c', '\u200d', '\u203f', '\u2040']

/-- The characters of a name, some of which may be written as escapes. -/
def nameUpTo (isFirst : Bool) : Nat → Reader (List Char)
  | 0 => failure
  | fuel + 1 => do
      if ← Reader.accept "\\u" then
        let c ← codeUnits
        return c :: (← nameUpTo false fuel)
      match ← Reader.peek? with
      | some c =>
          if if isFirst then isNameStart c else isNamePart c then
            let _ ← Reader.next
            return c :: (← nameUpTo false fuel)
          return []
      | none => return []

def key : Reader String := do
  match ← quoted? with
  | some text => return text
  | none =>
      let name ← nameUpTo true ((← get).length + 1)
      if name.isEmpty then failure
      return String.ofList name

/-! ## Numbers -/

def sign : Reader (List Char) := do
  if ← Reader.accept "-" then return ['-']
  if ← Reader.accept "+" then return ['+']
  return []

def power : Reader (List Char) := do
  match ← get with
  | mark :: rest =>
      let digits := (unsigned rest).takeWhile Char.isDigit
      if (mark = 'e' ∨ mark = 'E') ∧ !digits.isEmpty then
        set ((unsigned rest).drop digits.length)
        return 'e' :: rest.takeWhile (fun c => c = '-') ++ digits
      return []
  | [] => return []

def wholeDigits : Reader (List Char) := do
  if ← Reader.accept "0" then return ['0']
  Reader.takeWhile Char.isDigit

/-- A decimal number: a whole one is kept if it fits in 64 bits with its sign, and any other has to
be finite. -/
def decimal (sign : List Char) : Reader JsonNumber := do
  let whole ← wholeDigits
  let hasPoint ← Reader.accept "."
  let tenths ← if hasPoint then Reader.takeWhile Char.isDigit else pure []
  if whole.isEmpty ∧ tenths.isEmpty then failure
  let exponent ← power
  if !hasPoint ∧ exponent.isEmpty then
    return .whole (← bounded? (signedBy sign (digitsValue whole)))
  let minus := sign.filter (· = '-')
  let literal := minus ++ (if whole.isEmpty then ['0'] else whole) ++
    (if tenths.isEmpty then [] else '.' :: tenths) ++ exponent
  if (Json.NumberParts.ofLiteral literal).exceeds then failure
  return .other (String.ofList literal)

/-- A number in base sixteen has no sign, and fits in 32 bits. -/
def hexadecimal : Reader JsonNumber := do
  let digits ← Reader.takeWhile fun c => (hexValue? c).isSome
  let value ← hexNumber? digits
  if digits.isEmpty ∨ 0x100000000 ≤ value then failure
  return .whole value

def number : Reader JsonNumber := do
  let sign ← sign
  if (← Reader.accept "0x") || (← Reader.accept "0X") then
    if sign.isEmpty then return ← hexadecimal else failure
  for word in ["Infinity", "NaN"] do
    if ← Reader.accept word then
      if sign = ['+'] then failure
      return .other (String.ofList sign ++ word)
  decimal sign

/-! ## Values -/

def word? : Reader (Option Json) := do
  if ← Reader.accept "null" then return some .null
  if ← Reader.accept "true" then return some (.bool true)
  if ← Reader.accept "false" then return some (.bool false)
  return (← quoted?).map .text

def value : Nat → Reader Json
  | 0 => failure
  | fuel + 1 => do
      layout
      if ← Reader.accept "[" then
        return .array (← Reader.itemsUntil "]" layout (value fuel) (fuel + 1))
      if ← Reader.accept "\x7b" then
        let member := do
          let name ← key
          layout
          Reader.expect ":"
          return (name, ← value fuel)
        return .object (← Reader.itemsUntil "\x7d" layout member (fuel + 1))
      match ← word? with
      | some value => return value
      | none => return .number (← number)

def parse (text : List Char) : Option Json :=
  (do let value ← value (text.length + 1); layout; return value : Reader Json).all? text

end FeatureCheck.Json5
