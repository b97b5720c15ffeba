import FeatureCheck.Json.Basic

/-!
# Printing JSON

A value is printed on one line, or spread over lines with two blanks for each level. Texts keep
every character except the quote, the backslash and the control characters, which are escaped.
-/

namespace FeatureCheck.Json

set_option autoImplicit false

def hexDigit (value : Nat) : Char :=
  if value < 10 then Char.ofNat (0x30 + value) else Char.ofNat (0x57 + value)

def escape (c : Char) : List Char :=
  if c = '"' then ['\\', '"']
  else if c = '\\' then ['\\', '\\']
  else if c = '\x08' then ['\\', 'b']
  else if c = '\x0c' then ['\\', 'f']
  else if c = '\n' then ['\\', 'n']
  else if c = '\r' then ['\\', 'r']
  else if c = '\t' then ['\\', 't']
  else if c.toNat < 0x20 then
    ['\\', 'u', '0', '0', hexDigit (c.toNat / 16), hexDigit (c.toNat % 16)]
  else [c]

def quote (text : String) : List Char :=
  '"' :: (text.toList.flatMap escape ++ ['"'])

def printNumber : JsonNumber → List Char
  | .whole value => (toString value).toList
  | .other literal => literal.toList

/-- `none` prints on one line, `some depth` on lines at that depth. -/
abbrev Layout := Option Nat

namespace Layout

def deeper (layout : Layout) : Layout :=
  layout.map (· + 1)

def newline : Layout → List Char
  | none => []
  | some depth => '\n' :: List.replicate (2 * depth) ' '

def colon : Layout → List Char
  | none => [':']
  | some _ => [':', ' ']

end Layout

mutual

def print (layout : Layout) : Json → List Char
  | .null => ['n', 'u', 'l', 'l']
  | .bool true => ['t', 'r', 'u', 'e']
  | .bool false => ['f', 'a', 'l', 's', 'e']
  | .number value => printNumber value
  | .text value => quote value
  | .array [] => ['[', ']']
  | .array (item :: items) =>
      '[' :: (layout.deeper.newline ++ print layout.deeper item ++
        printItems layout.deeper items ++ layout.newline ++ [']'])
  | .object [] => ['\x7b', '\x7d']
  | .object ((key, value) :: members) =>
      '\x7b' :: (layout.deeper.newline ++ quote key ++ layout.deeper.colon ++
        print layout.deeper value ++ printMembers layout.deeper members ++ layout.newline ++
        ['\x7d'])

/-- The items after the first, each behind a comma. -/
def printItems (layout : Layout) : List Json → List Char
  | [] => []
  | item :: items => ',' :: (layout.newline ++ print layout item ++ printItems layout items)

def printMembers (layout : Layout) : List (String × Json) → List Char
  | [] => []
  | (key, value) :: members =>
      ',' :: (layout.newline ++ quote key ++ layout.colon ++ print layout value ++
        printMembers layout members)

end

def compact (value : Json) : String :=
  String.ofList (print none value)

def pretty (value : Json) : String :=
  String.ofList (print (some 0) value)

end FeatureCheck.Json
