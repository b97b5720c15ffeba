/-!
# Numbers in texts

Digits and their values, and which plain texts are numbers when nothing but the text says so.
-/

namespace FeatureCheck.Text

set_option autoImplicit false

/-- The value of digits in a base, the first of which counts most. -/
def valueInBase (base : Nat) (digits : List Nat) : Nat :=
  digits.foldl (fun value digit => value * base + digit) 0

def digitsValue (digits : List Char) : Nat :=
  valueInBase 10 (digits.map fun digit => digit.toNat - 0x30)

def hexValue? (c : Char) : Option Nat :=
  if '0' ≤ c ∧ c ≤ '9' then some (c.toNat - 0x30)
  else if 'a' ≤ c ∧ c ≤ 'f' then some (c.toNat - 0x57)
  else if 'A' ≤ c ∧ c ≤ 'F' then some (c.toNat - 0x37)
  else none

def hexNumber? (digits : List Char) : Option Nat := do
  return valueInBase 16 (← digits.mapM hexValue?)

/-- The character whose number the digits give in hexadecimal. -/
def scalar? (digits : List Char) : Option Char := do
  let value ← hexNumber? digits
  if value < 0xD800 ∨ 0xE000 ≤ value ∧ value < 0x110000 then some (Char.ofNat value) else none

def signedBy (text : List Char) (magnitude : Nat) : Int :=
  if text.head? = some '-' then -magnitude else magnitude

/-- The least and the greatest whole number that 64 bits hold with a sign. -/
def leastSigned : Int := -9223372036854775808

def greatestSigned : Int := 9223372036854775807

/-- A whole number, if it fits in 64 bits with its sign. -/
def bounded? (value : Int) : Option Int :=
  if leastSigned ≤ value ∧ value ≤ greatestSigned then some value else none

/-- The text behind a sign, if there is one. -/
def unsigned : List Char → List Char
  | '+' :: rest | '-' :: rest => rest
  | text => text

def wholeNumber? (text : List Char) : Option Int :=
  let digits := unsigned text
  if digits.isEmpty || !digits.all Char.isDigit then none
  else bounded? (signedBy text (digitsValue digits))

/-- A decimal fraction, perhaps with a power of ten; one side of the point may be bare. -/
def isDecimal (text : List Char) : Bool :=
  let whole := text.takeWhile Char.isDigit
  let rest := text.dropWhile Char.isDigit
  let hasPoint := rest.head? = some '.'
  let fraction := if hasPoint then (rest.drop 1).takeWhile Char.isDigit else []
  let tail := if hasPoint then (rest.drop 1).dropWhile Char.isDigit else rest
  let isPower := match tail with
    | [] => true
    | mark :: power =>
        let digits := unsigned power
        (mark = 'e' || mark = 'E') && !digits.isEmpty && digits.all Char.isDigit
  !(whole.isEmpty && fraction.isEmpty) && isPower

/-- A decimal fraction, an infinity, or none of the numbers, with a sign or without. -/
def isNumeral (text : List Char) : Bool :=
  let word := String.ofList ((unsigned text).map Char.toLower)
  isDecimal (unsigned text) || word ∈ ["inf", "infinity", "nan"]

end FeatureCheck.Text
