import FeatureCheck.Json.Basic
import FeatureCheck.Text.Numeral

/-!
# JSON number literals

A whole number that 64 bits hold is kept as such. Any other number is only bounded: it is read as a
significand of 64 bits times a power of ten, and refused if that is no finite double.
-/

namespace FeatureCheck.Json

open Text (digitsValue)

set_option autoImplicit false

/-- Bounds of the whole numbers that are kept as such. -/
def leastWhole : Int := -9223372036854775808

def greatestWhole : Int := 18446744073709551615

/-- The least positive rational that rounds past the greatest finite double. -/
def overflowBound : Nat := Nat.pow 2 1024 - Nat.pow 2 970

/-- A whole number rounded to the 53 leading bits that a double holds, a tie to the even one. -/
def roundDouble (value : Nat) : Nat :=
  let unit := Nat.pow 2 (value.log2 - 52)
  let floor := value / unit
  let rest := value % unit
  let isUp := unit < 2 * rest ∨ unit = 2 * rest ∧ floor % 2 = 1
  (if isUp then floor + 1 else floor) * unit

/-- The parts of a literal; the exponent is zero if there is none. -/
structure NumberParts where
  negative : Bool
  whole : List Char
  fraction : List Char
  exponent : Int
  plain : Bool

namespace NumberParts

def ofLiteral (literal : List Char) : NumberParts :=
  let negative := literal.head? = some '-'
  let body := if negative then literal.drop 1 else literal
  let whole := body.takeWhile Char.isDigit
  let rest := body.dropWhile Char.isDigit
  let fraction := if rest.head? = some '.' then (rest.drop 1).takeWhile Char.isDigit else []
  let tail := if rest.head? = some '.' then (rest.drop 1).dropWhile Char.isDigit else rest
  let power := tail.drop 1
  let magnitude : Int := digitsValue (power.filter Char.isDigit)
  { negative, whole, fraction
    exponent := if power.head? = some '-' then -magnitude else magnitude
    plain := rest.isEmpty }

/-- The digits that a word of 64 bits holds behind those read before, and how many do not fit. -/
def leading (significand : Nat) : List Char → Nat × Nat
  | [] => (significand, 0)
  | digit :: digits =>
      let next := significand * 10 + digitsValue [digit]
      if (next : Int) ≤ greatestWhole then leading next digits
      else (significand, digits.length + 1)

/-- The significand as a word, and the power of ten that it is scaled by. Whole digits that do not
fit count as zeros, and further ones of the fraction do not count. -/
def scaled (parts : NumberParts) : Nat × Int :=
  let (whole, surplus) := leading 0 parts.whole
  let (significand, dropped) := leading whole parts.fraction
  (significand, parts.exponent + surplus - (parts.fraction.length - dropped : Nat))

/-- The product of the rounded significand and the rounded power of ten is no finite double. -/
def overflows (parts : NumberParts) : Bool :=
  let (significand, exponent) := parts.scaled
  if exponent < 0 ∨ significand = 0 then false
  else
    308 < exponent ∨
      overflowBound ≤ roundDouble significand * roundDouble (Nat.pow 10 exponent.toNat)

/-- The magnitude, rounded once, is no finite double. -/
def exceeds (parts : NumberParts) : Bool :=
  let digits := parts.whole ++ parts.fraction
  let significand := digitsValue digits
  let scale : Int := parts.exponent - parts.fraction.length
  if significand = 0 then false
  else if 0 ≤ scale then 308 < scale ∨ overflowBound ≤ significand * Nat.pow 10 scale.toNat
  else
    (-scale).toNat < digits.length ∧ overflowBound * Nat.pow 10 (-scale).toNat ≤ significand

end NumberParts

/-- Reads a well-formed literal, if its magnitude is bounded. -/
def readNumber? (literal : List Char) : Option JsonNumber :=
  let parts := NumberParts.ofLiteral literal
  let magnitude : Int := digitsValue parts.whole
  let value := if parts.negative then -magnitude else magnitude
  if parts.plain ∧ leastWhole ≤ value ∧ value ≤ greatestWhole ∧
      ¬(parts.negative ∧ value = 0) then
    some (.whole value)
  else if parts.overflows then none
  else some (.other (String.ofList literal))

end FeatureCheck.Json
