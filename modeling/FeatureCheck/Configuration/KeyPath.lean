import FeatureCheck.Text.Numeral
import FeatureCheck.Text.Reader

/-!
# Key paths

A key may lead into tables and lists: `resolver.request_delay_seconds`, `sources[0]`. A key that is
not written in this way is taken as it is.
-/

namespace FeatureCheck

set_option autoImplicit false

inductive KeyStep where
  | name (key : String)
  /-- A place in a list, counted from its end if negative. -/
  | place (index : Int)
  deriving DecidableEq, Repr

abbrev KeyPath := List KeyStep

namespace KeyPath

open Text

def isNamePart (c : Char) : Bool :=
  c.isAlphanum || c == '_' || c == '-'

def name : Reader KeyStep := do
  let key ← Reader.takeWhile isNamePart
  if key.isEmpty then failure
  return .name (String.ofList key)

def blanks : Reader Unit := do
  let _ ← Reader.takeWhile fun c => c = ' ' ∨ c = '\t'

def place : Reader KeyStep := do
  blanks
  let isNegative ← Reader.accept "-"
  let digits ← Reader.takeWhile Char.isDigit
  if digits.isEmpty then failure
  blanks
  Reader.expect "]"
  match bounded? (if isNegative then -digitsValue digits else digitsValue digits) with
  | some index => return .place index
  | none => failure

/-- The steps behind the first, `fuel` at most. -/
def steps : Nat → Reader KeyPath
  | 0 => failure
  | fuel + 1 => do
      if ← Reader.ended then return []
      let step ← if ← Reader.accept "." then name
        else do
          Reader.expect "["
          place
      return step :: (← steps fuel)

def read (fuel : Nat) : Reader KeyPath := do
  return (← name) :: (← steps fuel)

def ofKey (key : String) : KeyPath :=
  ((read (key.length + 1)).all? key.toList).getD [.name key]

end KeyPath

end FeatureCheck
