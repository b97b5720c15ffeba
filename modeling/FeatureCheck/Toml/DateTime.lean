import FeatureCheck.Text.Numeral
import FeatureCheck.Text.Reader

/-!
# TOML dates and times

A date, a time, or both, perhaps with an offset. The text of one is canonical: a `T` between
date and time, an upper case `Z`, no zeros at the end of a fraction, and no negative zero as the
offset.
-/

namespace FeatureCheck.Toml

open Text

set_option autoImplicit false

def daysIn (year month : Nat) : Nat :=
  if month = 2 then
    if year % 4 = 0 ∧ (year % 100 ≠ 0 ∨ year % 400 = 0) then 29 else 28
  else if month = 4 ∨ month = 6 ∨ month = 9 ∨ month = 11 then 30
  else 31

def digits (count low high : Nat) : Reader (List Char) := do
  let text := (← get).take count
  if text.length = count ∧ text.all Char.isDigit ∧ low ≤ digitsValue text ∧ digitsValue text ≤ high then
    set ((← get).drop count)
    return text
  failure

def date : Reader (List Char) := do
  let year ← digits 4 0 9999
  Reader.expect "-"
  let month ← digits 2 1 12
  Reader.expect "-"
  let day ← digits 2 1 (daysIn (digitsValue year) (digitsValue month))
  return year ++ '-' :: month ++ '-' :: day

/-- The fraction of a second to the nanosecond; one digit at least is kept. -/
def fraction : Reader (List Char) := do
  if ← Reader.accept "." then
    let text ← Reader.takeWhile Char.isDigit
    if text.isEmpty then failure
    let kept := ((text.take 9).reverse.dropWhile (· = '0')).reverse
    return '.' :: (if kept.isEmpty then ['0'] else kept)
  return []

def time : Reader (List Char) := do
  let hour ← digits 2 0 23
  Reader.expect ":"
  let minute ← digits 2 0 59
  let start := hour ++ ':' :: minute
  if ← Reader.accept ":" then
    let second ← digits 2 0 60
    return start ++ ':' :: second ++ (← fraction)
  return start

def offset : Reader (List Char) := do
  match ← Reader.peek? with
  | none => return []
  | some sign =>
      let _ ← Reader.next
      if sign = 'Z' ∨ sign = 'z' then return ['Z']
      if sign ≠ '+' ∧ sign ≠ '-' then failure
      let hour ← digits 2 0 23
      Reader.expect ":"
      let minute ← digits 2 0 59
      let isZero := digitsValue (hour ++ minute) = 0
      return (if isZero then '+' else sign) :: hour ++ ':' :: minute

def dateTime : Reader (List Char) := do
  let day ← date
  if ← Reader.ended then return day
  let mark ← Reader.next
  if mark ≠ 'T' ∧ mark ≠ 't' ∧ mark ≠ ' ' then failure
  let clock ← time
  return day ++ 'T' :: clock ++ (← offset)

def canonicalDate? (text : List Char) : Option (List Char) :=
  Reader.all? dateTime text <|> Reader.all? time text

end FeatureCheck.Toml
