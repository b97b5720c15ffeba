/-!
# Dates and times of lines

Times count seconds from the start of 1970, in UTC, by the Gregorian calendar.
-/

namespace FeatureCheck.Stamp

set_option autoImplicit false

structure Day where
  year : Nat
  month : Nat
  day : Nat
  deriving DecidableEq, Repr

/-- Days from the first of March of the year zero to the start of 1970. -/
def daysToEpoch : Nat := 719468

/-- The day so many days after the start of 1970. Years begin in March here, so that the day that
is sometimes missing is the last one, and four hundred of them have 146097 days. -/
def dayOf (days : Nat) : Day :=
  let days := days + daysToEpoch
  let century := days % 146097
  let year := (century - century / 1460 + century / 36524 - century / 146096) / 365
  let dayOfYear := century - (365 * year + year / 4 - year / 100)
  let month := (5 * dayOfYear + 2) / 153
  let fullYear := year + days / 146097 * 400
  ⟨if month < 10 then fullYear else fullYear + 1,
    if month < 10 then month + 3 else month - 9,
    dayOfYear - (153 * month + 2) / 5 + 1⟩

example : dayOf 0 = ⟨1970, 1, 1⟩ ∧ dayOf 11016 = ⟨2000, 2, 29⟩ ∧ dayOf 20088 = ⟨2024, 12, 31⟩ := by
  decide

def padded (value : Nat) : String :=
  if value < 10 then "0" ++ toString value else toString value

def date (seconds : Nat) : String :=
  let day := dayOf (seconds / 86400)
  toString day.year ++ "-" ++ padded day.month ++ "-" ++ padded day.day

def time (seconds : Nat) : String :=
  date seconds ++ "T" ++ padded (seconds / 3600 % 24) ++ ":" ++ padded (seconds / 60 % 60) ++ ":" ++
    padded (seconds % 60) ++ "Z"

end FeatureCheck.Stamp
