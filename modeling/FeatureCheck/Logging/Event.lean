import FeatureCheck.Json.Printer
import FeatureCheck.Logging.Level

/-!
# Events and their lines

An event is written as one line of text or of JSON. The console leaves the target out.
-/

namespace FeatureCheck

set_option autoImplicit false

structure LogEvent where
  time : String
  level : Level
  target : String
  message : String
  deriving DecidableEq, Repr

namespace LogEvent

/-- A lower case hexadecimal number. -/
def hexadecimal (value : Nat) : List Char :=
  Nat.toDigits 16 value

/-- A character of a message; those that could control a terminal are spelled out. -/
def shown (c : Char) : List Char :=
  if c.toNat ∈ [0x07, 0x08, 0x0c, 0x1b, 0x7f] then
    let digits := hexadecimal c.toNat
    '\\' :: 'x' :: (if digits.length = 1 then '0' :: digits else digits)
  else if 0x80 ≤ c.toNat ∧ c.toNat ≤ 0x9f then
    '\\' :: 'u' :: '\x7b' :: hexadecimal c.toNat ++ ['\x7d']
  else [c]

def column (level : Level) : String :=
  (String.ofList (List.replicate (5 - level.label.length) ' ')) ++ level.label

def textLine (event : LogEvent) (showsTarget : Bool) : String :=
  event.time ++ " " ++ column event.level ++ " " ++
    (if showsTarget then event.target ++ ": " else "") ++
    String.ofList (event.message.toList.flatMap shown)

def jsonLine (event : LogEvent) (showsTarget : Bool) : String :=
  (Json.object ([("timestamp", .text event.time), ("level", .text event.level.label),
    ("fields", .object [("message", .text event.message)])] ++
    if showsTarget then [("target", .text event.target)] else [])).compact

def line (event : LogEvent) (asJson showsTarget : Bool) : String :=
  if asJson then event.jsonLine showsTarget else event.textLine showsTarget

end LogEvent

end FeatureCheck
