import FeatureCheck.Text.Ascii
import FeatureCheck.Text.Numeral

/-!
# Levels of events

A threshold lets the events of its level and of the graver ones pass; without a level none pass.
-/

namespace FeatureCheck

set_option autoImplicit false

inductive Level where
  | error
  | warn
  | info
  | debug
  | trace
  deriving DecidableEq, Repr

namespace Level

def all : List Level := [.error, .warn, .info, .debug, .trace]

/-- The gravest level has the least rank. -/
def rank : Level → Nat
  | .error => 1
  | .warn => 2
  | .info => 3
  | .debug => 4
  | .trace => 5

def word : Level → String
  | .error => "error"
  | .warn => "warn"
  | .info => "info"
  | .debug => "debug"
  | .trace => "trace"

def label : Level → String
  | .error => "ERROR"
  | .warn => "WARN"
  | .info => "INFO"
  | .debug => "DEBUG"
  | .trace => "TRACE"

/-- The level that so many requests for more output stand for. -/
def ofVerbosity : Nat → Level
  | 0 => .warn
  | 1 => .info
  | 2 => .debug
  | _ => .trace

end Level

/-- The least grave level that passes; `none` lets nothing pass. -/
abbrev Threshold := Option Level

namespace Threshold

def allows (threshold : Threshold) (level : Level) : Bool :=
  threshold.any fun least => level.rank ≤ least.rank

def ofRank? (rank : Nat) : Option Threshold :=
  if rank = 0 then some none
  else (Level.all.find? fun level => level.rank = rank).map some

def ofWord? (word : String) : Option Threshold :=
  if Text.equalsIgnoringCase word "off" then some none
  else (Level.all.find? fun level => Text.equalsIgnoringCase word level.word).map some

def ofText? (text : String) : Option Threshold :=
  let digits := (['+'].isPrefixOf? text.toList).getD text.toList
  if !digits.isEmpty && digits.all Char.isDigit then ofRank? (Text.digitsValue digits)
  else ofWord? text

end Threshold

end FeatureCheck
