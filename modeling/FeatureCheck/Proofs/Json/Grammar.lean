import FeatureCheck.Json.Number
import Mathlib.Data.List.Forall2

/-!
# JSON texts

Which texts are JSON, and for which values. `Written` relates a value to a text that begins with it
and to the rest of that text: blanks may stand between any two tokens, each character of a quoted
text may be written as it is or escaped, and a number is any literal of the grammar. `IsText` is
about whole texts.
-/

namespace FeatureCheck.Json

set_option autoImplicit false

inductive Blanks : List Char → List Char → Prop where
  | none {rest : List Char} : Blanks rest rest
  | cons {c : Char} {text rest : List Char} (hblank : c ∈ [' ', '\n', '\t', '\r'])
      (h : Blanks text rest) : Blanks (c :: text) rest

/-! ## Numbers -/

def Digits (digits : List Char) : Prop :=
  digits ≠ [] ∧ ∀ digit ∈ digits, digit.isDigit = true

/-- Digits without a leading zero. -/
def Whole (digits : List Char) : Prop :=
  digits = ['0'] ∨ Digits digits ∧ digits.head? ≠ some '0'

inductive Fraction : List Char → Prop where
  | none : Fraction []
  | digits {digits : List Char} (h : Digits digits) : Fraction ('.' :: digits)

inductive Power : List Char → Prop where
  | none : Power []
  | digits {mark : Char} {sign digits : List Char} (hmark : mark ∈ ['e', 'E'])
      (hsign : sign ∈ [[], ['+'], ['-']]) (h : Digits digits) : Power (mark :: (sign ++ digits))

inductive Magnitude : List Char → Prop where
  | of {whole fraction power : List Char} (hwhole : Whole whole) (hfraction : Fraction fraction)
      (hpower : Power power) : Magnitude (whole ++ (fraction ++ power))

inductive Literal : List Char → Prop where
  | positive {literal : List Char} (h : Magnitude literal) : Literal literal
  | negative {literal : List Char} (h : Magnitude literal) : Literal ('-' :: literal)

/-- The number of a literal; one that is too large is known by its literal only. -/
def numberOf (literal : List Char) : JsonNumber :=
  (readNumber? literal).getD (.other (String.ofList literal))

/-! ## Quoted texts -/

/-- The escapes of one letter, with what they stand for. -/
def shortEscapes : List (Char × Char) := [
  ('"', '"'), ('\\', '\\'), ('/', '/'), ('b', '\x08'), ('f', '\x0c'), ('n', '\n'), ('r', '\r'),
  ('t', '\t')]

/-- The code units of a character in UTF-16. -/
def codeUnits (c : Char) : List Nat :=
  if c.toNat < 0x10000 then [c.toNat]
  else [0xD800 + (c.toNat - 0x10000) / 0x400, 0xDC00 + (c.toNat - 0x10000) % 0x400]

/-- Four hexadecimal digits for a code unit. -/
def IsUnit (digits : List Char) (code : Nat) : Prop :=
  digits.length = 4 ∧ Text.hexNumber? digits = some code

/-- How a character may be written. -/
inductive Spelled : Char → List Char → Prop where
  | plain {c : Char} (hquote : c ≠ '"') (hbackslash : c ≠ '\\') (hcontrol : 0x20 ≤ c.toNat) :
      Spelled c [c]
  | short {mark c : Char} (h : (mark, c) ∈ shortEscapes) : Spelled c ['\\', mark]
  | units {c : Char} {units : List (List Char)} (h : List.Forall₂ IsUnit units (codeUnits c)) :
      Spelled c (units.flatMap fun digits => '\\' :: 'u' :: digits)

/-- What follows the opening quote. -/
inductive Quoted : List Char → List Char → List Char → Prop where
  | close {rest : List Char} : Quoted [] ('"' :: rest) rest
  | cons {c : Char} {chars spelling text rest : List Char} (hc : Spelled c spelling)
      (h : Quoted chars text rest) : Quoted (c :: chars) (spelling ++ text) rest

/-! ## Values -/

/-- The key of a member, with the colon. -/
inductive WrittenKey : String → List Char → List Char → Prop where
  | of {key : String} {text quoted stop colon rest : List Char}
      (hbefore : Blanks text ('"' :: quoted)) (hkey : Quoted key.toList quoted stop)
      (hafter : Blanks stop (':' :: colon)) (hcolon : Blanks colon rest) : WrittenKey key text rest

mutual

inductive Written : Json → List Char → List Char → Prop where
  | null {rest : List Char} : Written .null ('n' :: 'u' :: 'l' :: 'l' :: rest) rest
  | yes {rest : List Char} : Written (.bool true) ('t' :: 'r' :: 'u' :: 'e' :: rest) rest
  | no {rest : List Char} : Written (.bool false) ('f' :: 'a' :: 'l' :: 's' :: 'e' :: rest) rest
  | number {literal rest : List Char} (h : Literal literal) :
      Written (.number (numberOf literal)) (literal ++ rest) rest
  | text {value : String} {text rest : List Char} (h : Quoted value.toList text rest) :
      Written (.text value) ('"' :: text) rest
  | noItems {text rest : List Char} (h : Blanks text (']' :: rest)) :
      Written (.array []) ('[' :: text) rest
  | array {items : List Json} {text rest : List Char} (h : WrittenItems items text rest) :
      Written (.array items) ('[' :: text) rest
  | noMembers {text rest : List Char} (h : Blanks text ('\x7d' :: rest)) :
      Written (.object []) ('\x7b' :: text) rest
  | object {members : List (String × Json)} {text rest : List Char}
      (h : WrittenMembers members text rest) : Written (.object members) ('\x7b' :: text) rest

/-- At least one item, and the end of the array. -/
inductive WrittenItems : List Json → List Char → List Char → Prop where
  | last {item : Json} {text start stop rest : List Char} (hbefore : Blanks text start)
      (hitem : Written item start stop) (hafter : Blanks stop (']' :: rest)) :
      WrittenItems [item] text rest
  | cons {item : Json} {items : List Json} {text start stop more rest : List Char}
      (hbefore : Blanks text start) (hitem : Written item start stop)
      (hafter : Blanks stop (',' :: more)) (hitems : WrittenItems items more rest) :
      WrittenItems (item :: items) text rest

/-- At least one member, and the end of the object. -/
inductive WrittenMembers : List (String × Json) → List Char → List Char → Prop where
  | last {key : String} {value : Json} {text start stop rest : List Char}
      (hkey : WrittenKey key text start) (hvalue : Written value start stop)
      (hafter : Blanks stop ('\x7d' :: rest)) : WrittenMembers [(key, value)] text rest
  | cons {key : String} {value : Json} {members : List (String × Json)}
      {text start stop more rest : List Char} (hkey : WrittenKey key text start)
      (hvalue : Written value start stop) (hafter : Blanks stop (',' :: more))
      (hmembers : WrittenMembers members more rest) :
      WrittenMembers ((key, value) :: members) text rest

end

/-- The text says the value and nothing else. -/
def IsText (value : Json) (text : List Char) : Prop :=
  ∃ start stop, Blanks text start ∧ Written value start stop ∧ Blanks stop []

end FeatureCheck.Json
