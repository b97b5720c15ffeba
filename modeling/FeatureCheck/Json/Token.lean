import FeatureCheck.Json.Number
import FeatureCheck.Text.Utf8

/-!
# JSON tokens

A text is cut into tokens, the last of which may be faulty. What is wrong with a number or a quoted
text depends on its use: where a value is passed over, numbers of any size, lone surrogates and
ill-formed bytes are let through, and a number that the text breaks off in is malformed rather
than short. A leaf therefore keeps both readings.
-/

namespace FeatureCheck.Json

set_option autoImplicit false

inductive Fault where
  | endOfText
  | malformed
  /-- The text is JSON of another kind. -/
  | unexpected
  deriving DecidableEq, Repr

/-- A number or a quoted text. -/
structure Lexeme (α : Type) where
  value : Except Fault α
  /-- Why it cannot even be passed over. -/
  blocked : Option Fault

inductive Leaf where
  | null
  | bool (value : Bool)
  | number (lexeme : Lexeme JsonNumber)
  | text (lexeme : Lexeme String)
  | broken (fault : Fault)

/-- Why a leaf cannot be passed over. -/
def Leaf.blocked : Leaf → Option Fault
  | .null | .bool _ => none
  | .number lexeme => lexeme.blocked
  | .text lexeme => lexeme.blocked
  | .broken fault => some fault

inductive Token where
  | arrayStart
  | arrayEnd
  | objectStart
  | objectEnd
  | comma
  | colon
  | leaf (leaf : Leaf)
  /-- A character that starts no token. -/
  | stray

inductive NumberPlace where
  | sign
  | zero
  | whole
  | point
  | fraction
  | mark
  | markSign
  | exponent
  deriving DecidableEq

namespace NumberPlace

def isComplete : NumberPlace → Bool
  | .zero | .whole | .fraction | .exponent => true
  | _ => false

/-- The character belongs to no number, or to the place that it leads to. -/
def next? (place : NumberPlace) (c : Char) : Option NumberPlace :=
  match place with
  | .sign => if c = '0' then some .zero else if c.isDigit then some .whole else none
  | .zero => afterWhole
  | .whole => if c.isDigit then some .whole else afterWhole
  | .point => if c.isDigit then some .fraction else none
  | .fraction => if c.isDigit then some .fraction else afterFraction
  | .mark =>
      if c = '+' ∨ c = '-' then some .markSign else if c.isDigit then some .exponent else none
  | .markSign => if c.isDigit then some .exponent else none
  | .exponent => if c.isDigit then some .exponent else none
where
  afterFraction : Option NumberPlace := if c = 'e' ∨ c = 'E' then some .mark else none
  afterWhole : Option NumberPlace := if c = '.' then some .point else afterFraction

end NumberPlace

/-- What the next character of a quoted text is. -/
inductive TextPlace where
  | plain
  | escape
  /-- The digits of a code unit so far, latest first. -/
  | unit (digits : List Text.Glyph)

/-- What has been read of a quoted text. -/
structure TextReading where
  /-- The characters, latest first. -/
  chars : Except Fault (List Char)
  hasIllFormed : Bool
  /-- A high surrogate that waits for the low one. -/
  high : Option Nat
  place : TextPlace

inductive LexState where
  | between
  | word (rest : List Char) (leaf : Leaf)
  | number (place : NumberPlace) (literal : List Char)
  | text (reading : TextReading)
  | stopped

namespace TextReading

def start : TextReading :=
  ⟨.ok [], false, none, .plain⟩

/-- Notes a fault, unless there is an earlier one. -/
def fail (reading : TextReading) (fault : Fault) : TextReading :=
  { reading with
    chars := reading.chars.bind fun _ => .error fault
    high := none }

def push (reading : TextReading) (c : Char) : TextReading :=
  { reading with chars := reading.chars.map (c :: ·), place := .plain }

/-- A high surrogate is followed by something else than a code unit. -/
def dropHigh (reading : TextReading) : TextReading :=
  if reading.high.isSome then reading.fail .malformed else reading

/-- Takes a code unit; surrogates count in pairs only. -/
def pushUnit (reading : TextReading) (code : Nat) : TextReading :=
  let reading := { reading with place := TextPlace.plain }
  let isLow := 0xDC00 ≤ code ∧ code ≤ 0xDFFF
  match reading.high with
  | some high =>
      if isLow then
        { reading with high := none }.push
          (Char.ofNat (0x10000 + (high - 0xD800) * 0x400 + (code - 0xDC00)))
      else reading.fail .malformed
  | none =>
      if isLow then reading.fail .malformed
      else if 0xD800 ≤ code ∧ code ≤ 0xDBFF then { reading with high := some code }
      else reading.push (Char.ofNat code)

/-- The token of a text in which reading stops. -/
def broken (reading : TextReading) (fault : Fault) : Token :=
  .leaf (.text ⟨(reading.fail fault).chars.map fun _ => "", some fault⟩)

def close (reading : TextReading) : Token :=
  let reading := reading.dropHigh
  let reading := if reading.hasIllFormed then reading.fail .malformed else reading
  .leaf (.text ⟨reading.chars.map fun chars => String.ofList chars.reverse, none⟩)

def escaped? (c : Char) : Option Char :=
  match c with
  | '"' => some '"'
  | '\\' => some '\\'
  | '/' => some '/'
  | 'b' => some '\x08'
  | 'f' => some '\x0c'
  | 'n' => some '\n'
  | 'r' => some '\r'
  | 't' => some '\t'
  | _ => none

def stepPlain (reading : TextReading) (glyph : Text.Glyph) : List Token × LexState :=
  match glyph with
  | some '"' => ([reading.close], .between)
  | some '\\' => ([], .text { reading with place := .escape })
  | some c =>
      if c.toNat < 0x20 then ([reading.dropHigh.broken .malformed], .stopped)
      else ([], .text (reading.dropHigh.push c))
  | none => ([], .text { reading.dropHigh with hasIllFormed := true })

def stepEscape (reading : TextReading) (glyph : Text.Glyph) : List Token × LexState :=
  match glyph with
  | some 'u' => ([], .text { reading with place := .unit [] })
  | some c =>
      match escaped? c with
      | some plain => ([], .text (reading.dropHigh.push plain))
      | none => ([reading.dropHigh.broken .malformed], .stopped)
  | none => ([reading.dropHigh.broken .malformed], .stopped)

/-- Four bytes are taken for a code unit before they are looked at. -/
def stepUnit (reading : TextReading) (digits : List Text.Glyph) (glyph : Text.Glyph) :
    List Token × LexState :=
  let digits := glyph :: digits
  if digits.foldl (fun size glyph => size + glyph.size) 0 < 4 then
    ([], .text { reading with place := .unit digits })
  else
    match digits.reverse.mapM fun digit => digit.bind Text.hexValue? with
    | some values =>
        ([], .text (reading.pushUnit (Text.valueInBase 16 values)))
    | none => ([reading.broken .malformed], .stopped)

def step (reading : TextReading) (glyph : Text.Glyph) : List Token × LexState :=
  match reading.place with
  | .plain => reading.stepPlain glyph
  | .escape => reading.stepEscape glyph
  | .unit digits => reading.stepUnit digits glyph

end TextReading

namespace LexState

/-- The token of a complete number; the literal is given latest first. -/
def numberToken (literal : List Char) : Token :=
  .leaf (.number ⟨(readNumber? literal.reverse).elim (.error .malformed) .ok, none⟩)

def start (glyph : Text.Glyph) : List Token × LexState :=
  match glyph with
  | some c =>
      if c = ' ' ∨ c = '\n' ∨ c = '\t' ∨ c = '\r' then ([], .between)
      else if c = '[' then ([.arrayStart], .between)
      else if c = ']' then ([.arrayEnd], .between)
      else if c = '\x7b' then ([.objectStart], .between)
      else if c = '\x7d' then ([.objectEnd], .between)
      else if c = ',' then ([.comma], .between)
      else if c = ':' then ([.colon], .between)
      else if c = '"' then ([], .text .start)
      else if c = 'n' then ([], .word ['u', 'l', 'l'] .null)
      else if c = 't' then ([], .word ['r', 'u', 'e'] (.bool true))
      else if c = 'f' then ([], .word ['a', 'l', 's', 'e'] (.bool false))
      else if c = '-' then ([], .number .sign ['-'])
      else if c = '0' then ([], .number .zero ['0'])
      else if c.isDigit then ([], .number .whole [c])
      else ([.stray], .stopped)
  | none => ([.stray], .stopped)

/-- Reads a glyph that does not belong to the number before it. -/
def leaveNumber (place : NumberPlace) (literal : List Char) (glyph : Text.Glyph) :
    List Token × LexState :=
  if place.isComplete && !(place = .zero && glyph.any Char.isDigit) then
    let (out, next) := start glyph
    (numberToken literal :: out, next)
  else ([.leaf (.number ⟨.error .malformed, some .malformed⟩)], .stopped)

def step : LexState → Text.Glyph → List Token × LexState
  | .between, glyph => start glyph
  | .word [] _, _ => ([], .stopped)
  | .word [last] leaf, glyph =>
      if glyph = some last then ([.leaf leaf], .between)
      else ([.leaf (.broken .malformed)], .stopped)
  | .word (c :: rest) leaf, glyph =>
      if glyph = some c then ([], .word rest leaf)
      else ([.leaf (.broken .malformed)], .stopped)
  | .number place literal, glyph =>
      match glyph.bind place.next? with
      | some next => ([], .number next (glyph.toList ++ literal))
      | none => leaveNumber place literal glyph
  | .text reading, glyph => reading.step glyph
  | .stopped, _ => ([], .stopped)

def finish : LexState → List Token
  | .between | .stopped => []
  | .word .. => [.leaf (.broken .endOfText)]
  | .number place literal =>
      if place.isComplete then [numberToken literal]
      else [.leaf (.number ⟨.error .endOfText, some .malformed⟩)]
  | .text reading => [reading.broken .endOfText]

end LexState

def lexer : Text.Transducer LexState Text.Glyph Token :=
  ⟨LexState.step, LexState.finish⟩

def tokens (glyphs : List Text.Glyph) : List Token :=
  lexer.run .between glyphs

end FeatureCheck.Json
