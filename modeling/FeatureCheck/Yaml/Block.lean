import FeatureCheck.Yaml.Cursor

/-!
# YAML block scalars

A block scalar holds the indented lines behind the one with its mark. Literal ones keep their line
breaks; in folded ones a break between two lines that are not indented further counts as a blank.
-/

namespace FeatureCheck.Yaml.Block

set_option autoImplicit false

inductive Style where
  | literal
  | folded
  deriving DecidableEq

/-- Which of the last line breaks are kept: none, the first, or all. -/
inductive Chomping where
  | strip
  | clip
  | keep
  deriving DecidableEq

structure Header where
  chomping : Chomping := .clip
  /-- How much further than what is around it the scalar is indented; zero if it does not say. -/
  increment : Nat := 0

def chomping? : Option Char → Option Chomping
  | some '+' => some .keep
  | some '-' => some .strip
  | _ => none

/-- The digit in front, which must not be zero; zero if there is no digit. -/
def increment? (next : Option Char) : Option Nat :=
  match next.filter Char.isDigit with
  | none => some 0
  | some '0' => none
  | some digit => some (digit.toNat - '0'.toNat)

/-- What stands behind the mark of a block scalar, in either order. -/
def header? (cursor : Cursor) : Option (Header × Cursor) := do
  match chomping? cursor.next? with
  | some chomping =>
      let increment ← increment? cursor.second?
      return ({ chomping, increment }, cursor.take (if increment = 0 then 1 else 2))
  | none =>
      let increment ← increment? cursor.next?
      if increment = 0 then return ({}, cursor)
      match chomping? cursor.second? with
      | some chomping => return ({ chomping, increment }, cursor.take 2)
      | none => return ({ increment }, cursor.take 1)

/-- Passes over empty lines, and over blanks up to a column; counts the lines. -/
def dropIndent (indent : Nat) : Nat → Nat → Cursor → Nat × Cursor
  | 0, breaks, cursor => (breaks, cursor)
  | fuel + 1, breaks, cursor =>
      let blanks := (cursor.text.takeWhile (· = ' ')).length
      let cursor := cursor.pass (min blanks (indent - cursor.column))
      if cursor.next?.any isBreak then dropIndent indent fuel (breaks + 1) cursor.newLine
      else (breaks, cursor)

/-- Passes over empty lines and the blanks of the first other line; counts the lines, and gives the
greatest column met. -/
def dropFirstIndent : Nat → Nat → Nat → Cursor → Nat × Nat × Cursor
  | 0, widest, breaks, cursor => (widest, breaks, cursor)
  | fuel + 1, widest, breaks, cursor =>
      let cursor := cursor.pass (cursor.text.takeWhile (· = ' ')).length
      let widest := max widest cursor.column
      if cursor.next?.any isBreak then dropFirstIndent fuel widest (breaks + 1) cursor.newLine
      else (widest, breaks, cursor)

structure Reading where
  /-- The characters, latest first. -/
  done : List Char := []
  /-- A line has ended behind them. -/
  hasBreak : Bool := false
  /-- How many empty lines stand behind that. -/
  emptyLines : Nat
  /-- The last line starts with a blank. -/
  wasIndented : Bool := false

def newLines (count : Nat) : List Char :=
  List.replicate count '\n'

/-- The line breaks behind what has been read. -/
def Reading.breaks (reading : Reading) : List Char :=
  newLines (reading.hasBreak.toNat + reading.emptyLines)

/-- The further lines of a scalar that is indented up to a column. -/
def lines (style : Style) (indent : Nat) : Nat → Reading → Cursor → Reading × Cursor
  | 0, reading, cursor => (reading, cursor)
  | fuel + 1, reading, cursor =>
      if cursor.column ≠ indent ∨ cursor.text.isEmpty ∨ indent = 0 ∧ cursor.isAtMarker '.' then
        (reading, cursor)
      else
        let isIndented := cursor.next?.any isBlank
        let folds := style = .folded ∧ reading.hasBreak ∧ !reading.wasIndented ∧ !isIndented
        let breaks :=
          if !folds then reading.breaks
          else if reading.emptyLines = 0 then [' '] else newLines reading.emptyLines
        let line := cursor.text.takeWhile fun c => !isBreak c
        let done := line.reverse ++ breaks ++ reading.done
        let cursor := cursor.pass line.length
        if cursor.text.isEmpty then ({ done, emptyLines := 0, wasIndented := isIndented }, cursor)
        else
          let (emptyLines, cursor) := dropIndent indent (cursor.text.length + 1) 0 cursor.newLine
          lines style indent fuel
            { done, hasBreak := true, emptyLines, wasIndented := isIndented } cursor

/-- What a scalar without lines holds if its header is followed by so many empty lines. -/
def emptyText (chomping : Chomping) (hasBreak : Bool) (emptyLines : Nat) : List Char :=
  if chomping = .strip ∨ !hasBreak then []
  else if chomping = .clip then newLines 1
  else newLines (max emptyLines 1)

def Reading.text (reading : Reading) (chomping : Chomping) (indent : Nat) (cursor : Cursor) :
    List Char :=
  let isCutOff := cursor.text.isEmpty ∧ max indent 1 ≤ cursor.column
  let ending := match chomping with
    | .strip => []
    | .clip => newLines (reading.hasBreak.toNat + (decide isCutOff).toNat)
    | .keep => newLines (reading.hasBreak.toNat + (decide isCutOff).toNat + reading.emptyLines)
  reading.done.reverse ++ ending

/-- The text of the block scalar whose mark stands here; `margin` is the indentation of what is
around it. -/
def read? (style : Style) (margin : Int) (cursor : Cursor) : Option (List Char × Cursor) := do
  let (header, behind) ← header? (cursor.take 1)
  let behind ← behind.dropTrailing?
  if !isLineEnd behind.next? then none
  let start := if behind.text.isEmpty then behind else behind.newLine
  if start.next? = some '\t' then none
  let fuel := start.text.length + 1
  let (indent, emptyLines, first) :=
    if header.increment = 0 then
      let (widest, emptyLines, first) := dropFirstIndent fuel 0 0 start
      (max (max widest (margin + 1).toNat) (if 0 < margin then 1 else 0), emptyLines, first)
    else
      let indent := (max margin 0).toNat + header.increment
      (indent, dropIndent indent fuel 0 start)
  if first.text.isEmpty then
    return (emptyText header.chomping (cursor.line < first.line) emptyLines, first)
  if first.column < indent ∧ margin < first.column then none
  let (reading, last) := lines style indent fuel { emptyLines } first
  return (reading.text header.chomping indent last, last)

end FeatureCheck.Yaml.Block
