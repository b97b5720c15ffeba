/-!
# YAML cursors

Classes of characters, where the end of the text counts as a gap. A cursor is a place in a text, with
what is left of the text. It knows its line and column, and whether anything but blanks stands before
it on its line.
-/

namespace FeatureCheck.Yaml

set_option autoImplicit false

def isBreak (c : Char) : Bool :=
  c == '\n' || c == '\r'

def isBlank (c : Char) : Bool :=
  c == ' ' || c == '\t'

def isLineEnd (next : Option Char) : Bool :=
  next.all isBreak

def isGap (next : Option Char) : Bool :=
  next.all fun c => isBlank c || isBreak c

/-- Brackets and commas of lists and mappings in brackets. -/
def isFlowMark (c : Char) : Bool :=
  c ∈ [',', '[', ']', '\x7b', '\x7d']

def isWordChar (c : Char) : Bool :=
  c.isAlphanum || c == '_' || c == '-'

def isAnchorChar (c : Char) : Bool :=
  !isBlank c && !isBreak c && !isFlowMark c && c != '\ufeff'

def isUriChar (c : Char) : Bool :=
  c.isAlphanum || c ∈ "-#;/?:@&=+$,_.!~*'()[]%".toList

def isTagChar (c : Char) : Bool :=
  isUriChar c && !isFlowMark c && c != '!'

/-! ## Cursors -/

structure Cursor where
  text : List Char
  index : Nat := 0
  line : Nat := 0
  column : Nat := 0
  /-- No token has been met on this line. -/
  inMargin : Bool := true

namespace Cursor

def next? (cursor : Cursor) : Option Char :=
  cursor.text.head?

def second? (cursor : Cursor) : Option Char :=
  cursor.text.tail.head?

def pass (cursor : Cursor) (count : Nat) : Cursor :=
  { cursor with
    text := cursor.text.drop count
    index := cursor.index + count
    column := cursor.column + count }

def take (cursor : Cursor) (count : Nat) : Cursor :=
  { cursor.pass count with inMargin := false }

/-- Passes over a line break, which may be two characters. -/
def newLine (cursor : Cursor) : Cursor :=
  let size := if cursor.next? = some '\r' ∧ cursor.second? = some '\n' then 2 else 1
  { cursor.pass size with line := cursor.line + 1, column := 0, inMargin := true }

def dropLine (cursor : Cursor) : Cursor :=
  cursor.take (cursor.text.takeWhile fun c => !isBreak c).length

def dropBlanks (cursor : Cursor) : Cursor :=
  cursor.pass (cursor.text.takeWhile isBlank).length

def takeWhile (cursor : Cursor) (test : Char → Bool) : List Char × Cursor :=
  let front := cursor.text.takeWhile test
  (front, cursor.take front.length)

/-- Passes over blanks and a comment, which has to be set off by a blank. -/
def dropTrailing? (cursor : Cursor) : Option Cursor :=
  let after := cursor.dropBlanks
  if after.next? = some '#' then
    if after.index = cursor.index then none else some after.dropLine
  else some after

/-- Three equal characters at the start of a line that stand alone. -/
def isAtMarker (cursor : Cursor) (c : Char) : Bool :=
  cursor.column == 0 && cursor.text.take 3 == [c, c, c] && isGap (cursor.text.drop 3).head?

def isAtDocumentMarker (cursor : Cursor) : Bool :=
  cursor.isAtMarker '-' || cursor.isAtMarker '.'

/-- Passes over blanks, line breaks and comments, and says whether a line ended among them. A tab
left of the margin may stand on an otherwise idle line only. -/
def dropIdle? (margin : Int) : Nat → Bool → Cursor → Option (Bool × Cursor)
  | 0, _, _ => none
  | fuel + 1, isNewLine, cursor =>
      match cursor.next? with
      | none => some (isNewLine, cursor)
      | some c =>
          if isBreak c then dropIdle? margin fuel true cursor.newLine
          else if c = '#' then dropIdle? margin fuel isNewLine cursor.dropLine
          else if c = '\t' ∧ cursor.inMargin ∧ cursor.column < margin then do
            let after ← cursor.dropTrailing?
            if isLineEnd after.next? then dropIdle? margin fuel isNewLine after else none
          else if isBlank c then dropIdle? margin fuel isNewLine (cursor.pass 1)
          else some (isNewLine, cursor)

end Cursor

/-! ## Gaps within scalars -/

/-- Blanks and line breaks between the words of a scalar. The blanks count only on one line. -/
structure Gap where
  blanks : List Char := []
  breaks : Nat := 0

namespace Gap

/-- What a gap counts as: a single break is a blank, and of several the first does not count. -/
def text (gap : Gap) : List Char :=
  match gap.breaks with
  | 0 => gap.blanks
  | 1 => [' ']
  | breaks + 1 => List.replicate breaks '\n'

/-- The further breaks of a gap. -/
def furtherBreaks (gap : Gap) : List Char :=
  List.replicate (gap.breaks - 1) '\n'

/-- Takes a gap; `tab?` passes over a tab left of the margin, if it may stand there. The end of a
line with a comment does not count. -/
def read? (tab? : Cursor → Option Cursor) (margin : Int) :
    Nat → Gap → Cursor → Option (Gap × Cursor)
  | 0, _, _ => none
  | fuel + 1, gap, cursor =>
      match cursor.next? with
      | none => some (gap, cursor)
      | some c =>
          if isBreak c then
            let isFurther := gap.breaks = 0 ∨ cursor.inMargin
            let breaks := if isFurther then gap.breaks + 1 else gap.breaks
            read? tab? margin fuel { gap with breaks } cursor.newLine
          else if !isBlank c then some (gap, cursor)
          else if gap.breaks = 0 then
            read? tab? margin fuel { gap with blanks := gap.blanks ++ [c] } (cursor.pass 1)
          else if c = '\t' ∧ cursor.column < margin then do
            read? tab? margin fuel gap (← tab? cursor)
          else read? tab? margin fuel gap (cursor.pass 1)

end Gap

end FeatureCheck.Yaml
