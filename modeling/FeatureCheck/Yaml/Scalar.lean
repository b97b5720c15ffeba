import FeatureCheck.Text.Numeral
import FeatureCheck.Yaml.Cursor

/-!
# Plain and quoted YAML scalars

A plain scalar ends before a comment, a colon that a gap follows, a marker of a document, or a line
that stands left of it; in brackets also before a bracket or a comma.

In single quotes only the quote itself is special and is written twice; in double quotes a
backslash starts an escape. A quoted scalar may go on over lines that do not stand left of it.
-/

namespace FeatureCheck.Yaml

set_option autoImplicit false

namespace Plain

def wordLength (inFlow : Bool) : List Char → Nat
  | [] => 0
  | c :: rest =>
      let endsHere := isGap (some c) || inFlow && isFlowMark c ||
        c = ':' && (isGap rest.head? || inFlow && rest.head?.any isFlowMark)
      if endsHere then 0 else wordLength inFlow rest + 1

/-- A tab may stand left of the scalar on an otherwise idle line. -/
def tab? (cursor : Cursor) : Option Cursor :=
  cursor.dropTrailing?.filter fun after => isLineEnd after.next?

/-- The words from here on behind those read before, latest first. -/
def words? (inFlow : Bool) (margin : Int) : Nat → List Char → Cursor →
    Option (List Char × Cursor)
  | 0, _, _ => none
  | fuel + 1, done, cursor =>
      if cursor.isAtDocumentMarker || cursor.next? = some '#' then some (done, cursor)
      else if inFlow && cursor.next? = some '-' && cursor.second?.any isFlowMark then none
      else do
        let length := wordLength inFlow cursor.text
        let done := (cursor.text.take length).reverse ++ done
        let cursor := if length = 0 then cursor else cursor.take length
        if cursor.next?.isNone || !isGap cursor.next? then return (done, cursor)
        let (gap, after) ← Gap.read? tab? margin (cursor.text.length + 1) {} cursor
        if !inFlow && after.column < margin then return (done, after)
        match ← words? inFlow margin fuel [] after with
        | ([], last) => return (done, last)
        | (more, last) => return (more ++ (gap.text.reverse ++ done), last)

def read? (inFlow : Bool) (margin : Int) (cursor : Cursor) : Option (List Char × Cursor) := do
  let (text, after) ← words? inFlow margin (cursor.text.length + 1) [] cursor
  if text.isEmpty then none else return (text.reverse, after)

end Plain

namespace Quoted

inductive Style where
  | single
  | double
  deriving DecidableEq

def Style.quote : Style → Char
  | .single => '\''
  | .double => '"'

def escaped? : Char → Option Char
  | '0' => some '\x00'
  | 'a' => some '\x07'
  | 'b' => some '\x08'
  | 't' | '\t' => some '\t'
  | 'n' => some '\n'
  | 'v' => some '\x0b'
  | 'f' => some '\x0c'
  | 'r' => some '\r'
  | 'e' => some '\x1b'
  | ' ' => some ' '
  | '"' => some '"'
  | '/' => some '/'
  | '\\' => some '\\'
  | 'N' => some '\u0085'
  | '_' => some '\u00a0'
  | 'L' => some '\u2028'
  | 'P' => some '\u2029'
  | _ => none

def digitCount? : Char → Option Nat
  | 'x' => some 2
  | 'u' => some 4
  | 'U' => some 8
  | _ => none

/-- What an escape behind its backslash stands for, and how long it is. -/
def escape? : List Char → Option (Char × Nat)
  | [] => none
  | c :: rest =>
      match digitCount? c with
      | none => (escaped? c).map fun c => (c, 1)
      | some count =>
          if (rest.take count).length = count then
            (Text.scalar? (rest.take count)).map fun c => (c, count + 1)
          else none

/-- The word in front, latest character first, and whether an escaped line break ends it. -/
def word? (style : Style) : Nat → List Char → Cursor → Option (List Char × Bool × Cursor)
  | 0, _, _ => none
  | fuel + 1, done, cursor =>
      match cursor.text with
      | [] => some (done, false, cursor)
      | c :: rest =>
          if isGap (some c) then some (done, false, cursor)
          else if c = style.quote then
            if style = .single ∧ rest.head? = some '\'' then
              word? style fuel (c :: done) (cursor.take 2)
            else some (done, false, cursor)
          else if style = .double ∧ c = '\\' then
            if rest.head?.any isBreak then some (done, true, (cursor.take 1).newLine)
            else do
              let (c, length) ← escape? rest
              word? style fuel (c :: done) (cursor.take (length + 1))
          else word? style fuel (c :: done) (cursor.take 1)

def words? (style : Style) (margin : Int) : Nat → List Char → Cursor →
    Option (List Char × Cursor)
  | 0, _, _ => none
  | fuel + 1, done, cursor =>
      if cursor.isAtDocumentMarker || cursor.text.isEmpty || cursor.column < margin then none
      else do
        let (done, isJoined, cursor) ← word? style (cursor.text.length + 1) done cursor
        if cursor.next? = some style.quote then return (done.reverse, cursor.take 1)
        let start : Gap := if isJoined then { breaks := 1 } else {}
        let (gap, after) ←
          Gap.read? (fun _ => none) margin (cursor.text.length + 1) start cursor
        let text := if isJoined then gap.furtherBreaks else gap.text
        words? style margin fuel (text.reverse ++ done) after

/-- What may stand behind a quoted scalar. -/
def mayFollow (inFlow : Bool) (isOneLine : Bool) (next : Option Char) : Bool :=
  isLineEnd next || next.any fun c =>
    if c = ':' then inFlow || isOneLine else inFlow && c ∈ [',', ']', '\x7d']

def read? (style : Style) (inFlow : Bool) (margin : Int) (cursor : Cursor) :
    Option (List Char × Cursor) := do
  let (text, after) ← words? style margin (cursor.text.length + 1) [] (cursor.take 1)
  let after ← after.dropTrailing?
  if mayFollow inFlow (after.line = cursor.line) after.next? then return (text, after) else none

end Quoted

end FeatureCheck.Yaml
