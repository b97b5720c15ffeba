import FeatureCheck.Json.Basic
import FeatureCheck.Text.Numeral
import FeatureCheck.Text.Reader
import FeatureCheck.Text.Space

/-!
# INI documents

Keys and texts, in sections whose names stand in brackets. Keys in front of the first section
belong to the document itself. A comment takes a whole line.
-/

namespace FeatureCheck.Ini

open Text

set_option autoImplicit false

/-- What a backslash and one more character stand for; at the end of a line it stands for
nothing. -/
def escaped : Char → List Char
  | '0' => ['\x00']
  | 'a' => ['\x07']
  | 'b' => ['\x08']
  | 't' => ['\t']
  | 'r' => ['\r']
  | 'n' => ['\n']
  | '\n' => []
  | c => [c]

/-- Reads up to a character that satisfies a test, which stays, with escapes replaced. Where the
text may not end, it has to come. -/
def textUntil (test : Char → Bool) (mayEnd : Bool) : Nat → Reader (List Char)
  | 0 => failure
  | fuel + 1 => do
      match ← Reader.peek? with
      | none => if mayEnd then return [] else failure
      | some c =>
          if test c then return []
          let _ ← Reader.next
          let chars ← if c ≠ '\\' then pure [c] else do
            let mark ← Reader.next
            if mark = 'x' then
              let digits := (← get).take 4
              if digits.length ≠ 4 then failure
              set ((← get).drop 4)
              pure [← scalar? digits]
            else pure (escaped mark)
          return chars ++ (← textUntil test mayEnd fuel)

def textUntilAny (ends : List Char) (mayEnd : Bool) : Reader (List Char) := do
  textUntil (· ∈ ends) mayEnd ((← get).length + 1)

/-- The parts of a value on one line: texts in quotes, and at last the rest of the line. -/
def valueParts (isFirst : Bool) : Nat → Reader (List Char)
  | 0 => failure
  | fuel + 1 => do
      match ← Reader.peek? with
      | none => return []
      | some c =>
          if c = '"' ∨ c = '\'' then
            let _ ← Reader.next
            let text ← textUntilAny [c] false
            let _ ← Reader.next
            return text ++ (← valueParts false fuel)
          let text ← textUntilAny ['\n', '\r'] true
          return if isFirst then trimChars text else dropTail isSpace text

def value : Reader String := do
  let _ ← Reader.takeWhile fun c => isSpace c && c != '\n' && c != '\r'
  return String.ofList (← valueParts true ((← get).length + 1))

/-- A key and its value, with an equals sign or a colon between them. -/
def entry : Reader (String × String) := do
  let key := trimChars (← textUntilAny ['=', ':'] false)
  if key.isEmpty then failure
  let _ ← Reader.next
  return (String.ofList key, ← value)

def sectionName : Reader String := do
  Reader.expect "["
  let name ← textUntilAny [']'] false
  let _ ← Reader.next
  return String.ofList (trimChars name)

structure Document where
  general : List (String × String) := []
  sections : List (String × List (String × String)) := []

/-- Puts an entry in front of those of the document itself. -/
def Document.addEntry (entry : String × String) (document : Document) : Document :=
  { document with general := entry :: document.general }

/-- Puts a name in front of the entries that belong to no section yet. -/
def Document.addSection (name : String) (document : Document) : Document :=
  { sections := (name, document.general) :: document.sections }

/-- The document from here on, where a line starts or goes on. -/
def documentFrom (isLineStart : Bool) : Nat → Reader Document
  | 0 => failure
  | fuel + 1 => do
      let blanks ← Reader.takeWhile isSpace
      let isLineStart := blanks.getLast?.elim isLineStart (· = '\n')
      match ← Reader.peek? with
      | none => return {}
      | some c =>
          if c = ';' ∨ c = '#' then
            if !isLineStart then failure
            let _ ← Reader.takeWhile (· ≠ '\n')
            documentFrom false fuel
          else if c = '[' then
            let name ← sectionName
            return (← documentFrom false fuel).addSection name
          else
            let entry ← entry
            return (← documentFrom false fuel).addEntry entry

def textMembers (entries : List (String × String)) : List (String × Json) :=
  entries.map fun (key, value) => (key, .text value)

def Document.toJson (document : Document) : Json :=
  .object (textMembers document.general ++
    document.sections.map fun (name, entries) => (name, .object (textMembers entries)))

def parse (text : List Char) : Option Json :=
  ((documentFrom true (text.length + 1)).all? text).map Document.toJson

end FeatureCheck.Ini
