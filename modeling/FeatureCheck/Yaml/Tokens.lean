import FeatureCheck.Yaml.Block
import FeatureCheck.Yaml.Layout
import FeatureCheck.Yaml.Property
import FeatureCheck.Yaml.Scalar

/-!
# The tokens of a YAML text

Each step takes one token, with what the layout makes of it: block collections that start or end
here, and keys that are only known by what follows them.
-/

namespace FeatureCheck.Yaml

set_option autoImplicit false

namespace Scan

def refuse {α : Type} : Scan α :=
  failure

/-- The text is at fault unless this holds. -/
def require (holds : Bool) : Scan Unit := do
  if !holds then failure

def cursor : Scan Cursor := do
  return (← get).cursor

def moveTo (cursor : Cursor) : Scan Unit :=
  modify (·.withCursor cursor)

/-- Passes over what a reader of the text takes, and gives what it reads. -/
def reading {α : Type} (read? : Cursor → Option (α × Cursor)) : Scan α := do
  let (value, after) ← read? (← cursor)
  moveTo after
  return value

def emit (token : Token) : Scan Unit :=
  modify (·.emit token)

def allowKey (isAllowed : Bool) : Scan Unit :=
  modify (·.allowKey isAllowed)

def dropKey : Scan Unit := do
  set (← (← get).dropKey?)

def takeMark : Scan Unit := do
  moveTo ((← cursor).take 1)

def dropTrailing : Scan Unit := do
  moveTo (← (← cursor).dropTrailing?)

def dropIdle : Scan Unit := do
  let layout ← get
  let (isNewLine, after) ←
    layout.cursor.dropIdle? layout.indent (layout.cursor.text.length + 1) false
  moveTo after
  if isNewLine ∧ !layout.inFlow then allowKey true

/-! ## Documents -/

def leaveAll : Scan Unit := do
  modify (·.leave (-1))
  dropKey
  allowKey false

def endOfText : Scan Unit :=
  leaveAll

def directive : Scan Unit := do
  leaveAll
  emit (← reading Property.directive?)

def documentStart : Scan Unit := do
  leaveAll
  moveTo ((← cursor).take 3)
  emit .documentStart

/-- Nothing but a comment may follow the end of a document on its line. -/
def documentEnd : Scan Unit := do
  leaveAll
  moveTo ((← cursor).take 3)
  emit .documentEnd
  dropTrailing
  require (isLineEnd (← cursor).next?)

/-! ## Brackets -/

def openBracket (token : Token) : Scan Unit := do
  modify fun layout => layout.markKey.deepen
  set (← (← get).openBracket?)
  allowKey true
  takeMark
  if token = .mappingStart then modify fun layout => { layout with hasMappingStart := true }
  else modify fun layout => { layout with singlePairs := false :: layout.singlePairs }
  dropTrailing
  emit token

def closeBracket (token : Token) : Scan Unit := do
  dropKey
  modify (·.closeBracket)
  allowKey false
  if token = .listEnd then
    modify fun layout =>
      let layout := layout.endSinglePair
      { layout with singlePairs := layout.singlePairs.tail }
  takeMark
  dropTrailing
  modify fun layout =>
    if layout.inFlow then { layout with adjacentIndex := layout.cursor.index } else layout
  emit token

def separator : Scan Unit := do
  dropKey
  allowKey true
  modify (·.endSinglePair)
  takeMark
  dropTrailing
  emit .separator

/-! ## Items, keys and values -/

/-- A tab must not stand between two dashes. -/
def hasTabbedDash (before after : Cursor) : Bool :=
  (before.text.takeWhile isBlank).contains '\t' &&
    after.next? == some '-' && isGap after.second?

def item : Scan Unit := do
  let layout ← get
  require (!layout.inFlow && layout.mayStartKey)
  let column := layout.cursor.column
  takeMark
  modify fun layout => layout.enter column layout.tokens.length .blockListStart
  let before ← cursor
  dropTrailing
  let after ← cursor
  require (!hasTabbedDash before after)
  if after.next?.any fun c => isBreak c || isFlowMark c then modify (·.deepen)
  dropKey
  allowKey true
  emit .item

/-- Passes over blanks, line breaks and comments behind a question mark. -/
def dropLayout : Nat → Scan Unit
  | 0 => refuse
  | fuel + 1 => do
      let place ← cursor
      match place.next? with
      | some ' ' => moveTo (place.pass 1); dropLayout fuel
      | some '#' => moveTo place.dropLine; dropLayout fuel
      | next =>
          if next.any isBreak then
            moveTo place.newLine
            modify fun layout => if layout.inFlow then layout else layout.allowKey true
            dropLayout fuel

def markedKey : Scan Unit := do
  let layout ← get
  let column := layout.cursor.column
  if layout.inFlow then modify fun layout => { layout with hasMappingStart := true }
  else
    require layout.mayStartKey
    modify fun layout => layout.enter column layout.tokens.length .blockMappingStart
  dropKey
  allowKey !layout.inFlow
  takeMark
  let before ← cursor
  dropLayout (before.text.length + 1)
  let after ← cursor
  require (before.index != after.index && after.next? != some '\t')
  emit .key

/-- A value may stand behind tabs, but not directly if it starts like a word. -/
def dropTabs : Scan Unit := do
  let before ← cursor
  if before.next? = some '\t' then
    dropTrailing
    let after ← cursor
    let isSetOff := (before.text.takeWhile isBlank).contains ' '
    require (isSetOff || !after.next?.any isWordChar)

/-- A value in a list in brackets makes a mapping of one key, unless that has been started. -/
def startsSinglePair (layout : Layout) : Bool :=
  !layout.singlePairs.isEmpty && !layout.hasMappingStart

def value : Scan Unit := do
  let layout ← get
  let place := layout.cursor
  let start := layout.keyStart
  let isSinglePair := startsSinglePair layout
  if isSinglePair then
    modify fun layout => { layout with singlePairs := true :: layout.singlePairs.tail }
  takeMark
  dropTabs
  if start.isPossible then
    modify (·.insert start.position .key)
    if isSinglePair then
      require (place.line ≤ start.line)
      modify (·.insert start.position .mappingStart)
    modify fun layout =>
      ({ layout with keyStart.isPossible := false }.enter start.column start.position
        .blockMappingStart).deepen
    allowKey false
  else
    if isSinglePair then emit .mappingStart
    if !layout.inFlow then
      require layout.mayStartKey
      modify fun layout => layout.enter place.column layout.tokens.length .blockMappingStart
    modify (·.deepen)
    allowKey !layout.inFlow
  emit .value

/-! ## Properties and scalars -/

/-- Takes a token that may start a key. -/
def keyed (read? : Cursor → Option (Token × Cursor)) : Scan Unit := do
  modify fun layout => layout.markKey.allowKey false
  emit (← reading read?)

def anchor : Scan Unit :=
  keyed fun cursor => (Property.name? cursor).map fun (name, after) => (.anchor name, after)

def reference : Scan Unit :=
  keyed fun cursor => (Property.name? cursor).map fun (name, after) => (.reference name, after)

def tag : Scan Unit := do
  let inFlow := (← get).inFlow
  keyed fun cursor => (Property.tag? inFlow cursor).map fun (tag, after) => (.tag tag, after)

def blockScalar (style : Block.Style) : Scan Unit := do
  modify fun layout => (layout.markKey.allowKey true).settle
  let text ← reading (Block.read? style (← get).indent)
  emit (.scalar false (String.ofList text))

def quotedScalar (style : Quoted.Style) : Scan Unit := do
  let layout ← get
  modify fun layout => layout.markKey.allowKey false
  let text ← reading (Quoted.read? style layout.inFlow layout.indent)
  dropIdle
  modify fun layout => { layout with adjacentIndex := layout.cursor.index }
  emit (.scalar false (String.ofList text))

def plainScalar : Scan Unit := do
  modify fun layout => (layout.markKey.allowKey false).settle
  let layout ← get
  let margin := layout.indent + 1
  require (!layout.inFlow || margin ≤ layout.cursor.column)
  let text ← reading (Plain.read? layout.inFlow margin)
  if (← cursor).inMargin then allowKey true
  emit (.scalar true (String.ofList text))

/-! ## All tokens -/

/-- A colon ends a key before a gap; in brackets also before a bracket or a comma, or behind a quoted
or bracketed key. -/
def isValueMark (layout : Layout) : Bool :=
  let next := layout.cursor.second?
  isGap next || layout.inFlow &&
    (next.any isFlowMark || layout.cursor.index == layout.adjacentIndex)

def token (c : Char) : Scan Unit := do
  let layout ← get
  let isAlone := isGap layout.cursor.second?
  match c with
  | '[' => openBracket .listStart
  | '\x7b' => openBracket .mappingStart
  | ']' => closeBracket .listEnd
  | '\x7d' => closeBracket .mappingEnd
  | ',' => separator
  | '*' => reference
  | '&' => anchor
  | '!' => tag
  | '\'' => quotedScalar .single
  | '"' => quotedScalar .double
  | '%' | '@' | '\x60' => refuse
  | '-' => if isAlone then item else plainScalar
  | '?' => if isAlone then markedKey else plainScalar
  | ':' => if isValueMark layout then value else plainScalar
  | '|' => if layout.inFlow then plainScalar else blockScalar .literal
  | '>' => if layout.inFlow then plainScalar else blockScalar .folded
  | _ => plainScalar

def next : Scan Bool := do
  dropIdle
  set (← (← get).expireKey?)
  modify fun layout => layout.leave layout.cursor.column
  let layout ← get
  let cursor := layout.cursor
  match cursor.next? with
  | none => endOfText; return false
  | some c =>
      if cursor.column = 0 ∧ c = '%' then directive
      else if cursor.isAtMarker '-' then documentStart
      else if cursor.isAtMarker '.' then documentEnd
      else
        require (layout.indent ≤ cursor.column)
        token c
      return true

def all : Nat → Scan Unit
  | 0 => refuse
  | fuel + 1 => do
      if ← next then all fuel

end Scan

/-- The tokens of a text, if there is no fault in it. A null character ends the text. -/
def tokens? (text : List Char) : Option (List Token) := do
  let text := text.takeWhile (· != '\x00')
  let (_, layout) ← (Scan.all (text.length + 2)).run { cursor := { text } }
  return layout.tokens.reverse

end FeatureCheck.Yaml
