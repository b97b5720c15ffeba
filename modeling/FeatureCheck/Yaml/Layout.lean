import FeatureCheck.Yaml.Property

/-!
# YAML layout

How far the collections around a place are indented, and where a key may have started. Nothing
marks a key in front of it: when its colon is met, the tokens that tell of the key are put in where
it started.
-/

namespace FeatureCheck.Yaml

set_option autoImplicit false

structure Indent where
  column : Int
  /-- A block collection starts inside; its end has to be told. -/
  isBlock : Bool

/-- A place where a key may have started. -/
structure KeyStart where
  /-- How many tokens stand before it. -/
  position : Nat := 0
  index : Nat := 0
  line : Nat := 0
  column : Nat := 0
  isPossible : Bool := false
  isRequired : Bool := false

structure Layout where
  cursor : Cursor
  /-- Latest first. -/
  tokens : List Token := []
  /-- How far the collection around the place is indented; -1 outside of all. -/
  indent : Int := -1
  /-- The indentations around that, innermost first. -/
  around : List Indent := []
  flowDepth : Nat := 0
  mayStartKey : Bool := true
  keyStart : KeyStart := {}
  /-- The starts of keys around that, innermost first. -/
  outerKeyStarts : List KeyStart := []
  /-- Where a colon ends a key in brackets without a gap behind it. -/
  adjacentIndex : Nat := 0
  /-- A mapping in brackets has been opened by its bracket or by a question mark. -/
  hasMappingStart : Bool := false
  /-- For each list in brackets, innermost first: it is inside a mapping of one key. -/
  singlePairs : List Bool := []

/-- A step over a layout, or none if the text is at fault. -/
abbrev Scan (α : Type) := StateT Layout Option α

namespace Layout

def inFlow (layout : Layout) : Bool :=
  0 < layout.flowDepth

def next? (layout : Layout) : Option Char :=
  layout.cursor.next?

def withCursor (layout : Layout) (cursor : Cursor) : Layout :=
  { layout with cursor }

def emit (layout : Layout) (token : Token) : Layout :=
  { layout with tokens := token :: layout.tokens }

/-- Puts a token in behind so many others. -/
def insert (layout : Layout) (position : Nat) (token : Token) : Layout :=
  { layout with tokens := layout.tokens.insertIdx (layout.tokens.length - position) token }

/-! ## Indentation -/

/-- Ends the block collections that are indented beyond a column. -/
def leave (layout : Layout) (column : Int) : Layout :=
  if layout.inFlow then layout else go layout layout.around
where
  go (layout : Layout) : List Indent → Layout
    | [] => layout
    | outer :: around =>
        if layout.indent ≤ column then layout
        else
          let ended := { layout with indent := outer.column, around }
          go (if outer.isBlock then ended.emit .blockEnd else ended) around

def settle (layout : Layout) : Layout :=
  go layout layout.around
where
  go (layout : Layout) : List Indent → Layout
    | [] => layout
    | outer :: around =>
        if outer.isBlock then layout else go { layout with indent := outer.column, around } around

/-- Takes back the last indentation if no block collection came of it. -/
def settleOne (layout : Layout) : Layout :=
  match layout.around with
  | ⟨column, false⟩ :: around => { layout with indent := column, around }
  | _ => layout

/-- Starts a block collection at a column, if none stands there; its token goes to a position. -/
def enter (layout : Layout) (column position : Nat) (token : Token) : Layout :=
  if layout.inFlow then layout
  else
    let layout := if layout.indent ≤ column then layout.settleOne else layout
    if layout.indent < column then
      { layout with indent := column, around := ⟨layout.indent, true⟩ :: layout.around }.insert
        position token
    else layout

/-- What follows has to be indented further than the block collection around it. -/
def deepen (layout : Layout) : Layout :=
  if !layout.inFlow && layout.around.head?.any (·.isBlock) then
    { layout with indent := layout.indent + 1, around := ⟨layout.indent, false⟩ :: layout.around }
  else layout

/-! ## Keys -/

def allowKey (layout : Layout) (isAllowed : Bool) : Layout :=
  { layout with mayStartKey := isAllowed }

/-- A key may start here. -/
def markKey (layout : Layout) : Layout :=
  if layout.mayStartKey then
    let cursor := layout.cursor
    let isRequired := !layout.inFlow && layout.indent == cursor.column &&
      layout.around.head?.any (·.isBlock)
    { layout with
      keyStart := {
        position := layout.tokens.length, index := cursor.index, line := cursor.line,
        column := cursor.column, isPossible := true, isRequired } }
  else layout

/-- No key started, which must not have been required. -/
def dropKey? (layout : Layout) : Option Layout :=
  if layout.keyStart.isPossible ∧ layout.keyStart.isRequired then none
  else some { layout with keyStart.isPossible := false }

def longestKey : Nat := 1024

/-- Outside of brackets a key ends on its line and is not too long. -/
def expireKey? (layout : Layout) : Option Layout :=
  let start := layout.keyStart
  let isOver := start.line < layout.cursor.line ∨
    start.index + longestKey < layout.cursor.index
  if !layout.inFlow ∧ start.isPossible ∧ isOver then layout.dropKey? else some layout

/-! ## Brackets -/

def greatestFlowDepth : Nat := 255

def openBracket? (layout : Layout) : Option Layout :=
  if layout.flowDepth = greatestFlowDepth then none
  else some { layout with
    flowDepth := layout.flowDepth + 1
    keyStart := {}
    outerKeyStarts := layout.keyStart :: layout.outerKeyStarts }

def closeBracket (layout : Layout) : Layout :=
  match layout.outerKeyStarts with
  | [] => layout
  | start :: outer =>
      { layout with
        flowDepth := layout.flowDepth - 1, keyStart := start, outerKeyStarts := outer }

def endSinglePair (layout : Layout) : Layout :=
  match layout.singlePairs with
  | true :: outer =>
      { layout with hasMappingStart := false, singlePairs := false :: outer }.emit .mappingEnd
  | _ => layout

end Layout

end FeatureCheck.Yaml
