import FeatureCheck.Yaml.Node
import FeatureCheck.Yaml.Tokens

/-!
# YAML documents

The node of a document is read off the tokens. An alias stands for the node that its anchor was
last given to. A file of settings holds one document at most.
-/

namespace FeatureCheck.Yaml

set_option autoImplicit false

/-- Tokens that are still to be read, and what names stand for. -/
structure DocumentState where
  tokens : List Token
  /-- What a handle of tags stands for. -/
  handle : Option (String × String) := none
  /-- Names of anchors and the numbers of their nodes, latest first. -/
  anchors : List (String × Nat) := []
  nodes : List (Nat × Node) := []

abbrev DocumentReader (α : Type) := StateT DocumentState Option α

namespace DocumentReader

def peek? : DocumentReader (Option Token) := do
  return (← get).tokens.head?

def skip : DocumentReader Unit :=
  modify fun state => { state with tokens := state.tokens.tail }

def accept (token : Token) : DocumentReader Bool := do
  if (← peek?) = some token then
    skip
    return true
  return false

def expect (token : Token) : DocumentReader Unit := do
  if !(← accept token) then failure

/-! ## Properties -/

/-- Gives a name to a node that starts here, and the node a number. -/
def register (name : String) : DocumentReader Nat := do
  let state ← get
  set { state with anchors := (name, state.anchors.length) :: state.anchors }
  return state.anchors.length

/-- The node that an alias stands for; it is unknown while it is being read. -/
def referenced (name : String) : DocumentReader Node := do
  let state ← get
  let number ← state.anchors.lookup name
  return (state.nodes.lookup number).getD .unknown

/-- Puts what its handle stands for into a tag; a handle between exclamation marks has to stand for
something. -/
def resolve (tag : Tag) : DocumentReader Tag := do
  match (← get).handle.filter fun handle => handle.1 = tag.handle with
  | some (_, text) => return { tag with handle := text }
  | none =>
      if tag.handle = "!!" then return { tag with handle := Node.coreHandle }
      if Property.isClosed tag.handle.toList then failure
      return tag

/-- What stands in front of the content of a node: the number of the node, if it has an anchor, and
its tag. They may stand in either order. -/
def properties : DocumentReader (Option Nat × Option Tag) := do
  match ← peek? with
  | some (.anchor name) =>
      skip
      let number ← register name
      if let some (.tag tag) ← peek? then
        skip
        return (some number, some (← resolve tag))
      return (some number, none)
  | some (.tag tag) =>
      skip
      let tag ← resolve tag
      if let some (.anchor name) ← peek? then
        skip
        return (some (← register name), some tag)
      return (none, some tag)
  | _ => return (none, none)

def isIn (tokens : List Token) : DocumentReader Bool := do
  return (← peek?).any tokens.contains

/-! ## Nodes -/

mutual

/-- The node that comes next. Block collections may be ruled out, and so may lists that are not
indented further than the key in front of them. -/
def node (fuel : Nat) (isBlock mayBeFlush : Bool) : DocumentReader Node :=
  match fuel with
  | 0 => failure
  | fuel + 1 => do
      if let some (.reference name) ← peek? then
        skip
        return ← referenced name
      let (number, tag) ← properties
      let node ← content fuel isBlock mayBeFlush (number.isSome || tag.isSome) tag
      if let some number := number then
        modify fun state => { state with nodes := (number, node) :: state.nodes }
      return node

/-- The content of a node; it may be missing behind properties. -/
def content (fuel : Nat) (isBlock mayBeFlush mayBeMissing : Bool) (tag : Option Tag) :
    DocumentReader Node :=
  match fuel with
  | 0 => failure
  | fuel + 1 => do
      match ← peek? with
      | some (.scalar isPlain text) => skip; return .ofScalar isPlain tag text
      | some .listStart => skip; return .list (← items fuel true)
      | some .mappingStart =>
          skip
          let nodes ← members fuel true
          return ← Node.mapping? nodes
      | some .blockListStart =>
          if isBlock then
            skip
            return .list (← blockItems fuel)
      | some .blockMappingStart =>
          if isBlock then
            skip
            let nodes ← blockMembers fuel
            return ← Node.mapping? nodes
      | some .item => if mayBeFlush then return .list (← flushItems fuel)
      | _ => pure ()
      if mayBeMissing then return .ofScalar true tag "" else failure

def nodeUnless (fuel : Nat) (ends : List Token) (isBlock mayBeFlush : Bool) :
    DocumentReader Node :=
  match fuel with
  | 0 => failure
  | fuel + 1 => do
      if ← isIn ends then return .null
      node fuel isBlock mayBeFlush

def blockItems (fuel : Nat) : DocumentReader (List Node) :=
  match fuel with
  | 0 => failure
  | fuel + 1 => do
      if ← accept .blockEnd then return []
      expect .item
      let first ← nodeUnless fuel [.item, .blockEnd] true false
      return first :: (← blockItems fuel)

def flushItems (fuel : Nat) : DocumentReader (List Node) :=
  match fuel with
  | 0 => failure
  | fuel + 1 => do
      if !(← accept .item) then return []
      let first ← nodeUnless fuel [.item, .key, .value, .blockEnd] true false
      return first :: (← flushItems fuel)

/-- The keys and values of a block mapping up to its end. -/
def blockMembers (fuel : Nat) : DocumentReader (List Node) :=
  match fuel with
  | 0 => failure
  | fuel + 1 => do
      if ← accept .blockEnd then return []
      let key ← if ← accept .key then nodeUnless fuel [.key, .value, .blockEnd] true true
        else if ← isIn [.value] then pure .null
        else failure
      let value ← if ← accept .value then nodeUnless fuel [.key, .value, .blockEnd] true true
        else pure .null
      return key :: value :: (← blockMembers fuel)

def items (fuel : Nat) (isFirst : Bool) : DocumentReader (List Node) :=
  match fuel with
  | 0 => failure
  | fuel + 1 => do
      if ← accept .listEnd then return []
      if !isFirst then
        expect .separator
        if ← accept .listEnd then return []
      let item ← if ← accept .key then singlePair fuel else node fuel false false
      return item :: (← items fuel false)

/-- A mapping of one key in a list. -/
def singlePair (fuel : Nat) : DocumentReader Node :=
  match fuel with
  | 0 => failure
  | fuel + 1 => do
      let key ← if ← isIn [.value, .separator, .listEnd] then
          skip
          pure .null
        else node fuel false false
      let value ← if ← accept .value then nodeUnless fuel [.separator, .listEnd] false false
        else pure .null
      Node.mapping? [key, value]

def members (fuel : Nat) (isFirst : Bool) : DocumentReader (List Node) :=
  match fuel with
  | 0 => failure
  | fuel + 1 => do
      if ← accept .mappingEnd then return []
      if !isFirst then
        expect .separator
        if ← accept .mappingEnd then return []
      if ← accept .key then
        let key ← nodeUnless fuel [.value, .separator, .mappingEnd] false false
        let value ← memberValue fuel
        return key :: value :: (← members fuel false)
      else if ← isIn [.value] then
        let value ← memberValue fuel
        return .null :: value :: (← members fuel false)
      else
        let key ← node fuel false false
        return key :: .null :: (← members fuel false)

/-- The value of a key in brackets; it may be missing. -/
def memberValue (fuel : Nat) : DocumentReader Node :=
  match fuel with
  | 0 => failure
  | fuel + 1 => do
      if ← accept .value then nodeUnless fuel [.separator, .mappingEnd] false false
      else return .null

end

/-! ## Documents -/

/-- Takes the directives in front of a document. Of the handles for tags only that of the last
directive counts. -/
def directives : Nat → Bool → DocumentReader Unit
  | 0, _ => failure
  | fuel + 1, hasVersion => do
      match ← peek? with
      | some .versionDirective =>
          if hasVersion then failure
          skip
          modify fun state => { state with handle := none }
          directives fuel true
      | some (.tagDirective handle text) =>
          skip
          modify fun state => { state with handle := some (handle, text) }
          directives fuel hasVersion
      | _ => return

def dropEnds : DocumentReader Unit :=
  modify fun state => { state with tokens := state.tokens.dropWhile (· = .documentEnd) }

def isDirective : Option Token → Bool
  | some .versionDirective | some (.tagDirective _ _) => true
  | _ => false

/-- The only document, if there is one. Directives have to be followed by the start of the
document. -/
def document (fuel : Nat) : DocumentReader (Option Node) := do
  dropEnds
  let first ← peek?
  if first.isNone then return none
  directives fuel false
  let isExplicit ← accept .documentStart
  if isDirective first ∧ !isExplicit then failure
  let next ← peek?
  let isMissing := isDirective next || [none, some .documentStart, some .documentEnd].contains next
  let node ← if isExplicit && isMissing then pure .null else node fuel true false
  dropEnds
  if (← peek?).isSome then failure
  return some node

end DocumentReader

/-- The node of the only document of a text; none in a text without documents. -/
def document? (text : List Char) : Option (Option Node) := do
  let tokens ← tokens? text
  (DocumentReader.document (4 * tokens.length + 8)).run' { tokens }

/-- The value that a text stands for; one without documents is an empty object. -/
def parse (text : List Char) : Option Json := do
  match ← document? text with
  | none => return .object []
  | some node => node.toJson?

end FeatureCheck.Yaml
