import FeatureCheck.Logging.Level
import FeatureCheck.Text.Letter
import FeatureCheck.Text.Space

/-!
# Directives and filters

A directive sets a threshold: `TARGET=LEVEL`, or one of the two alone. In brackets behind the target
it may name a span that an event has to be in, and in braces a field that the event has to have,
perhaps with a value: `TARGET[SPAN{FIELD=VALUE}]=LEVEL`.

A filter is a list of directives with commas between them: `warn,resolver=debug`. A directive sets
the threshold of all targets that begin with its own; of several the most specific counts, and of
equal ones the last. An event that no directive is about does not pass. Events stand in no span.
-/

namespace FeatureCheck

set_option autoImplicit false

structure FieldTest where
  name : String
  value : Option String
  deriving DecidableEq, Repr

/-- The value stands behind the first equals sign, and ends at the next. -/
def FieldTest.ofText (text : List Char) : FieldTest :=
  let parts := (text.splitOn '=').map String.ofList
  ⟨parts.head?.getD "", parts[1]?⟩

structure Directive where
  /-- The beginning of the targets it is about; it is empty if it is about all of them. -/
  target : String := ""
  span : Option String := none
  field : Option FieldTest := none
  threshold : Threshold := some .trace
  deriving DecidableEq, Repr

inductive DirectiveError where
  | malformed
  | unknownLevel
  deriving DecidableEq, Repr

def DirectiveError.message : DirectiveError → String
  | .malformed => "invalid filter directive"
  | .unknownLevel =>
      "error parsing level filter: expected one of \"off\", \"error\", \"warn\", \"info\", " ++
        "\"debug\", \"trace\", or a number 0-5"

namespace Directive

def isTargetStart (c : Char) : Bool :=
  Text.isAlphanumeric c || c == '-' || c == ':' || c == '_'

/-- What the next character of a directive belongs to; the number is where that starts. -/
inductive Place where
  | start
  | head
  | span (start : Nat)
  | field (start : Nat)
  /-- Behind the fields of a span. -/
  | fieldEnd
  /-- Behind a span. -/
  | spanEnd
  | level (start : Nat)

/-- The characters of a text between two offsets, which count octets. -/
def slice (start stop : Nat) (text : List Char) : List Char :=
  go 0 text
where
  go (offset : Nat) : List Char → List Char
    | [] => []
    | c :: rest =>
        let more := go (offset + c.utf8Size) rest
        if start ≤ offset ∧ offset < stop then c :: more else more

def step (text : List Char) (offset : Nat) (c : Char) :
    Place × Directive → Option (Place × Directive)
  | (.start, directive) =>
      if c = '[' then some (.span (offset + 1), directive)
      else if isTargetStart c then some (.head, directive)
      else none
  | (.head, directive) =>
      let target := String.ofList (slice 0 offset text)
      if c = '=' then some (.level (offset + 1), { directive with target })
      else if c = '[' then some (.span (offset + 1), { directive with target })
      else some (.head, directive)
  | (.span start, directive) =>
      let name := slice start offset text
      if c = ']' then some (.spanEnd, { directive with span := some (String.ofList name) })
      else if c = '\x7b' then
        let span := if name.isEmpty then none else some (String.ofList name)
        some (.field (offset + 1), { directive with span })
      else some (.span start, directive)
  | (.field start, directive) =>
      let field := slice start offset text
      if c = '\x7d' then
        if field.isEmpty then none
        else some (.fieldEnd, { directive with field := some (.ofText field) })
      else some (.field start, directive)
  | (.fieldEnd, directive) => if c = ']' then some (.spanEnd, directive) else none
  | (.spanEnd, directive) => if c = '=' then some (.level (offset + 1), directive) else none
  | (.level start, directive) => some (.level start, directive)

def run (text : List Char) (offset : Nat) (state : Place × Directive) :
    List Char → Option (Place × Directive)
  | [] => some state
  | c :: rest => do run text (offset + c.utf8Size) (← step text offset c state) rest

/-- Reads a directive. Offsets are counted behind the blanks in front, and the parts are then cut
out of the text with these blanks. -/
def parse (text : String) : Except DirectiveError Directive :=
  match run text.toList 0 (.start, {}) (Text.trimChars text.toList) with
  | some (.head, directive) =>
      match Threshold.ofText? text with
      | some threshold => .ok { directive with threshold }
      | none => .ok { directive with target := text }
  | some (.level start, directive) =>
      let level := String.ofList (slice start text.utf8ByteSize text.toList)
      if level.isEmpty then .ok directive
      else match Threshold.ofText? level with
        | some threshold => .ok { directive with threshold }
        | none => .error .unknownLevel
  | some (.spanEnd, directive) => .ok directive
  | _ => .error .malformed

/-- The directive asks for nothing that only a span can tell. -/
def isStatic (directive : Directive) : Bool :=
  directive.span.isNone && directive.field.all (·.value.isNone)

/-- The only field of events. -/
def eventField : String := "message"

def isAbout (directive : Directive) (target : String) : Bool :=
  directive.isStatic && directive.target.toList.isPrefixOf target.toList &&
    directive.field.all (·.name == eventField)

/-- A longer target is more specific, and of equal ones the one with a field. -/
def specificity (directive : Directive) : Nat :=
  2 * directive.target.length + directive.field.isSome.toNat

end Directive

abbrev Filter := List Directive

namespace Filter

/-- The directives' texts; empty ones do not count. -/
def parts (text : String) : List String :=
  ((text.toList.splitOn ',').filter (!·.isEmpty)).map String.ofList

def parse (text : String) : Except DirectiveError Filter :=
  (parts text).mapM Directive.parse

/-- The directives that can be read, and the texts of the others. -/
def parseKnown (text : String) : Filter × List (String × DirectiveError) :=
  (parts text).foldr (fun part (known, others) =>
    match Directive.parse part with
    | .ok directive => (directive :: known, others)
    | .error error => (known, (part, error) :: others)) ([], [])

/-- A filter without directives is about all targets with one threshold. -/
def orDefault (filter : Filter) (threshold : Threshold) : Filter :=
  if filter.isEmpty then [{ threshold }] else filter

/-- The directive about a target that counts. -/
def directive? (filter : Filter) (target : String) : Option Directive :=
  (filter.filter (·.isAbout target)).foldl (fun best directive =>
    if best.all fun best => best.specificity ≤ directive.specificity then some directive
    else best) none

def allows (filter : Filter) (target : String) (level : Level) : Bool :=
  (filter.directive? target).any fun directive => directive.threshold.allows level

end Filter

end FeatureCheck
