import FeatureCheck.Json.Draft

/-!
# Decoders

A decoder reads a draft as a value of some type. A record is read from an object, whose unknown
members are passed over and whose known ones must not repeat, or from an array of its fields in
order, the last of which may be left out if they are optional.
-/

namespace FeatureCheck.Json

set_option autoImplicit false

abbrev Decoder (α : Type) := Draft → Except Fault α

/-- The complaint about a value of the wrong kind, or about the text it is in. -/
def Draft.mismatch : Draft → Fault
  | .leaf (.broken fault) => fault
  | .leaf (.number lexeme) => lexeme.value.toOption.elim (faultOf lexeme.value) fun _ => .unexpected
  | .leaf (.text lexeme) => lexeme.value.toOption.elim (faultOf lexeme.value) fun _ => .unexpected
  | _ => .unexpected
where
  faultOf {α : Type} : Except Fault α → Fault
    | .error fault => fault
    | .ok _ => .unexpected

namespace Decoder

variable {α σ : Type}

def text : Decoder String
  | .leaf (.text lexeme) => lexeme.value
  | other => .error other.mismatch

/-- A whole number of at most 64 bits, not negative. -/
def natural : Decoder Nat
  | .leaf (.number ⟨.ok (.whole (.ofNat value)), _⟩) => .ok value
  | other => .error other.mismatch

def optional (decoder : Decoder α) : Decoder (Option α)
  | .leaf .null => .ok none
  | other => (decoder other).map some

def endWith (value : α) : Option Fault → Except Fault α
  | none => .ok value
  | some fault => .error fault

def list (decoder : Decoder α) : Decoder (List α)
  | .array items stop => do endWith (← items.mapM decoder) stop
  | other => .error other.mismatch

/-- Members of any names, all read alike. -/
def members (decoder : Decoder α) : Decoder (List (String × α))
  | .object members stop => do
      endWith (← members.mapM fun (key, value) => do
        let key ← key.value
        return (key, ← decoder value)) stop
  | other => .error other.mismatch

structure Field (σ : Type) where
  name : String
  isRequired : Bool
  fill : σ → Draft → Except Fault σ

def Field.of (name : String) (isRequired : Bool) (decoder : Decoder α) (set : α → σ → σ) :
    Field σ :=
  ⟨name, isRequired, fun record value => (decoder value).map (set · record)⟩

/-- Fills in the fields that members name; `seen` holds the names met before. -/
def fillMembers (fields : List (Field σ)) : List String → σ →
    List (Lexeme String × Draft) → Except Fault (List String × σ)
  | seen, record, [] => .ok (seen, record)
  | seen, record, (key, value) :: members => do
      let name ← key.value
      match fields.find? fun field => field.name = name with
      | some field =>
          if name ∈ seen then .error .unexpected
          else fillMembers fields (name :: seen) (← field.fill record value) members
      | none =>
          match value.blocked with
          | some fault => .error fault
          | none => fillMembers fields seen record members

/-- Fills in the fields in order from the items of an array. -/
def fillItems : List (Field σ) → σ → List Draft → Option Fault → Except Fault σ
  | [], record, [], stop => endWith record stop
  | [], _, _ :: _, _ => .error .malformed
  | fields, record, [], none =>
      if fields.any (·.isRequired) then .error .unexpected else .ok record
  | _, _, [], some fault => .error fault
  | field :: fields, record, item :: items, stop => do
      fillItems fields (← field.fill record item) items stop

/-- A record, from the one whose fields have their defaults. -/
def record (fields : List (Field σ)) (default : σ) : Decoder σ
  | .object members stop => do
      let (seen, record) ← fillMembers fields [] default members
      let record ← endWith record stop
      if fields.all fun field => !field.isRequired || seen.contains field.name then .ok record
      else .error .unexpected
  | .array items stop => fillItems fields default items stop
  | other => .error other.mismatch

/-- A name from a closed list: the name itself, or the one key of an object whose value is null. -/
def variant (ofName? : String → Option α) : Decoder α
  | .leaf (.text lexeme) => do
      let name ← lexeme.value
      (ofName? name).elim (.error .unexpected) .ok
  | .object [(key, .leaf .null)] none => do
      let name ← key.value
      (ofName? name).elim (.error .unexpected) .ok
  | other => .error other.mismatch

def decode (decoder : Decoder α) (glyphs : List Text.Glyph) : Except Fault α := do
  let document := Document.ofGlyphs glyphs
  let value ← decoder document.value
  if document.hasTrailing then .error .malformed else .ok value

end Decoder

mutual

/-- The value that a complete draft stands for. -/
def Draft.toJson : Decoder Json
  | .leaf .null => .ok .null
  | .leaf (.bool value) => .ok (.bool value)
  | .leaf (.number lexeme) => lexeme.value.map .number
  | .leaf (.text lexeme) => lexeme.value.map .text
  | .leaf (.broken fault) => .error fault
  | .array items stop => do
      Decoder.endWith (.array (← Draft.toJsonItems items)) stop
  | .object members stop => do
      Decoder.endWith (.object (← Draft.toJsonMembers members)) stop

def Draft.toJsonItems : List Draft → Except Fault (List Json)
  | [] => .ok []
  | item :: items => do
      let value ← Draft.toJson item
      return value :: (← Draft.toJsonItems items)

def Draft.toJsonMembers : List (Lexeme String × Draft) → Except Fault (List (String × Json))
  | [] => .ok []
  | (key, item) :: members => do
      let key ← key.value
      let value ← Draft.toJson item
      return (key, value) :: (← Draft.toJsonMembers members)

end

end FeatureCheck.Json
