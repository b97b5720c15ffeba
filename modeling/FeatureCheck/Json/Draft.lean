import FeatureCheck.Json.Token

/-!
# Drafts

A draft is what a JSON text says up to its first fault. An array or object that the fault cuts
short ends with it, and so does everything around it. A reader that walks a draft in order
therefore meets its own complaints and those of the text in the order of the text.
-/

namespace FeatureCheck.Json

set_option autoImplicit false

inductive Draft where
  | leaf (leaf : Leaf)
  | array (items : List Draft) (stop : Option Fault)
  | object (members : List (Lexeme String × Draft)) (stop : Option Fault)

/-- An array or object that is being read, with what it holds so far, latest first. -/
inductive Frame where
  | array (items : List Draft)
  | object (members : List (Lexeme String × Draft)) (key : Lexeme String)

structure Document where
  value : Draft
  hasTrailing : Bool

namespace Draft

def broken (fault : Fault) : Draft :=
  .leaf (.broken fault)

/-- Why a value cannot be passed over. -/
def blocked : Draft → Option Fault
  | .leaf value => value.blocked
  | .array _ stop => stop
  | .object _ stop => stop

/-- Ends everything around a value that reading stops in. -/
def abandon (fault : Fault) (frames : List Frame) (last : Draft) : Draft :=
  frames.foldl (fun draft frame =>
    match frame with
    | .array items => .array (draft :: items).reverse (some fault)
    | .object members key => .object ((key, draft) :: members).reverse (some fault)) last

end Draft

inductive Expected where
  | value (frames : List Frame)
  /-- The first item of an array, or its end. -/
  | item (frames : List Frame)
  /-- A key or, if no member has been read, the end of the object. -/
  | key (members : List (Lexeme String × Draft)) (frames : List Frame)
  | colon (members : List (Lexeme String × Draft)) (key : Lexeme String) (frames : List Frame)
  | next (draft : Draft) (frames : List Frame)

namespace Expected

def stop (fault : Fault) (frames : List Frame) (last : Draft) : Expected ⊕ Document :=
  .inr ⟨Draft.abandon fault frames last, false⟩

def readValue (frames : List Frame) : Token → Expected ⊕ Document
  | .leaf leaf =>
      match leaf.blocked with
      | none => .inl (.next (.leaf leaf) frames)
      | some fault => stop fault frames (.leaf leaf)
  | .arrayStart => .inl (.item frames)
  | .objectStart => .inl (.key [] frames)
  | _ => stop .malformed frames (.broken .malformed)

/-- What ends reading where the key of a member is expected. -/
def stopAtKey (fault : Fault) (members : List (Lexeme String × Draft)) (frames : List Frame) :
    Expected ⊕ Document :=
  stop fault frames (.object members.reverse (some fault))

/-- What ends reading behind the key of a member. -/
def stopAtValue (fault : Fault) (members : List (Lexeme String × Draft))
    (name : Lexeme String) (frames : List Frame) : Expected ⊕ Document :=
  stop fault frames (.object ((name, .broken fault) :: members).reverse (some fault))

/-- What ends reading behind a value. -/
def stopAfter (fault : Fault) (draft : Draft) : List Frame → Expected ⊕ Document
  | [] => .inr ⟨draft, true⟩
  | .array items :: frames => stop fault frames (.array (draft :: items).reverse (some fault))
  | .object members name :: frames =>
      stop fault frames (.object ((name, draft) :: members).reverse (some fault))

def read : Expected → Token → Expected ⊕ Document
  | .value frames, token => readValue frames token
  | .item frames, .arrayEnd => .inl (.next (.array [] none) frames)
  | .item frames, token => readValue (.array [] :: frames) token
  | .key [] frames, .objectEnd => .inl (.next (.object [] none) frames)
  | .key members frames, .leaf (.text name) =>
      match name.blocked with
      | none => .inl (.colon members name frames)
      | some fault => stopAtValue fault members name frames
  | .key members frames, _ => stopAtKey .malformed members frames
  | .colon members name frames, .colon => .inl (.value (.object members name :: frames))
  | .colon members name frames, _ => stopAtValue .malformed members name frames
  | .next draft (.array items :: frames), .comma =>
      .inl (.value (.array (draft :: items) :: frames))
  | .next draft (.array items :: frames), .arrayEnd =>
      .inl (.next (.array (draft :: items).reverse none) frames)
  | .next draft (.object members name :: frames), .comma =>
      .inl (.key ((name, draft) :: members) frames)
  | .next draft (.object members name :: frames), .objectEnd =>
      .inl (.next (.object ((name, draft) :: members).reverse none) frames)
  | .next draft frames, _ => stopAfter .malformed draft frames

def finish : Expected → Document
  | .value frames => ⟨.abandon .endOfText frames (.broken .endOfText), false⟩
  | .item frames => ⟨.abandon .endOfText frames (.array [] (some .endOfText)), false⟩
  | .key members frames =>
      ⟨.abandon .endOfText frames (.object members.reverse (some .endOfText)), false⟩
  | .colon members name frames =>
      ⟨.abandon .endOfText frames
        (.object ((name, .broken .endOfText) :: members).reverse (some .endOfText)), false⟩
  | .next draft frames => ⟨.abandon .endOfText frames draft, false⟩

/-- Reads tokens up to a fault, the end, or what follows the value. -/
def run : Expected → List Token → Document
  | expected, [] => expected.finish
  | expected, token :: tokens =>
      match expected.read token with
      | .inl following => run following tokens
      | .inr document => document

end Expected

def Document.ofGlyphs (glyphs : List Text.Glyph) : Document :=
  (Expected.value []).run (tokens glyphs)

mutual

def draft : Json → Draft
  | .null => .leaf .null
  | .bool value => .leaf (.bool value)
  | .number value => .leaf (.number ⟨.ok value, none⟩)
  | .text value => .leaf (.text ⟨.ok value, none⟩)
  | .array items => .array (draftItems items) none
  | .object members => .object (draftMembers members) none

def draftItems : List Json → List Draft
  | [] => []
  | item :: items => draft item :: draftItems items

def draftMembers : List (String × Json) → List (Lexeme String × Draft)
  | [] => []
  | (key, value) :: members => (⟨.ok key, none⟩, draft value) :: draftMembers members

end

end FeatureCheck.Json
