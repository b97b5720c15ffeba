/-!
# UTF-8

Bytes are read as characters. A byte that belongs to no well-formed sequence stands for no
character, and reading goes on behind it.
-/

namespace FeatureCheck.Text

set_option autoImplicit false

/-- Reads a list one item at a time, and may give out items after each. -/
structure Transducer (σ α β : Type) where
  step : σ → α → List β × σ
  finish : σ → List β

namespace Transducer

variable {σ α β : Type}

def run (machine : Transducer σ α β) : σ → List α → List β
  | state, [] => machine.finish state
  | state, item :: items =>
      let (out, next) := machine.step state item
      out ++ run machine next items

end Transducer

/-- A character, or `none` for bytes that encode none. -/
abbrev Glyph := Option Char

/-- Where the decoder stands in a sequence. -/
inductive Utf8State where
  | ready
  /-- The value so far, the continuation bytes to come, and the range of the next. -/
  | within (value : Nat) (missing : Nat) (low high : Nat)
  deriving Repr

namespace Utf8State

def start (byte : Nat) : List Glyph × Utf8State :=
  if byte < 0x80 then ([some (Char.ofNat byte)], .ready)
  else if 0xC2 ≤ byte ∧ byte ≤ 0xDF then ([], .within (byte - 0xC0) 1 0x80 0xBF)
  else if byte = 0xE0 then ([], .within 0 2 0xA0 0xBF)
  else if byte = 0xED then ([], .within 0xD 2 0x80 0x9F)
  else if 0xE1 ≤ byte ∧ byte ≤ 0xEF then ([], .within (byte - 0xE0) 2 0x80 0xBF)
  else if byte = 0xF0 then ([], .within 0 3 0x90 0xBF)
  else if byte = 0xF4 then ([], .within 4 3 0x80 0x8F)
  else if 0xF1 ≤ byte ∧ byte ≤ 0xF3 then ([], .within (byte - 0xF0) 3 0x80 0xBF)
  else ([none], .ready)

def step : Utf8State → UInt8 → List Glyph × Utf8State
  | .ready, byte => start byte.toNat
  | .within value missing low high, byte =>
      if low ≤ byte.toNat ∧ byte.toNat ≤ high then
        let value := value * 64 + (byte.toNat - 0x80)
        if missing ≤ 1 then ([some (Char.ofNat value)], .ready)
        else ([], .within value (missing - 1) 0x80 0xBF)
      else
        let (out, next) := start byte.toNat
        (none :: out, next)

def finish : Utf8State → List Glyph
  | .ready => []
  | .within .. => [none]

end Utf8State

def utf8 : Transducer Utf8State UInt8 Glyph :=
  ⟨Utf8State.step, Utf8State.finish⟩

def glyphs (bytes : List UInt8) : List Glyph :=
  utf8.run .ready bytes

def bytesOf (text : String) : List UInt8 :=
  text.toUTF8.toList

/-- How many bytes a glyph takes. -/
def Glyph.size : Glyph → Nat
  | some c => c.utf8Size
  | none => 1

/-- The text that bytes encode, if they are well formed. -/
def decode? (bytes : List UInt8) : Option String :=
  ((glyphs bytes).mapM id).map String.ofList

end FeatureCheck.Text
