/-!
# Readers

A reader takes what it needs from the front of a text, or fails.
-/

namespace FeatureCheck.Text

set_option autoImplicit false

abbrev Reader (α : Type) := StateT (List Char) Option α

namespace Reader

variable {α : Type}

def peek? : Reader (Option Char) := do
  return (← get).head?

def next : Reader Char := do
  match ← get with
  | c :: rest => set rest; return c
  | [] => failure

def takeWhile (test : Char → Bool) : Reader (List Char) := do
  let text ← get
  set (text.dropWhile test)
  return text.takeWhile test

def expect (text : String) : Reader Unit := do
  match text.toList.isPrefixOf? (← get) with
  | some rest => set rest
  | none => failure

/-- Takes this text if it comes next, and says so. -/
def accept (text : String) : Reader Bool := do
  match text.toList.isPrefixOf? (← get) with
  | some rest => set rest; return true
  | none => return false

def ended : Reader Bool := do
  return (← get).isEmpty

/-- Reads something separated by commas up to a closing text, `fuel` items at most; a comma may
stand behind the last item. -/
def itemsUntil (close : String) (skip : Reader Unit) (item : Reader α) : Nat → Reader (List α)
  | 0 => failure
  | fuel + 1 => do
      skip
      if ← accept close then return []
      let first ← item
      skip
      if ← accept close then return [first]
      expect ","
      return first :: (← itemsUntil close skip item fuel)

/-- What a reader makes of a whole text. -/
def all? (reader : Reader α) (text : List Char) : Option α :=
  match reader.run text with
  | some (value, []) => some value
  | _ => none

end Reader

end FeatureCheck.Text
