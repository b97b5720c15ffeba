import FeatureCheck.Json.Number
import FeatureCheck.Json.Token
import FeatureCheck.Toml.DateTime

/-!
# TOML strings and plain values
-/

namespace FeatureCheck.Toml

open Text

set_option autoImplicit false

def isControl (c : Char) : Bool :=
  (c.toNat < 0x20 || c.toNat = 0x7F) && c != '\t'

/-! ## Strings -/

def escaped? : Char → Option Char
  | 'b' => some '\x08'
  | 't' => some '\t'
  | 'n' => some '\n'
  | 'f' => some '\x0c'
  | 'r' => some '\r'
  | 'e' => some '\x1b'
  | '"' => some '"'
  | '\\' => some '\\'
  | _ => none

/-- The character that the text behind a backslash stands for, and what follows. -/
def escape? : List Char → Option (Char × List Char)
  | 'x' :: a :: b :: rest => (scalar? [a, b]).map (·, rest)
  | 'u' :: a :: b :: c :: d :: rest => (scalar? [a, b, c, d]).map (·, rest)
  | 'U' :: a :: b :: c :: d :: e :: f :: g :: h :: rest =>
      (scalar? [a, b, c, d, e, f, g, h]).map (·, rest)
  | c :: rest => (escaped? c).map (·, rest)
  | [] => none

theorem eq_of_map_pair {read : Option Char} {c : Char} {rest other : List Char}
    (h : read.map (·, other) = some (c, rest)) : other = rest := by
  obtain ⟨_, _, heq⟩ := Option.map_eq_some_iff.mp h
  exact congrArg Prod.snd heq

theorem escape?_shorter {text rest : List Char} {c : Char} (h : escape? text = some (c, rest)) :
    rest.length < text.length := by
  unfold escape? at h
  split at h
  case h_5 => cases h
  all_goals
    rw [← eq_of_map_pair h]
    simp only [List.length_cons]
    omega

/-- The text up to the closing quote, behind what is already read, latest first. -/
def basicText (done : List Char) : List Char → Option (List Char × List Char)
  | [] => none
  | '"' :: rest => some (done.reverse, rest)
  | '\\' :: text =>
      match _h : escape? text with
      | some (c, rest) => basicText (c :: done) rest
      | none => none
  | c :: rest => if isControl c then none else basicText (c :: done) rest
termination_by text => text.length
decreasing_by
  · have := escape?_shorter _h
    simp only [List.length_cons]
    omega
  · simp

inductive LineMode where
  | plain
  /-- Behind a backslash at the end of a line, before the line ends. -/
  | ending
  | trimming

/-- The text of a string that ends here, unless an escaped line end is still to come. -/
def LineMode.close : LineMode → List Char → List Char → Option (List Char × List Char)
  | .ending, _, _ => none
  | .plain, done, rest | .trimming, done, rest => some (done.reverse, rest)

/-- The text up to three quotes; two more may stand before them. -/
def basicLines (mode : LineMode) (done : List Char) : List Char → Option (List Char × List Char)
  | [] => none
  | '"' :: '"' :: '"' :: '"' :: '"' :: rest => mode.close ('"' :: '"' :: done) rest
  | '"' :: '"' :: '"' :: '"' :: rest => mode.close ('"' :: done) rest
  | '"' :: '"' :: '"' :: rest => mode.close done rest
  | '\\' :: text =>
      match mode, _h : escape? text with
      | .ending, _ => none
      | _, some (c, rest) => basicLines .plain (c :: done) rest
      | _, none => basicLines .ending done text
  | '\r' :: '\n' :: rest =>
      match mode with
      | .plain => basicLines .plain ('\n' :: '\r' :: done) rest
      | .ending | .trimming => basicLines .trimming done rest
  | c :: rest =>
      match mode with
      | .plain =>
          if isControl c ∧ c ≠ '\n' then none else basicLines .plain (c :: done) rest
      | .ending =>
          if c = '\n' then basicLines .trimming done rest
          else if c = ' ' ∨ c = '\t' then basicLines .ending done rest
          else none
      | .trimming =>
          if c = ' ' ∨ c = '\t' ∨ c = '\n' then basicLines .trimming done rest
          else if isControl c then none
          else basicLines .plain (c :: done) rest
termination_by text => text.length
decreasing_by
  all_goals simp only [List.length_cons]
  all_goals try omega
  have := escape?_shorter _h
  omega

/-- The text up to three single quotes; two more may stand before them. -/
def literalLines (done : List Char) : List Char → Option (List Char × List Char)
  | [] => none
  | '\'' :: '\'' :: '\'' :: '\'' :: '\'' :: rest => some (('\'' :: '\'' :: done).reverse, rest)
  | '\'' :: '\'' :: '\'' :: '\'' :: rest => some (('\'' :: done).reverse, rest)
  | '\'' :: '\'' :: '\'' :: rest => some (done.reverse, rest)
  | '\r' :: '\n' :: rest => literalLines ('\n' :: '\r' :: done) rest
  | c :: rest =>
      if isControl c ∧ c ≠ '\n' then none else literalLines (c :: done) rest

def literalText : Reader (List Char) := do
  let text ← Reader.takeWhile fun c => c != '\'' && !isControl c
  Reader.expect "'"
  return text

def textBy (read : List Char → Option (List Char × List Char)) : Reader (List Char) := do
  match read (← get) with
  | some (text, rest) => set rest; return text
  | none => failure

def quoted : Reader (List Char) := do
  if ← Reader.accept "\"" then textBy (basicText [])
  else
    Reader.expect "'"
    literalText

/-- A line end directly behind the opening quotes does not count. -/
def dropLine : Reader Unit := do
  unless ← Reader.accept "\n" do
    let _ ← Reader.accept "\r\n"

def anyText : Reader (List Char) := do
  if ← Reader.accept "\"\"\"" then
    dropLine
    textBy (basicLines .plain [])
  else if ← Reader.accept "'''" then
    dropLine
    textBy (literalLines [])
  else quoted

/-! ## Plain values -/

/-- Digits without the underscores between them. -/
def ungrouped? (isDigit : Char → Bool) (text : List Char) : Option (List Char) :=
  let groups := text.splitOn '_'
  if groups.all fun group => !group.isEmpty && group.all isDigit then some groups.flatten else none

def inBase? (base : Nat) (digits : List Char) : Option Int := do
  let digits ← ungrouped? (fun c => (hexValue? c).any (· < base)) digits
  bounded? (valueInBase base (← digits.mapM hexValue?))

/-- The whole part of a number has no zero in front. -/
def wholePart? (text : List Char) : Option (List Char) := do
  let digits ← ungrouped? Char.isDigit text
  if digits.length = 1 ∨ digits.head? ≠ some '0' then some digits else none

def integer? (text : List Char) : Option Int :=
  match text with
  | '0' :: 'x' :: digits => inBase? 16 digits
  | '0' :: 'o' :: digits => inBase? 8 digits
  | '0' :: 'b' :: digits => inBase? 2 digits
  | _ => do bounded? (signedBy text (digitsValue (← wholePart? (unsigned text))))

/-- A fraction, a power of ten, an infinity, or none of the numbers. -/
def float? (text : List Char) : Option JsonNumber := do
  let body := unsigned text
  let minus := text.takeWhile (· = '-')
  if body = "inf".toList ∨ body = "nan".toList then
    return .other (String.ofList (minus ++ body))
  let mantissa := body.takeWhile fun c => c != 'e' && c != 'E'
  let power := body.drop mantissa.length
  if power.isEmpty && !mantissa.contains '.' then none
  let whole ← wholePart? (mantissa.takeWhile (· != '.'))
  let tenths := mantissa.dropWhile (· != '.')
  let tenths ← if tenths.isEmpty then some [] else
    (ungrouped? Char.isDigit (tenths.drop 1)).map ('.' :: ·)
  let power ← if power.isEmpty then some [] else
    let digits := unsigned (power.drop 1)
    (ungrouped? Char.isDigit digits).map fun digits =>
      'e' :: (power.drop 1).takeWhile (· = '-') ++ digits
  let literal := minus ++ whole ++ tenths ++ power
  if (Json.NumberParts.ofLiteral literal).exceeds then none
  else return .other (String.ofList literal)

def isPlain (c : Char) : Bool :=
  c.isAlphanum || c == '_' || c == '+' || c == '-' || c == '.' || c == ':'

/-- A date may be followed by a blank and a time. -/
def plainText : Reader (List Char) := do
  let text ← Reader.takeWhile isPlain
  if ((Reader.all? date text).isSome) then
    match ← get with
    | ' ' :: c :: _ =>
        if c.isDigit then
          let _ ← Reader.next
          return text ++ ' ' :: (← Reader.takeWhile isPlain)
        return text
    | _ => return text
  return text

/-- A value that is neither quoted nor in brackets. -/
def plainValue? (text : List Char) : Option Json :=
  if text = "true".toList then some (.bool true)
  else if text = "false".toList then some (.bool false)
  else
    ((integer? text).map fun value => Json.number (.whole value)) <|>
      (float? text).map Json.number <|>
      (canonicalDate? text).map fun text => Json.text (String.ofList text)

end FeatureCheck.Toml
