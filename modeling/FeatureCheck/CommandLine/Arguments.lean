import FeatureCheck.CommandLine.Options
import FeatureCheck.Runtime

/-!
# Arguments

Arguments are read one by one. A value stands behind its option, or in the same argument: behind an
equals sign, or directly behind the letter of a short option. Short options without values may be
written together. Behind two hyphens there are operands only.
-/

namespace FeatureCheck.CommandLine

set_option autoImplicit false

/-- Why the arguments do not say what to do. -/
inductive Refusal where
  /-- They ask for help on a part. -/
  | help (part : Part)
  /-- They ask for help on help. -/
  | helpOnHelp
  | version
  /-- There are none. -/
  | nothing
  | unknown (argument : String)
  | noValue (option : OptionName)
  | surplusValue (option : OptionName)
  | repeated (option : OptionName)
  | badValue (option : OptionName) (value : String)
  | noCommand
  | noOperand
  deriving DecidableEq, Repr

/-- What a part of the command line gives: options with their values, and operands. -/
structure Given where
  options : List (OptionName × String) := []
  operands : List String := []

namespace Given

def has (given : Given) (option : OptionName) : Bool :=
  given.options.any fun entry => entry.1 = option

def values (given : Given) (option : OptionName) : List String :=
  given.options.filterMap fun (name, value) => if name = option then some value else none

end Given

/-- A value that the option can have: paths are not empty, and the runtime is a known one. -/
def isValid (option : OptionName) (value : String) : Bool :=
  match option with
  | .config | .mirror | .installDir | .logDir => !value.isEmpty
  | .runtime => (RuntimeKind.parse value).toOption.isSome
  | _ => true

/-- Notes an option and its value, or an empty one if it takes none. -/
def note (part : Part) (option : CommandOption) (value : String) (given : Given) :
    Except Refusal Given :=
  match option.use with
  | .answer => .error (if option.name = .version then .version else .help part)
  | .single =>
      if !isValid option.name value then .error (.badValue option.name value)
      else once
  | .flag => once
  | .counted => .ok add
  | .listed =>
      let values := (value.toList.splitOn ',').map fun text => (option.name, String.ofList text)
      .ok { given with options := given.options ++ values }
where
  add : Given := { given with options := given.options ++ [(option.name, value)] }
  once : Except Refusal Given :=
    if given.has option.name then .error (.repeated option.name) else .ok add

/-- An option whose value is expected or has just been read. -/
structure Pending where
  option : CommandOption
  value : Option String

/-- Settles the option before the one that comes next. -/
def settle (part : Part) (pending : Option Pending) (given : Given) : Except Refusal Given :=
  match pending with
  | none => .ok given
  | some ⟨option, some value⟩ => note part option value given
  | some ⟨option, none⟩ => .error (.noValue option.name)

/-- The text behind an equals sign, if the text starts with one. -/
def behindEquals? : List Char → Option (List Char)
  | '=' :: value => some value
  | _ => none

def readLong (part : Part) (argument body : List Char) (given : Given) :
    Except Refusal (Given × Option Pending) :=
  let name := body.takeWhile (· != '=')
  let value := behindEquals? (body.drop name.length)
  match part.options.find? fun option => option.long.toList = name with
  | none => .error (.unknown (String.ofList argument))
  | some option =>
      match option.takesValue, value with
      | true, some value => do return (← note part option (String.ofList value) given, none)
      | true, none => .ok (given, some ⟨option, none⟩)
      | false, some _ => .error (.surplusValue option.name)
      | false, none => do return (← note part option "" given, none)

/-- Reads short options that are written together. -/
def readShort (part : Part) : List Char → Given → Except Refusal (Given × Option Pending)
  | [], given => .ok (given, none)
  | letter :: rest, given =>
      match part.options.find? fun option => option.short = some letter with
      | none => .error (.unknown (String.ofList ['-', letter]))
      | some option =>
          if option.takesValue then
            if rest.isEmpty then .ok (given, some ⟨option, none⟩)
            else do
              let value := (behindEquals? rest).getD rest
              return (← note part option (String.ofList value) given, none)
          else do readShort part rest (← note part option "" given)

def takeOperands (part : Part) (given : Given) : List String → Except Refusal Given
  | [] => .ok given
  | argument :: arguments =>
      if given.operands.length < part.operandCount then
        takeOperands part { given with operands := given.operands ++ [argument] } arguments
      else .error (.unknown argument)

def helpWord : String := "help"

/-- The help that the words behind `help` ask for. -/
def helpOn : List String → Refusal
  | [] => .help .front
  | word :: words =>
      let next := if word = helpWord then some .helpOnHelp
        else (CommandName.ofWord? word).map fun command => Refusal.help (.behind command)
      match next, words with
      | some refusal, [] => refusal
      | some _, other :: _ => .unknown other
      | none, _ => .unknown word

/-- The arguments of a part, and the command with which the front ends. An option still waits to
be settled if its value was the last argument of the part. -/
structure Portion where
  given : Given
  pending : Option Pending
  command : Option (CommandName × List String)

def readPart (part : Part) (given : Given) (pending : Option Pending) :
    List String → Except Refusal Portion
  | [] => .ok ⟨given, pending, none⟩
  | argument :: arguments =>
      let waiting := pending.any (·.value.isNone)
      match argument.toList with
      | ['-', '-'] => do
          let given ← if arguments.isEmpty then .ok given else settle part pending given
          let given ← takeOperands part given arguments
          return ⟨given, if arguments.isEmpty then pending else none, none⟩
      | '-' :: '-' :: body => do
          let given ← settle part pending given
          let (given, pending) ← readLong part ('-' :: '-' :: body) body given
          readPart part given pending arguments
      | '-' :: letter :: rest => do
          let given ← settle part pending given
          let (given, pending) ← readShort part (letter :: rest) given
          readPart part given pending arguments
      | _ =>
          if waiting then
            readPart part given (pending.map fun option => { option with value := argument })
              arguments
          else if part = .front ∧ argument = helpWord then .error (helpOn arguments)
          else
            match (if part = .front then CommandName.ofWord? argument else none) with
            | some command => .ok ⟨given, pending, some (command, arguments)⟩
            | none => do
                let given ← takeOperands part (← settle part pending given) [argument]
                readPart part given none arguments

/-- What is given in front of the command, the command, and what is given behind it. -/
def readArguments (arguments : List String) : Except Refusal (Given × CommandName × Given) := do
  if arguments.isEmpty then throw .nothing
  let front ← readPart .front {} none arguments
  match front.command with
  | none =>
      let _ ← settle .front front.pending front.given
      throw .noCommand
  | some (command, rest) =>
      let portion ← readPart (.behind command) {} none rest
      let behind ← settle (.behind command) portion.pending portion.given
      if behind.operands.length < command.operands.length then throw .noOperand
      return (← settle .front front.pending front.given, command, behind)

end FeatureCheck.CommandLine
