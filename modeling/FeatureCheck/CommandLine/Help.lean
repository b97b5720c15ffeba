import FeatureCheck.CommandLine.Arguments

/-!
# Help and complaints
-/

namespace FeatureCheck.CommandLine

set_option autoImplicit false

def programName : String := "fcompat"

def programVersion : String := "0.0.0"

def about : String := "Checks application-server feature and platform declarations"

def versionText : String :=
  programName ++ " " ++ programVersion ++ "\n"

namespace CommandOption

/-- The option as help shows it. -/
def usage (option : CommandOption) : String :=
  option.short.elim "    " (fun letter => String.ofList ['-', letter, ',', ' ']) ++ "--" ++
    option.long ++ (if option.takesValue then " <" ++ option.valueName ++ ">" else "") ++
    (if option.use = .counted then "..." else "")

def entry (option : CommandOption) : String :=
  "  " ++ option.usage ++ "\n          " ++ option.help ++ "\n"

end CommandOption

/-- A text on the left, blanks up to a column, and a text on the right. -/
def row (width : Nat) (left right : String) : String :=
  "  " ++ left ++ String.ofList (List.replicate (width - left.length) ' ') ++ "  " ++ right ++ "\n"

def helpText (part : Part) : String :=
  let options := "Options:\n" ++ String.join (part.options.map CommandOption.entry)
  match part with
  | .front =>
      let commands := CommandName.all.map fun command => (command.word, command.about)
      let help := (helpWord, "Print this message or the help of the given subcommand(s)")
      about ++ "\n\nUsage: " ++ programName ++ " [OPTIONS] <COMMAND>\n\nCommands:\n" ++
        String.join ((commands ++ [help]).map fun (word, about) => row 9 word about) ++ "\n" ++
        options
  | .behind command =>
      let operands := command.operands
      command.about ++ "\n\nUsage: " ++ programName ++ " " ++ command.word ++ " [OPTIONS]" ++
        String.join (operands.map fun (name, _) => " <" ++ name ++ ">") ++ "\n\n" ++
        (if operands.isEmpty then ""
          else "Arguments:\n" ++
            String.join (operands.map fun (name, help) => row 9 ("<" ++ name ++ ">") help) ++
            "\n") ++
        options

def helpOnHelpText : String :=
  "Print this message or the help of the given subcommand(s)\n\nUsage: " ++ programName ++
    " help [COMMAND]\n"

namespace Refusal

def message : Refusal → String
  | .help _ | .helpOnHelp | .version => ""
  | .nothing => helpText .front
  | .unknown argument => "error: unexpected argument '" ++ argument ++ "' found\n"
  | .noValue option => "error: a value is required for '--" ++ longName option ++ "'\n"
  | .surplusValue option => "error: '--" ++ longName option ++ "' takes no value\n"
  | .repeated option =>
      "error: the argument '--" ++ longName option ++ "' cannot be used multiple times\n"
  | .badValue option value =>
      "error: invalid value '" ++ value ++ "' for '--" ++ longName option ++ "'\n"
  | .noCommand => "error: a command is required\n"
  | .noOperand => "error: the name of a feature is required\n"
where
  longName (option : OptionName) : String :=
    ((CommandName.options .check).find? fun known => known.name = option).elim "" (·.long)

end Refusal

end FeatureCheck.CommandLine
