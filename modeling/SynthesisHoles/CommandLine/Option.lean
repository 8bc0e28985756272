/-!
# Options of the command line

Every option has a long name. Two take a value, two have a short name too. The help text lists them in
the order of their definition.
-/

namespace SynthesisHoles.CommandLine

/-- An option. -/
inductive OptionName
  | sample
  | firstHole
  | json
  | list
  | verbose
  | shadowing
  | help
  | version
  deriving DecidableEq

namespace OptionName

/-- All the options, in the order of the help text. -/
def all : List OptionName :=
  [.sample, .firstHole, .json, .list, .verbose, .shadowing, .help, .version]

/-- Long name, without dashes. -/
def long : OptionName → String
  | .sample => "sample"
  | .firstHole => "first-hole"
  | .json => "json"
  | .list => "list"
  | .verbose => "verbose"
  | .shadowing => "shadowing"
  | .help => "help"
  | .version => "version"

/-- Short name, for the options that have one. -/
def short? : OptionName → Option Char
  | .help => some 'h'
  | .version => some 'V'
  | _ => none

/-- What the value of the option is called, for the options that take one. -/
def valueName? : OptionName → Option String
  | .sample => some "NAME"
  | .firstHole => some "INDEX"
  | _ => none

/-- Whether the option takes a value. -/
def takesValue (option : OptionName) : Bool :=
  option.valueName?.isSome

/-- How the option is written, with its value. -/
def text (option : OptionName) : String :=
  "--" ++ option.long ++
    match option.valueName? with
    | none => ""
    | some name => " <" ++ name ++ ">"

/-- What the option is for. -/
def purpose : OptionName → String
  | .sample => "Name of the sample program [default: counter]"
  | .firstHole => "Index of the first hole [default: 0]"
  | .json => "Print the hole table as JSON"
  | .list => "List the bundled samples and exit"
  | .verbose => "Report the progress of each step"
  | .shadowing => "Warn about declarations shadowing a visible variable"
  | .help => "Print help"
  | .version => "Print version"

/-- Option of a long name. -/
def ofLong? (name : String) : Option OptionName :=
  all.find? fun option => option.long = name

/-- Option of a short name. -/
def ofShort? (letter : Char) : Option OptionName :=
  all.find? fun option => option.short? = some letter

/-- Whether the option is a choice for a run; the others are answered without a run. -/
def isSetting : OptionName → Bool
  | .help => false
  | .version => false
  | _ => true

end OptionName

/-- Name of the program. -/
def programName : String :=
  "holey"

/-- Answer to a question for the version. -/
def versionText : String :=
  programName ++ " 0.1.0\n"

/-- A usage line with some words after the name of the program. -/
def usageLine (words : List String) : String :=
  "Usage: " ++ String.intercalate " " (programName :: words)

/-- Usage without a closer hint. -/
def generalUsage : String :=
  usageLine ["[OPTIONS]"]

/-- Width of the longest option, as it is written. -/
def optionWidth : Nat :=
  (OptionName.all.map fun option => option.text.length).foldl max 0

/-- Line of the help text about an option. -/
def helpLine (option : OptionName) : String :=
  let short :=
    match option.short? with
    | none => "    "
    | some letter => String.ofList ['-', letter, ',', ' ']
  "  " ++ short ++ option.text
    ++ String.ofList (List.replicate (optionWidth - option.text.length) ' ')
    ++ "  " ++ option.purpose ++ "\n"

/-- Answer to a question for help. -/
def helpText : String :=
  "Extracts the constants of a program into synthesis holes\n\n" ++ generalUsage
    ++ "\n\nOptions:\n" ++ String.join (OptionName.all.map helpLine)

end SynthesisHoles.CommandLine
