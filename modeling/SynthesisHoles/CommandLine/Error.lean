import SynthesisHoles.CommandLine.Option
import SynthesisHoles.Text.Terminal

/-!
# Errors in the use of the command line

Each error is told in one sentence, some with a suggestion and some with a usage line. What the user
wrote is quoted as a terminal would show it, so that no quoted text can steer the terminal.
-/

namespace SynthesisHoles.CommandLine

open Text (visibleText)

/-- Why a text is not an index. -/
inductive IndexError
  | empty
  | invalidDigit
  | tooLarge
  deriving DecidableEq

/-- Text of the reason. -/
def IndexError.text : IndexError → String
  | .empty => "cannot parse integer from empty string"
  | .invalidDigit => "invalid digit found in string"
  | .tooLarge => "number too large to fit in target type"

/-- A use of the command line that it does not allow. -/
inductive UsageError
  /-- An argument that is neither an option nor the value of one. -/
  | unexpectedArgument (argument : String)
  /-- An unknown long option, the options used before it, and a similar one. -/
  | unknownOption (name : String) (used : List OptionName) (similar : Option OptionName)
  /-- An option without its value. -/
  | missingValue (option : OptionName)
  /-- An option that was given before. -/
  | repeated (option : OptionName)
  /-- A value for an option that takes none, and whether other settings came before it. -/
  | unwantedValue (option : OptionName) (value : String) (afterOthers : Bool)
  /-- A value that is not an index. -/
  | invalidIndex (value : String) (reason : IndexError)
  deriving DecidableEq

namespace UsageError

/-- What is wrong. -/
def message : UsageError → String
  | .unexpectedArgument argument =>
      "unexpected argument '" ++ visibleText argument ++ "' found"
  | .unknownOption name _ _ =>
      "unexpected argument '--" ++ visibleText name ++ "' found"
  | .missingValue option =>
      "a value is required for '" ++ option.text ++ "' but none was supplied"
  | .repeated option => "the argument '" ++ option.text ++ "' cannot be used multiple times"
  | .unwantedValue option value _ =>
      "unexpected value '" ++ visibleText value ++ "' for '" ++ option.text
        ++ "' found; no more were expected"
  | .invalidIndex value reason =>
      "invalid value '" ++ visibleText value ++ "' for '" ++ OptionName.firstHole.text
        ++ "': " ++ reason.text

/-- A suggestion, if there is one. -/
def suggestion? : UsageError → Option String
  | .unknownOption _ _ (some similar) =>
      some ("  tip: a similar argument exists: '--" ++ similar.long ++ "'")
  | _ => none

/-- All the settings, as alternatives. -/
def alternatives : String :=
  "<"
    ++ String.intercalate "|"
      ((OptionName.all.filter OptionName.isSetting).map OptionName.text)
    ++ ">"

/-- Options once each, in the order in which they come. -/
def withoutRepetition (options : List OptionName) : List OptionName :=
  options.foldl
    (fun known option => if option ∈ known then known else known ++ [option])
    []

/-- Usage line, for the errors that show one. -/
def usage? : UsageError → Option String
  | .unexpectedArgument _ => some generalUsage
  | .unknownOption _ used similar =>
      match withoutRepetition (used ++ similar.toList) with
      | [] => some generalUsage
      | options => some (usageLine (options.map OptionName.text))
  | .missingValue _ => none
  | .repeated _ => some generalUsage
  | .unwantedValue option _ false => some (usageLine [option.text])
  | .unwantedValue option _ true =>
      if option.isSetting then
        some (usageLine [alternatives])
      else
        some (usageLine [option.text, alternatives])
  | .invalidIndex .. => none

/-- The whole text of the error. -/
def text (error : UsageError) : String :=
  String.intercalate "\n\n"
    (("error: " ++ error.message)
      :: (error.suggestion?.toList ++ error.usage?.toList
        ++ ["For more information, try '--help'.\n"]))

end UsageError

end SynthesisHoles.CommandLine
