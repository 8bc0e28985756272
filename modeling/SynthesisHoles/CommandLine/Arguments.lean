import SynthesisHoles.CommandLine.Error
import SynthesisHoles.Hole.Basic
import SynthesisHoles.Text.Similarity

/-!
# Reading the arguments

Arguments are read from left to right. A long option may carry its value behind an equals sign;
otherwise the next argument is the value, if it does not look like an option. The value of an option is
settled, and with it checked, when the next option or the end is reached. An unknown argument is
reported before a value that is not settled yet. After a double dash nothing is an option any more, and
as there are no arguments but options, nothing is allowed.
-/

namespace SynthesisHoles.CommandLine

/-- Choices for a run. -/
structure Settings where
  sample : String := "counter"
  firstHole : Nat := 0
  json : Bool := false
  list : Bool := false
  verbose : Bool := false
  shadowing : Bool := false

/-- Why the arguments ask for no run. -/
inductive Stop
  | help
  | version
  | misuse (error : UsageError)

/-- What is known after some of the arguments. -/
structure Reading where
  /-- The choices made so far. -/
  settings : Settings := {}
  /-- The options settled so far, in order. -/
  used : List OptionName := []
  /-- An option that is not settled yet, with its value if that was read. -/
  pending : Option (OptionName × Option String) := none

/-- Index in decimal digits, after a plus sign or not. -/
def parseIndex (text : String) : Except IndexError Nat :=
  match text.toList with
  | [] => .error .empty
  | ['+'] => .error .invalidDigit
  | '+' :: digits => readDigits digits
  | digits => readDigits digits
where
  /-- Reads the digits from the left, and stops at the first that cannot be read or is too much. -/
  readDigits (digits : List Char) : Except IndexError Nat :=
    digits.foldlM
      (fun value digit =>
        if digit.isDigit then
          let extended := 10 * value + (digit.toNat - '0'.toNat)
          if extended < indexBound then .ok extended else .error .tooLarge
        else
          .error .invalidDigit)
      0

namespace Reading

/-- Settles an option with a value. -/
def store
    (reading : Reading)
    (option : OptionName)
    (value : String) :
    Except Stop Reading :=
  if option ∈ reading.used then
    .error (.misuse (.repeated option))
  else
    let reading := { reading with used := reading.used ++ [option], pending := none }
    match option with
    | .firstHole =>
        match parseIndex value with
        | .ok index => .ok { reading with settings.firstHole := index }
        | .error reason => .error (.misuse (.invalidIndex value reason))
    | _ => .ok { reading with settings.sample := value }

/-- Settles the pending option, if there is one. -/
def settle (reading : Reading) : Except Stop Reading :=
  match reading.pending with
  | none => .ok reading
  | some (option, none) => .error (.misuse (.missingValue option))
  | some (option, some value) => { reading with pending := none }.store option value

/--
Options that count as used when an unknown argument is met. A pending option with a value counts as
used, also if the value is not acceptable; one that was given before does not count any more.
-/
def usedBeforeUnknown (reading : Reading) : List OptionName :=
  match reading.pending with
  | some (option, some _) =>
      if option ∈ reading.used then
        reading.used.filter fun other => other ≠ option
      else
        reading.used ++ [option]
  | _ => reading.used

/-- Makes a choice that takes no value. -/
def choose (settings : Settings) : OptionName → Settings
  | .json => { settings with json := true }
  | .list => { settings with list := true }
  | .verbose => { settings with verbose := true }
  | .shadowing => { settings with shadowing := true }
  | _ => settings

/-- Takes an option that has no value. -/
def takeSwitch (reading : Reading) (option : OptionName) : Except Stop Reading := do
  let reading ← reading.settle
  match option with
  | .help => throw .help
  | .version => throw .version
  | _ =>
      if option ∈ reading.used then
        throw (.misuse (.repeated option))
      return { reading with
        settings := choose reading.settings option
        used := reading.used ++ [option] }

/-- Takes a long option with the text behind its equals sign, if it has one. -/
def takeLong
    (reading : Reading)
    (name : String)
    (attached : Option String) :
    Except Stop Reading :=
  match OptionName.ofLong? name, attached with
  | none, _ =>
      .error (.misuse
        (.unknownOption name reading.usedBeforeUnknown
          (Text.suggestion? OptionName.long name OptionName.all)))
  | some option, none =>
      if option.takesValue then do
        let reading ← reading.settle
        return { reading with pending := some (option, none) }
      else
        reading.takeSwitch option
  | some option, some value =>
      if option.takesValue then do
        let reading ← reading.settle
        reading.store option value
      else
        .error (.misuse (.unwantedValue option value !reading.used.isEmpty))

/-- Takes short options that are written behind one dash. -/
def takeShort (reading : Reading) : List Char → Except Stop Reading
  | [] => .ok reading
  | letter :: rest =>
      match OptionName.ofShort? letter with
      | none => .error (.misuse (.unexpectedArgument (String.ofList ['-', letter])))
      | some option => do
          let reading ← reading.takeSwitch option
          reading.takeShort rest

/-- Takes an argument that does not look like an option. -/
def takePlain (reading : Reading) (argument : String) : Except Stop Reading :=
  match reading.pending with
  | some (option, none) => .ok { reading with pending := some (option, some argument) }
  | _ => .error (.misuse (.unexpectedArgument argument))

/-- Reads the arguments that are left. -/
def readAll (reading : Reading) : List String → Except Stop Reading
  | [] => reading.settle
  | argument :: rest =>
      match argument.toList with
      | ['-', '-'] =>
          match rest with
          | [] => reading.settle
          | extra :: _ => .error (.misuse (.unexpectedArgument extra))
      | '-' :: '-' :: long => do
          let name := String.ofList (long.takeWhile fun character => character ≠ '=')
          let attached :=
            match long.dropWhile fun character => character ≠ '=' with
            | [] => none
            | _ :: value => some (String.ofList value)
          let reading ← reading.takeLong name attached
          reading.readAll rest
      | '-' :: letter :: letters => do
          let reading ← reading.takeShort (letter :: letters)
          reading.readAll rest
      | _ => do
          let reading ← reading.takePlain argument
          reading.readAll rest

end Reading

/-- Choices that the arguments make. -/
def parseArguments (arguments : List String) : Except Stop Settings := do
  let reading ← Reading.readAll {} arguments
  return reading.settings

end SynthesisHoles.CommandLine
