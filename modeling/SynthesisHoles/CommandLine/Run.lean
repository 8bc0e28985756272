import SynthesisHoles.CommandLine.Arguments
import SynthesisHoles.Hole.Json
import SynthesisHoles.Samples
import SynthesisHoles.Session
import SynthesisHoles.Tree.Declarations

/-!
# Running the command line

A run extracts the holes of a sample program, and prints the sizes and the variables of its functions
and the table of holes, or the table as JSON.
-/

namespace SynthesisHoles.CommandLine

/-- Exit code and texts of a run. -/
structure RunResult where
  exitCode : Nat
  output : String := ""
  errors : String := ""

/-- Result of a run that ends with an error, after some text on the error stream. -/
def RunResult.failure (written message : String) : RunResult where
  exitCode := 1
  errors := written ++ "error: " ++ message ++ "\n"

/-- Result of a run that ends with a fault, after some text on the error stream. -/
def RunResult.aborted (written : String) (fault : Fault) : RunResult where
  exitCode := 101
  errors := written ++ fault.message ++ "\n"

/-- Lines about a function: its size, then its variables. -/
def functionLines (name : String) (size : Nat) (entries : List (String × DataType)) : String :=
  "fn " ++ name ++ ": " ++ toString size ++ " statements\n"
    ++ String.join
      (entries.map fun entry => "    " ++ entry.2.text ++ " " ++ entry.1 ++ "\n")

/-- Lines about the functions of a program; the variables are looked up by the name of the function. -/
def programLines (program : Program) (records : OrderedMap VariableRecord) : String :=
  String.join <| program.functions.map fun definition =>
    functionLines definition.name definition.size
      (((records.get? definition.name).map OrderedMap.entries).getD [])

/-- Runs the steps on a sample. -/
def runSample (settings : Settings) (program : Program) : RunResult :=
  let session := Session.start
    { filename := some settings.sample
      firstHole := settings.firstHole
      reportShadowing := settings.shadowing
      verbose := settings.verbose }
  match program.declaredVariables with
  | .error fault => .aborted session.written fault
  | .ok records =>
      match session.process program with
      | (.error fault, session) => .aborted session.written fault
      | (.ok (.error failure), session) => .failure session.display.written failure.text
      | (.ok (.ok (_, table)), session) =>
          { exitCode := 0
            output :=
              if settings.json then
                table.json.indented ++ "\n"
              else
                programLines program records ++ table.text
            errors := session.display.written }

/-- Runs the command line with choices. -/
def runSettings (settings : Settings) : RunResult :=
  if settings.list then
    { exitCode := 0, output := String.intercalate "\n" Samples.names ++ "\n" }
  else
    match Samples.find? settings.sample with
    | none => .failure "" ("unknown sample `" ++ settings.sample ++ "`, see --list")
    | some program => runSample settings program

/-- Runs the command line with arguments. -/
def run (arguments : List String) : RunResult :=
  match parseArguments arguments with
  | .ok settings => runSettings settings
  | .error .help => { exitCode := 0, output := helpText }
  | .error .version => { exitCode := 0, output := versionText }
  | .error (.misuse error) => { exitCode := 2, errors := error.text }

end SynthesisHoles.CommandLine
