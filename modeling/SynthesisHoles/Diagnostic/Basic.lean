import SynthesisHoles.Failure

/-!
# Diagnostics

A message for the user: how serious it is, a code to look it up by, a text, and notes.
-/

namespace SynthesisHoles

/-- How serious a diagnostic is. -/
inductive Severity
  | bug
  | error
  | warning
  | note
  | help
  deriving DecidableEq

/-- Whether a diagnostic of this severity counts as an error. -/
def Severity.isError : Severity → Bool
  | .bug => true
  | .error => true
  | _ => false

/-- Name of a severity, as it is printed. -/
def Severity.text : Severity → String
  | .bug => "bug"
  | .error => "error"
  | .warning => "warning"
  | .note => "note"
  | .help => "help"

/-- A message for the user. -/
structure Diagnostic where
  severity : Severity
  code : Option String := none
  message : String
  notes : List String := []
  deriving DecidableEq

/-- Whether the diagnostic counts as an error. -/
def Diagnostic.isError (diagnostic : Diagnostic) : Bool :=
  diagnostic.severity.isError

/-- Note that gives the line of what a diagnostic is about. -/
def lineNote (line : Nat) : String :=
  "at line " ++ toString line

/-- Diagnostic of a program error; its note gives the line of the error, if it has one. -/
def ProgramError.toDiagnostic (error : ProgramError) : Diagnostic where
  severity := .error
  code := some error.code
  message := error.message
  notes := (error.line?.map lineNote).toList

end SynthesisHoles
