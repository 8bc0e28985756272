import SynthesisHoles.Diagnostic.Queue
import SynthesisHoles.Hole.Extraction
import SynthesisHoles.Scope.Resolution

/-!
# Sessions

A session runs the two steps on programs: it checks the names of a program and extracts its holes. It
keeps its configuration, the queue of diagnostics, and the text written to the terminal so far. A step
can end with a fault; what was written and reported before it stays.
-/

namespace SynthesisHoles

/-- Choices of the user. -/
structure Configuration where
  filename : Option String := none
  firstHole : Nat := 0
  reportShadowing : Bool := false
  verbose : Bool := false

/-- State of a session. -/
structure Session where
  configuration : Configuration
  reporter : DiagnosticQueue
  written : String := ""

/-- Why a step gave no program with holes. -/
inductive StepFailure
  /-- The check found errors; the number counts all the diagnostics. -/
  | scoping (count : Nat)
  /-- The extraction rejected the program. -/
  | extraction (error : ProgramError)
  deriving DecidableEq

namespace StepFailure

/-- Messages of a failure, from the outermost to the root cause. -/
def causes : StepFailure → List String
  | .scoping count => ["found " ++ toString count ++ " scoping errors"]
  | .extraction error => ["could not extract holes", error.message]

/-- Messages of a failure on one line. -/
def text (failure : StepFailure) : String :=
  String.intercalate ": " failure.causes

end StepFailure

/-- Result of a step, unless it met a fault, and the session afterwards. -/
abbrev Stepped (Result : Type) :=
  Except Fault Result × Session

/-- A program with holes and the table of the holes, or why there is none. -/
abbrev ExtractionResult :=
  Except StepFailure (Program × HoleTable)

/-- What a progress report shows for the time that a step took: a session has no clock. -/
def elapsed : String :=
  "[T]"

namespace Session

/-- A session in which nothing has happened. -/
def start (configuration : Configuration) : Session where
  configuration := configuration
  reporter := { subject := configuration.filename.getD "unknown file" }

/-- Writes a text to the terminal. -/
def write (session : Session) (text : String) : Session :=
  { session with written := session.written ++ text }

/-- Writes a progress report, if the session is verbose. -/
def progress (session : Session) (text : String) : Session :=
  if session.configuration.verbose then session.write text else session

@[simp]
theorem configuration_progress
    (session : Session)
    (text : String) :
    (session.progress text).configuration = session.configuration := by
  rw [progress]
  split
  next => rfl
  next => rfl

@[simp]
theorem reporter_progress
    (session : Session)
    (text : String) :
    (session.progress text).reporter = session.reporter := by
  rw [progress]
  split
  next => rfl
  next => rfl

/-- Reports a diagnostic. -/
def emit (session : Session) (diagnostic : Diagnostic) : Session :=
  { session with reporter := session.reporter.push diagnostic }

/-- Reports several diagnostics. -/
def emitAll (session : Session) (diagnostics : List Diagnostic) : Session :=
  { session with reporter := session.reporter.pushAll diagnostics }

/-- Takes over the diagnostics reported so far. -/
def flush (session : Session) : DiagnosticQueue × Session :=
  let (flushed, reporter) := session.reporter.flush
  (flushed, { session with reporter })

/-- Writes the diagnostics reported so far to the terminal. -/
def display (session : Session) : Session :=
  let (text, reporter) := session.reporter.display
  { session with reporter }.write text

/--
Checks the names of a program. If an error was reported by then, in this step or before it, all the
diagnostics are taken over as the answer; if not, warnings stay in the queue.
-/
def check
    (session : Session)
    (program : Program) :
    Stepped (Except DiagnosticQueue Unit) :=
  let session := session.progress "Resolving names..."
  match program.resolve session.configuration.reportShadowing with
  | .error fault => (.error fault, session)
  | .ok diagnostics =>
      let session := session.emitAll diagnostics
      let (answer, session) :=
        if session.reporter.hasErrors then
          let (flushed, session) := session.flush
          (.error flushed, session)
        else
          (.ok (), session)
      (.ok answer, session.progress ("\rResolved names " ++ elapsed ++ "\n"))

/--
Extracts the holes of a program, numbered from the first index of the configuration. A program that is
not well formed is reported.
-/
def extract
    (session : Session)
    (program : Program) :
    Stepped ExtractionResult :=
  let session := session.progress "Extracting holes..."
  match program.replaceLiterals session.configuration.firstHole with
  | .error (.fault fault) => (.error fault, session)
  | .error (.rejected error) =>
      (.ok (.error (.extraction error)), session.emit error.toDiagnostic)
  | .ok (replaced, table) =>
      (.ok (.ok (replaced, table)),
        session.progress
          ("\rExtracted " ++ toString table.size ++ " holes " ++ elapsed ++ "\n"))

/--
Checks a program, then extracts its holes. If the check fails, its diagnostics go back to the queue.
-/
def process
    (session : Session)
    (program : Program) :
    Stepped ExtractionResult :=
  match session.check program with
  | (.error fault, session) => (.error fault, session)
  | (.ok (.error flushed), session) =>
      (.ok (.error (.scoping flushed.size)), session.emitAll flushed.pending)
  | (.ok (.ok ()), session) => session.extract program

end Session

end SynthesisHoles
