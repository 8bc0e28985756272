import SynthesisHoles.Diagnostic.Rendering

/-!
# The queue of diagnostics

Diagnostics wait in a queue until they are displayed or taken over. The queue also knows whether an
error came in, and how many, since it was last flushed: to display the diagnostics empties the queue
but keeps this knowledge, to flush hands over both.
-/

namespace SynthesisHoles

/-- Diagnostics about a subject, in the order in which they came. -/
structure DiagnosticQueue where
  subject : String
  pending : List Diagnostic := []
  hasErrors : Bool := false
  errorCount : Nat := 0
  deriving DecidableEq

namespace DiagnosticQueue

/-- The queue with one diagnostic more. -/
def push (queue : DiagnosticQueue) (diagnostic : Diagnostic) : DiagnosticQueue :=
  { queue with
    pending := queue.pending ++ [diagnostic]
    hasErrors := queue.hasErrors || diagnostic.isError
    errorCount := if diagnostic.isError then queue.errorCount + 1 else queue.errorCount }

/-- The queue with several diagnostics more. -/
def pushAll (queue : DiagnosticQueue) (diagnostics : List Diagnostic) : DiagnosticQueue :=
  diagnostics.foldl push queue

/-- A queue has errors after several diagnostics if it had errors or one of them is an error. -/
@[simp]
theorem hasErrors_pushAll
    (queue : DiagnosticQueue)
    (diagnostics : List Diagnostic) :
    (queue.pushAll diagnostics).hasErrors =
      (queue.hasErrors || diagnostics.any Diagnostic.isError) := by
  induction diagnostics generalizing queue with
  | nil => exact (Bool.or_false _).symm
  | cons first rest hypothesis =>
      have pushed : queue.pushAll (first :: rest) = (queue.push first).pushAll rest := rfl
      rw [pushed, hypothesis, List.any_cons, ← Bool.or_assoc]
      rfl

/-- Number of diagnostics that wait. -/
def size (queue : DiagnosticQueue) : Nat :=
  queue.pending.length

/-- The queue as it is, and the same queue without diagnostics and errors. -/
def flush (queue : DiagnosticQueue) : DiagnosticQueue × DiagnosticQueue :=
  (queue, { subject := queue.subject })

/--
Text that displays the diagnostics, and the queue without them. The text goes back to the start of the
line first, over what progress reports left there.
-/
def display (queue : DiagnosticQueue) : String × DiagnosticQueue :=
  ("\r" ++ String.join (queue.pending.map Diagnostic.render), { queue with pending := [] })

/-- Summary of the queue. -/
def summary (queue : DiagnosticQueue) : String :=
  toString queue.size ++ " diagnostics (" ++ toString queue.errorCount ++ " errors) for "
    ++ queue.subject

/-- Subject of diagnostics that are not about a program. -/
def internalSubject : String :=
  "internal error"

/--
One error for a chain of causes, from the outermost to the root. The root is the message; the others
follow as notes, from the inside to the outside.
-/
def ofCauses (causes : List String) : DiagnosticQueue :=
  let diagnostic : Diagnostic :=
    match causes.reverse with
    | [] => { severity := .error, message := internalSubject }
    | root :: contexts =>
        { severity := .error
          message := root
          notes := contexts.map fun context => "Caused by: " ++ context }
  push { subject := internalSubject } diagnostic

/-- One error for a failure to read or write. -/
def ofTransferFailure (message : String) : DiagnosticQueue :=
  push { subject := internalSubject }
    { severity := .error, message := "I/O error", notes := [message] }

end DiagnosticQueue

end SynthesisHoles
