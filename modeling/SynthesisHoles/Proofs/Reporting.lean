import SynthesisHoles.Proofs.Steps

/-!
# Whether errors were reported

A queue of diagnostics keeps a flag that says whether there are errors. It is meant to be about the
diagnostics that wait in the queue, but to display these empties the queue and leaves the flag. So the
flag is about more: about all that was pushed since the queue was last taken over, whether it waits or
was displayed. The main statement says this of each state that a session can come to, and says when the
flag is about the waiting diagnostics only. To display an error and nothing else is a case where it is
not.
-/

namespace SynthesisHoles

/-! ## Queues -/

/-- The flag and the counter of a queue are about some displayed diagnostics and those that wait. -/
structure DiagnosticQueue.Counts
    (queue : DiagnosticQueue)
    (displayed : List Diagnostic) :
    Prop where
  flag : queue.hasErrors = (displayed ++ queue.pending).any Diagnostic.isError
  count : queue.errorCount = (displayed ++ queue.pending).countP Diagnostic.isError

namespace DiagnosticQueue

variable {queue : DiagnosticQueue} {displayed : List Diagnostic}

/-- A queue that was taken over counts nothing. -/
theorem counts_flush (queue : DiagnosticQueue) :
    queue.flush.2.Counts [] where
  flag := rfl
  count := rfl

namespace Counts

/-- A diagnostic that comes in is counted. -/
theorem push
    (counts : queue.Counts displayed)
    (diagnostic : Diagnostic) :
    (queue.push diagnostic).Counts displayed where
  flag := by
    simp only [DiagnosticQueue.push, counts.flag, List.any_append, List.any_cons, List.any_nil,
      Bool.or_false, Bool.or_assoc]
  count := by
    rw [DiagnosticQueue.push, ← List.append_assoc, List.countP_append, ← counts.count,
      List.countP_singleton]
    split
    next => rfl
    next => rfl

/-- Diagnostics that come in are counted. -/
theorem pushAll
    (counts : queue.Counts displayed)
    (diagnostics : List Diagnostic) :
    (queue.pushAll diagnostics).Counts displayed := by
  induction diagnostics generalizing queue with
  | nil => exact counts
  | cons first rest hypothesis => exact hypothesis (counts.push first)

/-- To display the diagnostics that wait moves them, and changes neither flag nor counter. -/
theorem display (counts : queue.Counts displayed) :
    queue.display.2.Counts (displayed ++ queue.pending) where
  flag := by
    rw [DiagnosticQueue.display, List.append_nil]
    exact counts.flag
  count := by
    rw [DiagnosticQueue.display, List.append_nil]
    exact counts.count

end Counts

end DiagnosticQueue

/-! ## Sessions -/

/-- What can be asked of a session. -/
inductive SessionCall
  | emit (diagnostic : Diagnostic)
  | check (program : Program)
  | extract (program : Program)
  | process (program : Program)
  | flush
  | display

/-- A session, and the diagnostics displayed since its queue was last taken over. -/
structure ReportHistory where
  session : Session
  displayed : List Diagnostic := []

namespace ReportHistory

/-- Diagnostics that wait to be displayed or taken over. -/
def pending (history : ReportHistory) : List Diagnostic :=
  history.session.reporter.pending

/-- What counts as displayed after a check: nothing, if the check fails and takes the queue over. -/
def displayedAfterCheck (history : ReportHistory) (program : Program) : List Diagnostic :=
  match (history.session.check program).1 with
  | .ok (.error _) => []
  | _ => history.displayed

/-- The history after a call. Processing begins with a check. -/
def after (history : ReportHistory) : SessionCall → ReportHistory
  | .emit diagnostic => { history with session := history.session.emit diagnostic }
  | .check program =>
      { session := (history.session.check program).2
        displayed := history.displayedAfterCheck program }
  | .extract program => { history with session := (history.session.extract program).2 }
  | .process program =>
      { session := (history.session.process program).2
        displayed := history.displayedAfterCheck program }
  | .flush => { session := history.session.flush.2 }
  | .display =>
      { session := history.session.display
        displayed := history.displayed ++ history.pending }

/-- The history of a new session after some calls. -/
def ofCalls (configuration : Configuration) (calls : List SessionCall) : ReportHistory :=
  calls.foldl after { session := .start configuration }

/-- The flag says whether an error waits. -/
def FlagIsAccurate (history : ReportHistory) : Prop :=
  history.session.reporter.hasErrors = true ↔
    ∃ diagnostic ∈ history.pending, diagnostic.isError = true

/-! ## What the flag is about -/

/-- An extraction leaves flag and counter about what was displayed and what waits. -/
theorem counts_extract
    {session : Session}
    {displayed : List Diagnostic}
    (counts : session.reporter.Counts displayed)
    (program : Program) :
    (session.extract program).2.reporter.Counts displayed := by
  rcases session.extract_cases program with ⟨_, after, extracted, _, outcome⟩
  rw [extracted]
  rcases outcome with ⟨error, _, _, reported⟩ | ⟨_, kept⟩
  · rw [reported]
    exact counts.push error.toDiagnostic
  · rw [kept]
    exact counts

/--
Each call leaves flag and counter about what was displayed and what waits. If processing fails at the check
then the diagnostics come back to an empty queue, so the flag is about them alone.
-/
theorem counts_after
    {history : ReportHistory}
    (counts : history.session.reporter.Counts history.displayed)
    (call : SessionCall) :
    (history.after call).session.reporter.Counts (history.after call).displayed := by
  cases call with
  | emit diagnostic => exact counts.push diagnostic
  | check program =>
      rcases history.session.check_cases program with ⟨diagnostics, after, _, _, outcome⟩
      rcases outcome with ⟨_, checked, emptied⟩ | ⟨_, checked, pushed⟩
      · simp only [ReportHistory.after, displayedAfterCheck, checked, emptied]
        exact DiagnosticQueue.counts_flush _
      · simp only [ReportHistory.after, displayedAfterCheck, checked, pushed]
        exact counts.pushAll diagnostics
  | extract program => exact counts_extract counts program
  | process program =>
      rcases history.session.process_cases program with ⟨diagnostics, after, _, _, outcome⟩
      rcases outcome with ⟨_, checked, processed, putBack⟩ | ⟨_, checked, pushed, processed⟩
      · simp only [ReportHistory.after, displayedAfterCheck, checked, processed, putBack]
        exact (DiagnosticQueue.counts_flush _).pushAll _
      · simp only [ReportHistory.after, displayedAfterCheck, checked, processed]
        apply counts_extract
        rw [pushed]
        exact counts.pushAll diagnostics
  | flush => exact DiagnosticQueue.counts_flush _
  | display => exact counts.display

theorem counts_foldl
    {history : ReportHistory}
    (counts : history.session.reporter.Counts history.displayed)
    (calls : List SessionCall) :
    (calls.foldl after history).session.reporter.Counts (calls.foldl after history).displayed := by
  induction calls generalizing history with
  | nil => exact counts
  | cons call rest hypothesis => exact hypothesis (counts_after counts call)

/-- After any calls flag and counter are about what was displayed and what waits. -/
theorem counts_ofCalls
    (configuration : Configuration)
    (calls : List SessionCall) :
    (ofCalls configuration calls).session.reporter.Counts
      (ofCalls configuration calls).displayed :=
  counts_foldl ⟨rfl, rfl⟩ calls

/--
What the flag of a session is about, whatever was called: it says whether an error was displayed or waits,
among the diagnostics that came in since the queue was last taken over. So it says whether an error waits
exactly if no error was displayed, or another one waits.
-/
theorem flag_ofCalls
    (configuration : Configuration)
    (calls : List SessionCall) :
    ((ofCalls configuration calls).session.reporter.hasErrors = true ↔
        ∃ diagnostic ∈
            (ofCalls configuration calls).displayed ++ (ofCalls configuration calls).pending,
          diagnostic.isError = true) ∧
      ((ofCalls configuration calls).FlagIsAccurate ↔
        ((∃ diagnostic ∈ (ofCalls configuration calls).displayed, diagnostic.isError = true) →
          ∃ diagnostic ∈ (ofCalls configuration calls).pending, diagnostic.isError = true)) := by
  have about :
      (ofCalls configuration calls).session.reporter.hasErrors = true ↔
        ∃ diagnostic ∈
            (ofCalls configuration calls).displayed ++ (ofCalls configuration calls).pending,
          diagnostic.isError = true := by
    rw [(counts_ofCalls configuration calls).flag, List.any_eq_true]
    rfl
  refine ⟨about, ?_⟩
  rw [FlagIsAccurate, about]
  simp only [List.mem_append, or_and_right, exists_or]
  constructor
  · intro accurate displayed
    exact accurate.mp (Or.inl displayed)
  · intro covered
    exact ⟨Or.rec covered id, Or.inr⟩

/-- An error that is displayed leaves the flag set, though nothing waits. -/
theorem flag_of_displayed_error :
    let history :=
      ofCalls {} [.emit { severity := .error, message := "bad" }, .display]
    history.session.reporter.hasErrors = true ∧
      history.pending = [] ∧
      ¬ history.FlagIsAccurate := by
  refine ⟨rfl, rfl, ?_⟩
  intro accurate
  rcases accurate.mp rfl with ⟨_, waits, _⟩
  cases waits

end ReportHistory

end SynthesisHoles
