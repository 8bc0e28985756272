import SynthesisHoles.Proofs.MalformedLoops
import SynthesisHoles.Proofs.Scope.Findings
import SynthesisHoles.Proofs.Steps

/-!
# What processing leaves in the queue

A check that fails takes the whole queue over, and processing puts the diagnostics back one by one. The
main statement says that nothing is lost on this way, from whatever state: what waits afterwards is what
waited before and then what resolution found, and the flag and the counter of the queue are about just
these. No hole is extracted then. If the check passes, the same diagnostics wait, and those that resolution
found are warnings.
-/

namespace SynthesisHoles

/-! ## Queues -/

namespace DiagnosticQueue

/-- The queue in which some diagnostics wait and none was displayed. -/
def holding (subject : String) (diagnostics : List Diagnostic) : DiagnosticQueue where
  subject := subject
  pending := diagnostics
  hasErrors := diagnostics.any Diagnostic.isError
  errorCount := diagnostics.countP Diagnostic.isError

/-- Diagnostics that come in wait behind the others and are counted. -/
theorem pushAll_eq
    (queue : DiagnosticQueue)
    (diagnostics : List Diagnostic) :
    queue.pushAll diagnostics =
      { queue with
        pending := queue.pending ++ diagnostics
        hasErrors := queue.hasErrors || diagnostics.any Diagnostic.isError
        errorCount := queue.errorCount + diagnostics.countP Diagnostic.isError } := by
  induction diagnostics generalizing queue with
  | nil => simp [pushAll]
  | cons first rest hypothesis =>
      have pushed : queue.pushAll (first :: rest) = (queue.push first).pushAll rest := rfl
      rw [pushed, hypothesis, push, List.any_cons, List.countP_cons]
      cases first.isError with
      | false => simp
      | true => simp [Nat.add_assoc, Nat.add_comm 1]

/-- To put diagnostics into an emptied queue leaves nothing of what was before. -/
theorem pushAll_flush
    (queue : DiagnosticQueue)
    (diagnostics : List Diagnostic) :
    queue.flush.2.pushAll diagnostics = holding queue.subject diagnostics := by
  rw [pushAll_eq, flush, holding]
  simp

/-- The flag of the queue says whether the counter counts anything. -/
theorem hasErrors_holding_iff
    (subject : String)
    (diagnostics : List Diagnostic) :
    (holding subject diagnostics).hasErrors = true ↔
      0 < (holding subject diagnostics).errorCount := by
  rw [holding, List.any_eq_true, List.countP_pos_iff]

end DiagnosticQueue

/-! ## Sessions -/

namespace Session

/-- Extraction from a program of valid functions reports nothing. -/
theorem reporter_extract_of_valid
    {program : Program}
    (valid : ∀ definition ∈ program.functions, definition.body.validate = .ok ())
    (session : Session) :
    (session.extract program).2.reporter = session.reporter := by
  rcases session.extract_cases program with ⟨_, after, extracted, _, outcome⟩
  rcases outcome with ⟨error, rejected, _, _⟩ | ⟨_, kept⟩
  · exact absurd rejected (Program.replaceLiterals_ne_rejected valid _ error)
  · rw [extracted, kept]

/--
Processing loses no diagnostics, whatever was reported, displayed or taken over before. Let the resolution
of the program find some diagnostics. If the check fails, processing ends with the session after the check,
but for the queue: there, what waited before waits again and what was found waits behind it, the counter
counts the errors among these, and the flag says whether there are any. If the check passes, the same
diagnostics wait, before and after the extraction that follows, and what was found are warnings.
-/
theorem process_keeps_diagnostics
    (session : Session)
    (program : Program) :
    ∃ found checked,
      program.resolve session.configuration.reportShadowing = .ok found ∧
        ((∃ flushed after,
            session.check program = (.ok (.error flushed), checked) ∧
              session.process program = (.ok (.error (.scoping flushed.size)), after) ∧
              after = { checked with reporter := after.reporter } ∧
              after.reporter.pending = session.reporter.pending ++ found ∧
              after.reporter.errorCount = after.reporter.pending.countP Diagnostic.isError ∧
              (after.reporter.hasErrors = true ↔ 0 < after.reporter.errorCount)) ∨
          (session.check program = (.ok (.ok ()), checked) ∧
            session.process program = checked.extract program ∧
            checked.reporter.pending = session.reporter.pending ++ found ∧
            (session.process program).2.reporter.pending = session.reporter.pending ++ found ∧
            ∀ diagnostic ∈ found, diagnostic.severity = .warning)) := by
  rcases session.check_cases program with ⟨found, checked, resolved, _, outcome⟩
  refine ⟨found, checked, resolved, ?_⟩
  rcases outcome with ⟨_, failed, emptied⟩ | ⟨quiet, passed, pushed⟩
  · refine
      Or.inl
        ⟨_, checked.emitAll (session.reporter.pushAll found).pending, failed, ?_, rfl, ?_⟩
    · rw [process, failed]
    · rw [emitAll, emptied, DiagnosticQueue.pushAll_flush, DiagnosticQueue.pushAll_eq]
      exact ⟨rfl, rfl, DiagnosticQueue.hasErrors_holding_iff _ _⟩
  · have processed : session.process program = checked.extract program := by
      rw [process, passed]
    have pending : checked.reporter.pending = session.reporter.pending ++ found := by
      rw [pushed, DiagnosticQueue.pushAll_eq]
    refine Or.inr ⟨passed, processed, pending, ?_, ?_⟩
    · rw [processed, reporter_extract_of_valid (Program.valid_of_check passed), pending]
    · intro diagnostic member
      rw [DiagnosticQueue.hasErrors_pushAll, Bool.or_eq_false_iff] at quiet
      have harmless := Bool.eq_false_iff.mpr (List.any_eq_false.mp quiet.2 diagnostic member)
      exact (Program.isFinding_of_mem resolved diagnostic member).severity_of_not_isError harmless

/-- An error displayed before makes the check of the empty program fail, with nothing to put back. -/
example :
    let displayed := ((start {}).emit { severity := .error, message := "bad" }).display
    (displayed.process {}).1 = .ok (.error (.scoping 0)) ∧
      (displayed.process {}).2.reporter.hasErrors = false ∧
      (displayed.process {}).2.reporter.errorCount = 0 :=
  ⟨rfl, rfl, rfl⟩

end Session

end SynthesisHoles
