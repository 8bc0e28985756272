import SynthesisHoles.Proofs.Scope.LexicalScoping
import SynthesisHoles.Session

/-!
# What the steps of a session do

A step is described by its answer and by the queue it leaves. A check always answers, since resolution
meets no fault: it pushes what resolution finds, and if the queue has errors then, the whole queue is the
answer and an empty one stays. An extraction leaves the queue as it is, but for the report of a program
that is rejected. Processing is a check and an extraction, or a check whose answer goes back to the queue.
-/

namespace SynthesisHoles

namespace Session

/-- A check answers with all the diagnostics, those it found at the end, or keeps them in the queue. -/
theorem check_cases
    (session : Session)
    (program : Program) :
    ∃ diagnostics after,
      program.resolve session.configuration.reportShadowing = .ok diagnostics ∧
        after.configuration = session.configuration ∧
        (((session.reporter.pushAll diagnostics).hasErrors = true ∧
            session.check program = (.ok (.error (session.reporter.pushAll diagnostics)), after) ∧
            after.reporter = (session.reporter.pushAll diagnostics).flush.2) ∨
          ((session.reporter.pushAll diagnostics).hasErrors = false ∧
            session.check program = (.ok (.ok ()), after) ∧
            after.reporter = session.reporter.pushAll diagnostics)) := by
  rcases program.resolve_succeeds session.configuration.reportShadowing with
    ⟨diagnostics, found⟩
  refine ⟨diagnostics, (session.check program).2, found, ?_⟩
  rw [check, configuration_progress, found]
  simp only [emitAll, reporter_progress]
  cases flag : (session.reporter.pushAll diagnostics).hasErrors with
  | true => simp [flush, DiagnosticQueue.flush]
  | false => simp

/-- An extraction leaves the queue as it is, unless the program is rejected. -/
theorem extract_cases
    (session : Session)
    (program : Program) :
    ∃ answer after,
      session.extract program = (answer, after) ∧
        after.configuration = session.configuration ∧
        ((∃ error,
            program.replaceLiterals session.configuration.firstHole =
                .error (.rejected error) ∧
              answer = .ok (.error (.extraction error)) ∧
              after.reporter = session.reporter.push error.toDiagnostic) ∨
          ((∀ error, answer ≠ .ok (.error error)) ∧ after.reporter = session.reporter)) := by
  refine ⟨(session.extract program).1, (session.extract program).2, rfl, ?_⟩
  rw [extract, configuration_progress]
  cases outcome : program.replaceLiterals session.configuration.firstHole with
  | error failure =>
      cases failure with
      | fault fault => simp
      | rejected error => simp [emit]
  | ok result => simp

/-- Processing is an extraction after a check, or a check whose diagnostics are put back. -/
theorem process_cases
    (session : Session)
    (program : Program) :
    ∃ diagnostics after,
      program.resolve session.configuration.reportShadowing = .ok diagnostics ∧
        after.configuration = session.configuration ∧
        (((session.reporter.pushAll diagnostics).hasErrors = true ∧
            (session.check program).1 = .ok (.error (session.reporter.pushAll diagnostics)) ∧
            session.process program =
              (.ok (.error (.scoping (session.reporter.pushAll diagnostics).size)), after) ∧
            after.reporter =
              (session.reporter.pushAll diagnostics).flush.2.pushAll
                (session.reporter.pushAll diagnostics).pending) ∨
          ((session.reporter.pushAll diagnostics).hasErrors = false ∧
            session.check program = (.ok (.ok ()), after) ∧
            after.reporter = session.reporter.pushAll diagnostics ∧
            session.process program = after.extract program)) := by
  rcases session.check_cases program with ⟨diagnostics, after, found, kept, outcome⟩
  rcases outcome with ⟨flag, checked, emptied⟩ | ⟨flag, checked, pushed⟩
  · refine ⟨diagnostics, after.emitAll (session.reporter.pushAll diagnostics).pending, found,
      kept, Or.inl ⟨flag, congrArg Prod.fst checked, ?_, ?_⟩⟩
    · rw [process, checked]
    · rw [emitAll, emptied]
  · refine ⟨diagnostics, after, found, kept, Or.inr ⟨flag, checked, pushed, ?_⟩⟩
    rw [process, checked]

end Session

end SynthesisHoles
