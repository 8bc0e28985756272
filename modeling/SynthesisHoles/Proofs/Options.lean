import SynthesisHoles.Proofs.Processing
import SynthesisHoles.Proofs.Scope.Warnings

/-!
# Options that only concern reports

Of the choices of the user, the first index decides what is extracted. The others are for reports: the
name of the file, warnings about hidden variables, and progress. What a new session answers is said here
without them: a check passes if resolution without warnings finds nothing, and then processing gives what
extraction from the first index gives.

The main statement compares two new sessions that differ in the options for reports.
-/

namespace SynthesisHoles

/-! ## One session -/

namespace Session

/-- The diagnostics of a check: those of the answer if it fails, and those that wait if it passes. -/
def checkReports (session : Session) (program : Program) : List Diagnostic :=
  match (session.check program).1 with
  | .ok (.error flushed) => flushed.pending
  | _ => (session.check program).2.reporter.pending

/-- A check reports what resolution finds, behind what waited before. -/
theorem checkReports_eq
    {session : Session}
    {program : Program}
    {found : List Diagnostic}
    (resolved : program.resolve session.configuration.reportShadowing = .ok found) :
    session.checkReports program = session.reporter.pending ++ found := by
  rcases session.check_cases program with ⟨diagnostics, after, same, _, outcome⟩
  rw [resolved, Except.ok.injEq] at same
  subst same
  rw [checkReports]
  rcases outcome with ⟨_, failed, _⟩ | ⟨_, passed, pushed⟩
  · rw [failed]
    simp only [DiagnosticQueue.pushAll_eq]
  · rw [passed]
    simp only [pushed, DiagnosticQueue.pushAll_eq]

/-- Extraction after a passed check gives what extraction gives by itself, or an index does not fit. -/
theorem extract_of_check
    {session after : Session}
    {program : Program}
    (passed : session.check program = (.ok (.ok ()), after)) :
    (∃ result,
        program.replaceLiterals after.configuration.firstHole = .ok result ∧
          (after.extract program).1 = .ok (.ok result)) ∨
      (program.replaceLiterals after.configuration.firstHole = .error (.fault .indexOverflow) ∧
        (after.extract program).1 = .error .indexOverflow) := by
  have valid := Program.valid_of_check passed
  rw [extract, configuration_progress]
  cases outcome : program.replaceLiterals after.configuration.firstHole with
  | ok result => exact Or.inl ⟨result, rfl, rfl⟩
  | error failure =>
      cases Program.overflow_of_replaceLiterals valid outcome
      exact Or.inr ⟨rfl, rfl⟩

/-! ## A new session -/

section New

variable {configuration : Configuration} {program : Program} {found : List Diagnostic}

/-- The first diagnostics of a session set the flag if there is an error among them. -/
theorem hasErrors_pushAll_start
    (configuration : Configuration)
    (found : List Diagnostic) :
    ((start configuration).reporter.pushAll found).hasErrors = found.any Diagnostic.isError := by
  rw [DiagnosticQueue.hasErrors_pushAll]
  exact Bool.false_or _

/-- If there is an error among what resolution finds, a check and processing fail. -/
theorem start_of_errors
    (resolved : program.resolve configuration.reportShadowing = .ok found)
    (errors : errorsAmong found ≠ []) :
    (∃ flushed, ((start configuration).check program).1 = .ok (.error flushed)) ∧
      ∃ count, ((start configuration).process program).1 = .ok (.error (.scoping count)) := by
  rcases (start configuration).process_cases program with ⟨diagnostics, _, same, _, outcome⟩
  cases resolved.symm.trans same
  rcases outcome with ⟨_, failed, processed, _⟩ | ⟨quiet, _⟩
  · exact ⟨⟨_, failed⟩, _, congrArg Prod.fst processed⟩
  · rw [hasErrors_pushAll_start, ← errorsAmong_eq_nil_iff] at quiet
    exact absurd quiet errors

/-- If there is none, a check passes, and processing gives what extraction from the first index gives. -/
theorem start_of_no_errors
    (resolved : program.resolve configuration.reportShadowing = .ok found)
    (noError : errorsAmong found = []) :
    ((start configuration).check program).1 = .ok (.ok ()) ∧
      ((∃ result,
          program.replaceLiterals configuration.firstHole = .ok result ∧
            ((start configuration).process program).1 = .ok (.ok result)) ∨
        (program.replaceLiterals configuration.firstHole = .error (.fault .indexOverflow) ∧
          ((start configuration).process program).1 = .error .indexOverflow)) := by
  rcases (start configuration).process_cases program with ⟨diagnostics, after, same, kept, outcome⟩
  cases resolved.symm.trans same
  rcases outcome with ⟨flag, _⟩ | ⟨_, passed, _, processed⟩
  · rw [hasErrors_pushAll_start, (errorsAmong_eq_nil_iff found).mp noError] at flag
    cases flag
  · have extracted := extract_of_check passed
    rw [kept] at extracted
    rw [passed, processed]
    exact ⟨rfl, extracted⟩

end New

/-! ## Two new sessions -/

/-- Two sessions give the same errors, verdict and result for a program. -/
structure AnswerAlike (left right : Session) (program : Program) : Prop where
  resolution :
    ∃ leftFound rightFound,
      program.resolve left.configuration.reportShadowing = .ok leftFound ∧
        program.resolve right.configuration.reportShadowing = .ok rightFound ∧
        errorsAmong leftFound = errorsAmong rightFound
  errors : errorsAmong (left.checkReports program) = errorsAmong (right.checkReports program)
  check :
    ((left.check program).1 = .ok (.ok ()) ∧ (right.check program).1 = .ok (.ok ())) ∨
      ∃ leftFlushed rightFlushed,
        (left.check program).1 = .ok (.error leftFlushed) ∧
          (right.check program).1 = .ok (.error rightFlushed)
  process :
    (∃ replaced table,
        (left.process program).1 = .ok (.ok (replaced, table)) ∧
          (right.process program).1 = .ok (.ok (replaced, table))) ∨
      (∃ leftFailure rightFailure,
        (left.process program).1 = .ok (.error leftFailure) ∧
          (right.process program).1 = .ok (.error rightFailure)) ∨
      ((left.process program).1 = .error .indexOverflow ∧
        (right.process program).1 = .error .indexOverflow)

/-- Without warnings about hidden variables, the first check of a session reports errors only. -/
theorem isError_of_mem_checkReports
    {configuration : Configuration}
    (unwanted : configuration.reportShadowing = false)
    (program : Program) :
    ∀ diagnostic ∈ (start configuration).checkReports program, diagnostic.isError = true := by
  rcases program.errorsAmong_resolve false with ⟨found, resolved, same⟩
  have kept : errorsAmong found = found := Except.ok.inj (same.symm.trans resolved)
  rw [← unwanted] at resolved
  rw [checkReports_eq resolved]
  exact isError_of_errorsAmong_eq kept

/-- Two new sessions with the same first index answer alike. -/
theorem answerAlike_of_resolve
    {left right : Configuration}
    {program : Program}
    {leftFound rightFound : List Diagnostic}
    (sameFirst : left.firstHole = right.firstHole)
    (inLeft : program.resolve left.reportShadowing = .ok leftFound)
    (inRight : program.resolve right.reportShadowing = .ok rightFound)
    (sameErrors : errorsAmong leftFound = errorsAmong rightFound) :
    (start left).AnswerAlike (start right) program := by
  have resolution :
      ∃ leftFound rightFound,
        program.resolve (start left).configuration.reportShadowing = .ok leftFound ∧
          program.resolve (start right).configuration.reportShadowing = .ok rightFound ∧
          errorsAmong leftFound = errorsAmong rightFound :=
    ⟨leftFound, rightFound, inLeft, inRight, sameErrors⟩
  have errors :
      errorsAmong ((start left).checkReports program) =
        errorsAmong ((start right).checkReports program) := by
    rw [checkReports_eq inLeft, checkReports_eq inRight]
    exact sameErrors
  by_cases noError : errorsAmong leftFound = []
  · rcases start_of_no_errors inLeft noError with ⟨leftPasses, leftOutcome⟩
    rcases start_of_no_errors inRight (sameErrors.symm.trans noError) with
      ⟨rightPasses, rightOutcome⟩
    rw [← sameFirst] at rightOutcome
    refine ⟨resolution, errors, Or.inl ⟨leftPasses, rightPasses⟩, ?_⟩
    rcases leftOutcome with ⟨⟨replaced, table⟩, extracted, processed⟩ | ⟨failed, processed⟩
    · rw [extracted] at rightOutcome
      rcases rightOutcome with ⟨result, same, rightProcessed⟩ | ⟨same, _⟩
      · cases same
        exact Or.inl ⟨replaced, table, processed, rightProcessed⟩
      · cases same
    · rw [failed] at rightOutcome
      rcases rightOutcome with ⟨result, same, _⟩ | ⟨_, rightProcessed⟩
      · cases same
      · exact Or.inr (Or.inr ⟨processed, rightProcessed⟩)
  · have someError : errorsAmong rightFound ≠ [] := by
      rw [← sameErrors]
      exact noError
    rcases start_of_errors inLeft noError with ⟨⟨leftFlushed, leftFails⟩, _, leftProcessed⟩
    rcases start_of_errors inRight someError with ⟨⟨rightFlushed, rightFails⟩, _, rightProcessed⟩
    exact
      ⟨resolution, errors, Or.inr ⟨leftFlushed, rightFlushed, leftFails, rightFails⟩,
        Or.inr (Or.inl ⟨_, _, leftProcessed, rightProcessed⟩)⟩

/--
The options for reports do not influence results. Take two new sessions with the same first index, and any
names of files, with or without warnings about hidden variables, and with or without progress reports. A
check reports the same errors in the same order and passes in both or fails in both. Without the warnings
it reports nothing else. Processing gives the same program and the same table in both, or fails in both, or
meets an index in both that does not fit.
-/
theorem start_answerAlike
    (left right : Configuration)
    (sameFirst : left.firstHole = right.firstHole)
    (program : Program) :
    (start left).AnswerAlike (start right) program ∧
      (left.reportShadowing = false →
        ∀ diagnostic ∈ (start left).checkReports program, diagnostic.isError = true) ∧
      (right.reportShadowing = false →
        ∀ diagnostic ∈ (start right).checkReports program, diagnostic.isError = true) := by
  rcases program.errorsAmong_resolve left.reportShadowing with ⟨leftFound, inLeft, leftErrors⟩
  rcases program.errorsAmong_resolve right.reportShadowing with
    ⟨rightFound, inRight, rightErrors⟩
  have sameErrors : errorsAmong leftFound = errorsAmong rightFound :=
    Except.ok.inj (leftErrors.symm.trans rightErrors)
  refine ⟨answerAlike_of_resolve sameFirst inLeft inRight sameErrors, ?_, ?_⟩
  · intro unwanted
    exact isError_of_mem_checkReports unwanted program
  · intro unwanted
    exact isError_of_mem_checkReports unwanted program

end Session

namespace Samples

/-- Hides its parameter by a declaration, and uses a variable that is not visible. -/
def hiddenParameter : Program :=
  single "main" [⟨"x", .bit⟩] .void
    [ declare 2 .int "x" (integer 1),
      .assertion 3 (binary (.var "x") "<" (.var "y")) ]

/-- The warning about the hidden parameter stands before the error. -/
example :
    ((Session.start { reportShadowing := true }).checkReports hiddenParameter).map
        Diagnostic.severity =
      [.warning, .error] :=
  rfl

/-- The program once without and once with all the options for reports. -/
theorem hiddenParameter_answerAlike :
    ({} : Configuration).firstHole =
        ({ filename := some "main.c", reportShadowing := true, verbose := true } :
          Configuration).firstHole ∧
      (Session.start {}).AnswerAlike
        (Session.start { filename := some "main.c", reportShadowing := true, verbose := true })
        hiddenParameter ∧
      ∀ diagnostic ∈ (Session.start {}).checkReports hiddenParameter, diagnostic.isError = true := by
  have answers :=
    Session.start_answerAlike {}
      { filename := some "main.c", reportShadowing := true, verbose := true } rfl hiddenParameter
  exact ⟨rfl, answers.1, answers.2.1 rfl⟩

end Samples

end SynthesisHoles
