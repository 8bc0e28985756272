import SynthesisHoles.Proofs.Options
import SynthesisHoles.Proofs.Text.Numerals

/-!
# The number in the message of a failed check

Processing that fails at the check says how many scoping errors were found. The number is that of all the
diagnostics which the check hands over, and warnings about hidden variables are among these if they are
wanted. The counter of the queue counts the errors only.

The main statement says for a new session what the message and the counter give, and that they agree exactly
if resolution warns of nothing. They do not agree for a program with a warning and an error.
-/

namespace SynthesisHoles

/-! ## The message -/

theorem StepFailure.text_scoping (count : Nat) :
    (StepFailure.scoping count).text = "found " ++ toString count ++ " scoping errors" :=
  rfl

/-- The message of a failed check tells its number, and no other failure has such a message. -/
theorem StepFailure.text_eq_iff (failure : StepFailure) (count : Nat) :
    failure.text = "found " ++ toString count ++ " scoping errors" ↔
      failure = .scoping count := by
  cases failure with
  | scoping other =>
      rw [text_scoping, String.append_left_inj, String.append_right_inj,
        StepFailure.scoping.injEq]
      exact Text.toString_natural_inj
  | extraction error =>
      constructor
      · intro same
        rw [← String.toList_inj] at same
        simp [text, causes] at same
      · intro same
        cases same

/-! ## Warnings among what is counted -/

/-- The errors are all that was found exactly if there is no warning. -/
theorem length_errorsAmong_eq_iff
    {found : List Diagnostic}
    (findings : ∀ diagnostic ∈ found, diagnostic.IsFinding) :
    found.length = (errorsAmong found).length ↔
      ∀ diagnostic ∈ found, diagnostic.severity ≠ .warning := by
  rw [eq_comm, errorsAmong, List.length_filter_eq_length_iff]
  constructor
  · intro errors diagnostic member warning
    have error := errors diagnostic member
    rw [Diagnostic.isError, warning] at error
    cases error
  · intro quiet diagnostic member
    by_contra harmless
    rw [Bool.not_eq_true] at harmless
    exact quiet diagnostic member ((findings diagnostic member).severity_of_not_isError harmless)

/-- Without the wish for warnings, all that resolution finds are errors. -/
theorem Program.errorsAmong_eq_of_resolve
    {program : Program}
    {found : List Diagnostic}
    (resolved : program.resolve false = .ok found) :
    errorsAmong found = found := by
  rcases program.errorsAmong_resolve false with ⟨same, first, second⟩
  cases resolved.symm.trans first
  exact Except.ok.inj (second.symm.trans first)

/-! ## A new session -/

namespace Session

section New

variable {configuration : Configuration} {program : Program} {found : List Diagnostic}

/-- After a new session has processed a program, the counter is the number of errors in the program. -/
theorem errorCount_start_process
    (resolved : program.resolve configuration.reportShadowing = .ok found) :
    ((start configuration).process program).2.reporter.errorCount = (errorsAmong found).length := by
  have fresh : (start configuration).reporter.errorCount = 0 := rfl
  rcases (start configuration).process_cases program with ⟨same, checked, first, _, outcome⟩
  cases resolved.symm.trans first
  rw [errorsAmong, ← List.countP_eq_length_filter]
  rcases outcome with ⟨_, _, processed, putBack⟩ | ⟨_, passed, pushed, processed⟩
  · rw [processed]
    show checked.reporter.errorCount = _
    rw [putBack, DiagnosticQueue.pushAll_flush, DiagnosticQueue.pushAll_eq]
    rfl
  · rw [processed, reporter_extract_of_valid (Program.valid_of_check passed), pushed,
      DiagnosticQueue.pushAll_eq]
    simp only [fresh, Nat.zero_add]

/-- Processing fails with some count exactly if there is an error, and it counts all that was found. -/
theorem start_process_eq_error_iff
    (resolved : program.resolve configuration.reportShadowing = .ok found)
    (failure : StepFailure) :
    ((start configuration).process program).1 = .ok (.error failure) ↔
      errorsAmong found ≠ [] ∧ failure = .scoping found.length := by
  by_cases noError : errorsAmong found = []
  · rcases start_of_no_errors resolved noError with ⟨_, ⟨result, _, processed⟩ | ⟨_, processed⟩⟩
    · simp [processed, noError]
    · simp [processed, noError]
  · rcases (start configuration).process_cases program with ⟨same, checked, first, _, outcome⟩
    cases resolved.symm.trans first
    rcases outcome with ⟨_, _, processed, _⟩ | ⟨quiet, _⟩
    · have size : ((start configuration).reporter.pushAll found).size = found.length := by
        rw [DiagnosticQueue.pushAll_eq, DiagnosticQueue.size]
        rfl
      rw [processed, size, Except.ok.injEq, Except.error.injEq, eq_comm]
      exact (and_iff_right noError).symm
    · rw [hasErrors_pushAll_start, ← errorsAmong_eq_nil_iff] at quiet
      exact absurd quiet noError

end New

/--
The message and the counter of a new session that processes a program. Let resolution find some diagnostics.
Afterwards the counter is the number of errors among these. Processing fails with the message that some
number of scoping errors was found exactly if there is an error, and the number is that of all that was
found. So it is the number of errors exactly if there is no warning among what was found, and this is so
whenever warnings are not wanted.
-/
theorem start_process_count
    (configuration : Configuration)
    (program : Program) :
    ∃ found,
      program.resolve configuration.reportShadowing = .ok found ∧
        ((start configuration).process program).2.reporter.errorCount =
          (errorsAmong found).length ∧
        (∀ count,
          (∃ failure,
              ((start configuration).process program).1 = .ok (.error failure) ∧
                failure.text = "found " ++ toString count ++ " scoping errors") ↔
            errorsAmong found ≠ [] ∧ count = found.length) ∧
        (found.length = (errorsAmong found).length ↔
          ∀ diagnostic ∈ found, diagnostic.severity ≠ .warning) ∧
        (configuration.reportShadowing = false → found.length = (errorsAmong found).length) := by
  rcases program.resolve_succeeds configuration.reportShadowing with ⟨found, resolved⟩
  refine
    ⟨found, resolved, errorCount_start_process resolved, ?_,
      length_errorsAmong_eq_iff (Program.isFinding_of_mem resolved), ?_⟩
  · intro count
    constructor
    · rintro ⟨failure, failed, text⟩
      rcases (start_process_eq_error_iff resolved failure).mp failed with ⟨someError, same⟩
      rw [StepFailure.text_eq_iff, same, StepFailure.scoping.injEq] at text
      exact ⟨someError, text.symm⟩
    · rintro ⟨someError, rfl⟩
      refine ⟨.scoping found.length, ?_, StepFailure.text_scoping _⟩
      exact (start_process_eq_error_iff resolved _).mpr ⟨someError, rfl⟩
  · intro unwanted
    rw [unwanted] at resolved
    rw [Program.errorsAmong_eq_of_resolve resolved]

end Session

namespace Samples

/--
A warning and an error are found in the function that hides its parameter. The message speaks of two errors,
while resolution finds one and the counter says so.
-/
theorem hiddenParameter_process_count :
    ((Session.start { reportShadowing := true }).process hiddenParameter).1 =
        .ok (.error (.scoping 2)) ∧
      (StepFailure.scoping 2).text = "found 2 scoping errors" ∧
      (∃ found, hiddenParameter.resolve true = .ok found ∧ (errorsAmong found).length = 1) ∧
      ((Session.start { reportShadowing := true }).process hiddenParameter).2.reporter.errorCount =
        1 :=
  ⟨rfl, rfl, ⟨_, rfl, rfl⟩, rfl⟩

end Samples

end SynthesisHoles
