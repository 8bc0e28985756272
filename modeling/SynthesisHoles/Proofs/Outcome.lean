import SynthesisHoles.Failure

/-!
# Steps of computations that can fail

A walk over a tree is a chain of steps, and the first step that fails is the outcome of the walk. The
laws of one step are stated here once, so that the proofs about walks open a chain from its front and
never look at the way in which steps are joined.
-/

namespace SynthesisHoles

variable {Error Value Result : Type}

/-! ## One step -/

@[simp]
theorem pure_eq_ok (value : Value) :
    (pure value : Except Error Value) = .ok value :=
  rfl

@[simp]
theorem ok_bind
    (value : Value)
    (next : Value → Except Error Result) :
    (Except.ok value >>= next) = next value :=
  rfl

@[simp]
theorem error_bind
    (error : Error)
    (next : Value → Except Error Result) :
    (Except.error error >>= next) = .error error :=
  rfl

@[simp]
theorem throw_eq_error (error : Error) :
    (throw error : Except Error Value) = .error error :=
  rfl

/-- A chain succeeds with what its rest makes of the value of its first step. -/
theorem bind_eq_ok_iff
    (first : Except Error Value)
    (next : Value → Except Error Result)
    (result : Result) :
    (first >>= next) = .ok result ↔
      ∃ value, first = .ok value ∧ next value = .ok result := by
  cases first with
  | error error => simp
  | ok value => simp

/-- A chain fails at its first step or in its rest. -/
theorem bind_eq_error_iff
    (first : Except Error Value)
    (next : Value → Except Error Result)
    (error : Error) :
    (first >>= next) = .error error ↔
      first = .error error ∨ ∃ value, first = .ok value ∧ next value = .error error := by
  cases first with
  | error refused => simp
  | ok value => simp

/-! ## Steps with fewer ways to fail -/

@[simp]
theorem liftM_ok_of_fault (value : Value) :
    (liftM (Except.ok value : Except Fault Value) : Except Failure Value) = .ok value :=
  rfl

@[simp]
theorem liftM_error_of_fault (fault : Fault) :
    (liftM (Except.error fault : Except Fault Value) : Except Failure Value) =
      .error (.fault fault) :=
  rfl

@[simp]
theorem liftM_ok_of_rejection (value : Value) :
    (liftM (Except.ok value : Except ProgramError Value) : Except Failure Value) = .ok value :=
  rfl

@[simp]
theorem liftM_error_of_rejection (error : ProgramError) :
    (liftM (Except.error error : Except ProgramError Value) : Except Failure Value) =
      .error (.rejected error) :=
  rfl

end SynthesisHoles
