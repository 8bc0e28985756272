import SynthesisHoles.Proofs.Hole.Replacement
import SynthesisHoles.Proofs.Tree.FirstMalformedLoop

/-!
# Extraction rejects what validation rejects

Extraction looks at the header of each loop that it comes to, and validation looks at all of them before.
The two are written apart, so it is stated here how an extraction from any tree ends: it follows the
validation of the tree, or the indices do not fit. Extractions from two parts after each other follow the
validation of the one and then of the other, which gives the same for all trees.

The main statement says of statements and blocks that an extraction without an overflow is rejected with just
the error of the validation, which is that of the first malformed loop. So nothing is rejected that was
validated, and an extraction that validates first is never rejected once a hole was recorded.
-/

namespace SynthesisHoles

/-! ## Extractions that follow a validation -/

/--
Outcome of an extraction that comes to some sites in a tree, compared with the validation of the tree. It
records all the sites of a valid tree, or gives the error of the validation, unless the indices of the sites
do not fit.
-/
inductive Follows
    {Value : Type}
    (run : HoleRun)
    (sites : List LiteralSite) :
    Except ProgramError Unit → Except Failure (Value × HoleRun) → Prop
  | accepted (value : Value) : Follows run sites (.ok ()) (.ok (value, run.extended sites))
  | rejected (error : ProgramError) : Follows run sites (.error error) (.error (.rejected error))
  | overflow
      {validation : Except ProgramError Unit}
      (full : ¬ run.HasRoomFor sites.length) :
      Follows run sites validation (.error (.fault .indexOverflow))

namespace Follows

variable
  {First Last : Type}
  {run : HoleRun}
  {left right sites : List LiteralSite}
  {validation others : Except ProgramError Unit}
  {extraction : Except Failure (First × HoleRun)}
  {next : First × HoleRun → Except Failure (Last × HoleRun)}

/-- An extraction with a known outcome follows a validation that succeeds. -/
theorem of_outcome (value : First) :
    Follows run sites (.ok ()) (run.outcome (.fault .indexOverflow) sites value) := by
  rw [HoleRun.outcome]
  split
  next room => exact .accepted value
  next full => exact .overflow full

/-- An extraction from nothing follows a validation that succeeds. -/
theorem nothing (value : First) :
    Follows run [] (.ok ()) (.ok (value, run)) := by
  rw [← HoleRun.outcome_nil value]
  exact .of_outcome value

/-- An extraction that goes on behind some sites is one that comes to these as well. -/
theorem behind
    {rest : Except Failure (Last × HoleRun)}
    (follows : Follows (run.extended left) right validation rest) :
    Follows run (left ++ right) validation rest := by
  cases follows with
  | accepted value =>
      rw [← HoleRun.extended_append]
      exact .accepted value
  | rejected error => exact .rejected error
  | overflow full =>
      apply Follows.overflow
      intro both
      exact full ((run.hasRoomFor_append left right).mp both).2

/-- Two extractions after each other follow two validations after each other. -/
theorem bind
    (first : Follows run left validation extraction)
    (rest :
      ∀ value, Follows (run.extended left) right others (next (value, run.extended left))) :
    Follows run (left ++ right) (validation >>= fun _ => others) (extraction >>= next) := by
  cases first with
  | accepted value => exact (rest value).behind
  | rejected error => exact .rejected error
  | overflow full =>
      apply Follows.overflow
      intro both
      exact full ((run.hasRoomFor_append left right).mp both).1

/-- An extraction from what is always valid leaves the validation to the rest. -/
theorem outcome_bind
    {value : First}
    (rest : Follows (run.extended left) right others (next (value, run.extended left))) :
    Follows run (left ++ right) others
      (run.outcome (.fault .indexOverflow) left value >>= next) := by
  rw [HoleRun.outcome]
  split
  next room => exact rest.behind
  next full =>
    apply Follows.overflow
    intro both
    exact full ((run.hasRoomFor_append left right).mp both).1

/-- An extraction from what is always valid adds nothing to the validation of what is before it. -/
theorem bind_outcome
    {result : First → Last}
    (follows : Follows run left validation extraction)
    (rest :
      ∀ value,
        next (value, run.extended left) =
          (run.extended left).outcome (.fault .indexOverflow) right (result value)) :
    Follows run (left ++ right) validation (extraction >>= next) := by
  have both :
      Follows run (left ++ right) (validation >>= fun _ => .ok ()) (extraction >>= next) := by
    apply follows.bind
    intro value
    rw [rest]
    exact .of_outcome (result value)
  cases validation with
  | error error => exact both
  | ok _ => exact both

/-- To put the value into a larger one changes nothing else. -/
theorem map
    {result : First → Last}
    (follows : Follows run sites validation extraction)
    (same : ∀ value, next (value, run.extended sites) = .ok (result value, run.extended sites)) :
    Follows run sites validation (extraction >>= next) := by
  cases follows with
  | accepted value =>
      rw [ok_bind, same]
      exact .accepted (result value)
  | rejected error => exact .rejected error
  | overflow full => exact .overflow full

/-- A check in front of both counts first in both. -/
theorem check
    (check : Except ProgramError Unit)
    (follows : Follows run sites validation extraction) :
    Follows run sites (check >>= fun _ => validation)
      ((liftM check : Except Failure Unit) >>= fun _ => extraction) := by
  cases check with
  | error error => exact .rejected error
  | ok _ => exact follows

/-- Without an overflow, the extraction is rejected with just the error of the validation. -/
theorem rejected_iff
    (follows : Follows run sites validation extraction)
    (noFault : ∀ fault, extraction ≠ .error (.fault fault))
    (error : ProgramError) :
    extraction = .error (.rejected error) ↔ validation = .error error := by
  cases follows with
  | accepted value => simp
  | rejected other => simp
  | overflow full => exact absurd rfl (noFault .indexOverflow)

/-- There is no overflow if the indices of all the sites fit. -/
theorem ne_fault
    (follows : Follows run sites validation extraction)
    (room : run.HasRoomFor sites.length)
    (fault : Fault) :
    extraction ≠ .error (.fault fault) := by
  cases follows with
  | accepted value => simp
  | rejected error => simp
  | overflow full => exact absurd room full

/-- What is valid is not rejected. -/
theorem ne_rejected
    (follows : Follows run sites (.ok ()) extraction)
    (error : ProgramError) :
    extraction ≠ .error (.rejected error) := by
  cases follows with
  | accepted value => simp
  | overflow full => simp

end Follows

/-! ## Statements and blocks -/

theorem Statement.extract_follows_of_valid
    {statement : Statement}
    (valid : statement.validate = .ok ())
    (run : HoleRun) :
    Follows run statement.sites statement.validate (statement.extract run) := by
  rw [valid, Statement.extract_eq statement run valid]
  exact .of_outcome _

mutual

theorem Statement.extract_follows
    (statement : Statement)
    (run : HoleRun) :
    Follows run statement.sites statement.validate (statement.extract run) := by
  match statement with
  | .block line body =>
      have inBody := Block.extract_follows body run
      rw [Statement.extract]
      exact inBody.map fun _ => rfl
  | .branch line condition consequent alternative =>
      rw [Statement.extract, Expression.extract_eq, HoleRun.liftM_outcome]
      apply Follows.outcome_bind
      apply (Statement.extract_follows consequent _).bind
      intro value
      exact (Statement.extractOption_follows alternative _).map fun _ => rfl
  | .whileLoop line condition body =>
      rw [Statement.extract, Expression.extract_eq, HoleRun.liftM_outcome]
      apply Follows.outcome_bind
      exact (Statement.extractOption_follows body _).map fun _ => rfl
  | .doWhile line body condition =>
      rw [Statement.extract]
      apply (Statement.extractOption_follows body run).bind_outcome
      intro value
      simp only [Expression.extract_eq, HoleRun.liftM_outcome]
      exact HoleRun.outcome_map rfl
  | .forLoop line initial condition update body =>
      rw [Statement.extract]
      apply Follows.check
      apply (Statement.extractOption_follows initial _).bind
      intro value
      simp only [Expression.extractOption_eq, HoleRun.liftM_outcome]
      apply Follows.outcome_bind
      apply (Statement.extractOption_follows update _).bind
      intro value
      exact (Statement.extractOption_follows body _).map fun _ => rfl
  | .declare .. => exact Statement.extract_follows_of_valid rfl run
  | .assign .. => exact Statement.extract_follows_of_valid rfl run
  | .evaluate .. => exact Statement.extract_follows_of_valid rfl run
  | .returnWith .. => exact Statement.extract_follows_of_valid rfl run
  | .assertion .. => exact Statement.extract_follows_of_valid rfl run
  | .breakLoop _ => exact Statement.extract_follows_of_valid rfl run
  | .continueLoop _ => exact Statement.extract_follows_of_valid rfl run
  | .empty _ => exact Statement.extract_follows_of_valid rfl run

theorem Block.extract_follows
    (block : Block)
    (run : HoleRun) :
    Follows run block.sites block.validate (block.extract run) := by
  match block with
  | .mk line statements =>
      have inStatements := Statement.extractList_follows statements run
      rw [Block.extract]
      exact inStatements.map fun _ => rfl

theorem Statement.extractOption_follows
    (statement : Option Statement)
    (run : HoleRun) :
    Follows run (Statement.sitesOfOption statement) (Statement.validateOption statement)
      (Statement.extractOption statement run) := by
  match statement with
  | none => exact .nothing none
  | some statement =>
      have inStatement := Statement.extract_follows statement run
      rw [Statement.extractOption]
      exact inStatement.map fun _ => rfl

theorem Statement.extractList_follows
    (statements : List Statement)
    (run : HoleRun) :
    Follows run (Statement.sitesOfList statements) (Statement.validateList statements)
      (Statement.extractList statements run) := by
  match statements with
  | [] => exact .nothing []
  | first :: rest =>
      rw [Statement.extractList]
      apply (Statement.extract_follows first run).bind
      intro value
      exact (Statement.extractList_follows rest _).map fun _ => rfl

end

/-! ## Rejection -/

/-- A replacement is rejected with just the error of its validation, whatever its index is. -/
theorem replacement_eq_rejected_iff
    {Tree : Type}
    {validation : Except ProgramError Unit}
    {index : Nat}
    {sites : List LiteralSite}
    {numbered : Tree}
    {error : ProgramError} :
    replacement validation index sites numbered = .error (.rejected error) ↔
      validation = .error error := by
  cases validation with
  | error other => simp [replacement]
  | ok _ =>
      rw [replacement, HoleRun.outcome]
      split
      next => simp
      next => simp

/--
Validation and extraction agree on whether a tree is rejected and on the error. A replacement is an
extraction from an empty run that validates the tree first.
-/
structure RejectsAlike
    {Tree : Type}
    (validation : Except ProgramError Unit)
    (placed : List PlacedStatement)
    (sites : List LiteralSite)
    (extraction : HoleRun → Except Failure (Tree × HoleRun))
    (replaced : Nat → Except Failure (Tree × HoleRun)) :
    Prop where
  /-- The error of the validation is that of the first malformed loop. -/
  first : ∀ error, validation = .error error ↔ IsFirstError placed error
  /-- An extraction into any run, if it meets no fault, is rejected just as the validation is. -/
  alike :
    ∀ run,
      (∀ fault, extraction run ≠ .error (.fault fault)) →
        ∀ error, extraction run = .error (.rejected error) ↔ validation = .error error
  /-- An extraction meets no fault if the indices of all the literals fit. -/
  fits :
    ∀ run, run.HasRoomFor sites.length → ∀ fault, extraction run ≠ .error (.fault fault)
  /-- What was validated is not rejected any more. -/
  validated : validation = .ok () → ∀ run error, extraction run ≠ .error (.rejected error)
  /-- A replacement is rejected by its validation only, also where no index fits a machine word. -/
  early : ∀ index error, replaced index = .error (.rejected error) ↔ validation = .error error

theorem rejectsAlike_of_follows
    {Tree : Type}
    {validation : Except ProgramError Unit}
    {placed : List PlacedStatement}
    {sites : List LiteralSite}
    {extraction : HoleRun → Except Failure (Tree × HoleRun)}
    {replaced : Nat → Except Failure (Tree × HoleRun)}
    {numbered : Nat → Tree}
    (first : ∀ error, validation = .error error ↔ IsFirstError placed error)
    (follows : ∀ run, Follows run sites validation (extraction run))
    (isReplacement :
      ∀ index, replaced index = replacement validation index sites (numbered index)) :
    RejectsAlike validation placed sites extraction replaced where
  first := first
  alike run noFault := (follows run).rejected_iff noFault
  fits run room := (follows run).ne_fault room
  validated := by
    rintro rfl run
    exact (follows run).ne_rejected
  early index error := by
    rw [isReplacement]
    exact replacement_eq_rejected_iff

/--
Validation and extraction reject the same statements and the same blocks, with the same errors, and nothing
fails midway. The error is that of the first malformed loop in reading order. An extraction into whatever
run gives it exactly if the validation does, unless it meets a fault, which it does not if the indices of
all the literals fit. After a validation that succeeds no extraction is rejected, and an extraction that
begins with the validation is rejected by this alone, before it has a run to record anything in.
-/
theorem trees_rejectAlike :
    (∀ statement : Statement,
        RejectsAlike statement.validate (statement.placed []) statement.sites statement.extract
          statement.replaceLiterals) ∧
      ∀ block : Block,
        RejectsAlike block.validate (block.placed []) block.sites block.extract
          block.replaceLiterals := by
  constructor
  · intro statement
    exact
      rejectsAlike_of_follows (fun _ => Statement.validate_eq_error_iff)
        statement.extract_follows statement.replaceLiterals_eq
  · intro block
    exact
      rejectsAlike_of_follows (fun _ => Block.validate_eq_error_iff_first)
        block.extract_follows block.replaceLiterals_eq

end SynthesisHoles
