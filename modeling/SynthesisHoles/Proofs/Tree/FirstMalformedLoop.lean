import SynthesisHoles.Proofs.Tree.Validation

/-!
# The first malformed loop

A for-loop can be malformed in three ways, and the first of them that applies is its error: the condition is
missing, the initializer is not simple, or the update is not. The error names the line of the loop.

The main statements say that validation of a tree gives the error of the first malformed loop among all the
statements of the tree in reading order, a loop coming before the statements it is made of, and that
validation succeeds if there is none.
-/

namespace SynthesisHoles

/-! ## What is wrong with a loop -/

/-- The statement is a malformed for-loop, and this is its error. -/
inductive Statement.IsMalformed : Statement → ProgramError → Prop
  | condition
      {line : Nat}
      {initial update body : Option Statement} :
      IsMalformed
        (.forLoop line initial none update body)
        (.malformedTree "for-loop" "missing condition" line)
  | initializer
      {line : Nat}
      {initial : Statement}
      {condition : Expression}
      {update body : Option Statement}
      (notSimple : initial.isSimple = false) :
      IsMalformed
        (.forLoop line (some initial) (some condition) update body)
        (.malformedTree "for-loop" "initializer is not a simple statement" line)
  | update
      {line : Nat}
      {initial : Option Statement}
      {condition : Expression}
      {update : Statement}
      {body : Option Statement}
      (initialSimple : ∀ statement ∈ initial, statement.isSimple = true)
      (notSimple : update.isSimple = false) :
      IsMalformed
        (.forLoop line initial (some condition) (some update) body)
        (.malformedTree "for-loop" "update is not a simple statement" line)

theorem requireSimple_eq_ok_iff
    {line : Nat}
    {reason : String}
    {statement : Option Statement} :
    requireSimple line reason statement = .ok () ↔
      ∀ present ∈ statement, present.isSimple = true := by
  cases statement with
  | none => simp [requireSimple]
  | some statement => simp [requireSimple]

theorem requireSimple_eq_error_iff
    {line : Nat}
    {reason : String}
    {statement : Option Statement}
    {error : ProgramError} :
    requireSimple line reason statement = .error error ↔
      (∃ present, statement = some present ∧ present.isSimple = false) ∧
        error = .malformedTree "for-loop" reason line := by
  cases statement with
  | none => simp [requireSimple]
  | some statement =>
      rw [requireSimple]
      split
      next simple => simp [simple]
      next complex =>
        rw [Except.error.injEq, eq_comm]
        simp [complex]

/-- The check of a statement by itself finds what is wrong with it. -/
theorem Statement.checkNode_eq_error_iff
    {statement : Statement}
    {error : ProgramError} :
    statement.checkNode = .error error ↔ statement.IsMalformed error := by
  constructor
  · intro refused
    cases statement with
    | forLoop line initial condition update body =>
        cases condition with
        | none =>
            cases refused
            exact .condition
        | some condition =>
            rcases (bind_eq_error_iff _ _ _).mp refused with inInitial | ⟨_, fine, inUpdate⟩
            · rcases requireSimple_eq_error_iff.mp inInitial with ⟨⟨_, rfl, notSimple⟩, rfl⟩
              exact .initializer notSimple
            · rcases requireSimple_eq_error_iff.mp inUpdate with ⟨⟨_, rfl, notSimple⟩, rfl⟩
              exact .update (requireSimple_eq_ok_iff.mp fine) notSimple
    | _ => cases refused
  · intro malformed
    cases malformed with
    | condition => rfl
    | initializer notSimple =>
        exact
          (bind_eq_error_iff _ _ _).mpr
            (.inl (requireSimple_eq_error_iff.mpr ⟨⟨_, rfl, notSimple⟩, rfl⟩))
    | update initialSimple notSimple =>
        exact
          (bind_eq_error_iff _ _ _).mpr
            (.inr
              ⟨(), requireSimple_eq_ok_iff.mpr initialSimple,
                requireSimple_eq_error_iff.mpr ⟨⟨_, rfl, notSimple⟩, rfl⟩⟩)

theorem Statement.headerError?_eq_some_iff
    {statement : Statement}
    {error : ProgramError} :
    statement.headerError? = some error ↔ statement.IsMalformed error := by
  rw [← checkNode_eq_error_iff, headerError?]
  cases statement.checkNode with
  | error refused => simp
  | ok _ => simp

/-! ## The first in reading order -/

/-- Error of the first statement that is a malformed loop. -/
def firstError? (placed : List PlacedStatement) : Option ProgramError :=
  placed.findSome? fun placed => placed.statement.headerError?

/-- The error is that of a malformed loop, and no statement before it is one. -/
def IsFirstError (placed : List PlacedStatement) (error : ProgramError) : Prop :=
  ∃ before loop after,
    placed = before ++ loop :: after ∧
      loop.statement.IsMalformed error ∧
      ∀ earlier ∈ before, ∀ other, ¬ earlier.statement.IsMalformed other

theorem firstError?_eq_some_iff
    {placed : List PlacedStatement}
    {error : ProgramError} :
    firstError? placed = some error ↔ IsFirstError placed error := by
  simp only [firstError?, List.findSome?_eq_some_iff, IsFirstError,
    Statement.headerError?_eq_some_iff, Option.eq_none_iff_forall_ne_some, ne_eq]

theorem firstError?_append (left right : List PlacedStatement) :
    firstError? (left ++ right) = (firstError? left).or (firstError? right) :=
  List.findSome?_append

mutual

theorem Statement.firstError?_placed
    (statement : Statement)
    (around : List Statement) :
    firstError? (statement.placed around) = statement.headerErrors.head? := by
  match statement with
  | .block line body => exact Block.firstError?_placed body (.block line body :: around)
  | .branch line condition consequent alternative =>
      have inConsequent :=
        Statement.firstError?_placed consequent
          (.branch line condition consequent alternative :: around)
      have inAlternative :=
        Statement.firstError?_placedOfOption alternative
          (.branch line condition consequent alternative :: around)
      rw [Statement.headerErrors, List.head?_append, ← inConsequent, ← inAlternative,
        ← firstError?_append]
      rfl
  | .whileLoop line condition body =>
      exact
        Statement.firstError?_placedOfOption body (.whileLoop line condition body :: around)
  | .doWhile line body condition =>
      exact Statement.firstError?_placedOfOption body (.doWhile line body condition :: around)
  | .forLoop line initial condition update body =>
      have inInitial :=
        Statement.firstError?_placedOfOption initial
          (.forLoop line initial condition update body :: around)
      have inUpdate :=
        Statement.firstError?_placedOfOption update
          (.forLoop line initial condition update body :: around)
      have inBody :=
        Statement.firstError?_placedOfOption body
          (.forLoop line initial condition update body :: around)
      rw [Statement.placed, Statement.headerErrors, firstError?, List.findSome?_cons,
        Statement.headerError?, Statement.checkNode]
      cases checkHeader line initial condition update with
      | error error => rfl
      | ok _ =>
          simp only [List.head?_append, ← inInitial, ← inUpdate, ← inBody, ← firstError?_append]
          rfl
  | .declare .. => rfl
  | .assign .. => rfl
  | .evaluate .. => rfl
  | .returnWith .. => rfl
  | .assertion .. => rfl
  | .breakLoop _ => rfl
  | .continueLoop _ => rfl
  | .empty _ => rfl

theorem Block.firstError?_placed
    (block : Block)
    (around : List Statement) :
    firstError? (block.placed around) = block.headerErrors.head? := by
  match block with
  | .mk _ statements => exact Statement.firstError?_placedOfList statements around

theorem Statement.firstError?_placedOfOption
    (statement : Option Statement)
    (around : List Statement) :
    firstError? (Statement.placedOfOption statement around) =
      (Statement.headerErrorsOfOption statement).head? := by
  match statement with
  | none => rfl
  | some statement => exact Statement.firstError?_placed statement around

theorem Statement.firstError?_placedOfList
    (statements : List Statement)
    (around : List Statement) :
    firstError? (Statement.placedOfList statements around) =
      (Statement.headerErrorsOfList statements).head? := by
  match statements with
  | [] => rfl
  | first :: rest =>
      have inFirst := Statement.firstError?_placed first around
      have inRest := Statement.firstError?_placedOfList rest around
      rw [Statement.placedOfList, Statement.headerErrorsOfList, firstError?_append,
        List.head?_append, inFirst, inRest]

end

/-! ## Validation -/

/-- Validation of a statement gives the error of the first malformed loop. -/
theorem Statement.validate_eq_error_iff
    {statement : Statement}
    {error : ProgramError} :
    statement.validate = .error error ↔ IsFirstError (statement.placed []) error := by
  rw [Statement.validate_eq, verdict_eq_error_iff, ← Statement.firstError?_placed statement [],
    firstError?_eq_some_iff]

/-- Validation of a block gives the error of the first malformed loop. -/
theorem Block.validate_eq_error_iff_first
    {block : Block}
    {error : ProgramError} :
    block.validate = .error error ↔ IsFirstError (block.placed []) error := by
  rw [Block.validate_eq_error_iff, ← Block.firstError?_placed block [], firstError?_eq_some_iff]

end SynthesisHoles
