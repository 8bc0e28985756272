import SynthesisHoles.Proofs.Outcome
import SynthesisHoles.Tree.Structure

/-!
# Which loops are malformed

All the statements of a tree are listed here, each with the statements around it. A loop counts if its
header is malformed and no malformed loop is around it. A walk that leaves the parts of malformed loops
alone meets exactly the loops that count, in reading order, and validation gives the error of the first.
If validation finds none, all the statements of the tree are valid.
-/

namespace SynthesisHoles

/-! ## Statements in their surroundings -/

/-- What is wrong with the header of a statement that is a loop, if something is. -/
def Statement.headerError? (statement : Statement) : Option ProgramError :=
  match statement.checkNode with
  | .error error => some error
  | .ok () => none

/-- A statement of a tree, and the statements around it, the innermost first. -/
structure PlacedStatement where
  statement : Statement
  around : List Statement

/-- Whether one of the statements is a malformed loop. -/
def malformedAmong (statements : List Statement) : Bool :=
  statements.any fun statement => statement.headerError?.isSome

/-- Error of a malformed loop that is not inside of another one. -/
def PlacedStatement.outermostError? (placed : PlacedStatement) : Option ProgramError :=
  if malformedAmong placed.around then none else placed.statement.headerError?

mutual

/-- The statement and all the statements it is made of, in reading order. -/
def Statement.placed : Statement → List Statement → List PlacedStatement
  | statement@(.block _ body), around =>
      ⟨statement, around⟩ :: body.placed (statement :: around)
  | statement@(.branch _ _ consequent alternative), around =>
      ⟨statement, around⟩ ::
        (consequent.placed (statement :: around)
          ++ Statement.placedOfOption alternative (statement :: around))
  | statement@(.whileLoop _ _ body), around =>
      ⟨statement, around⟩ :: Statement.placedOfOption body (statement :: around)
  | statement@(.doWhile _ body _), around =>
      ⟨statement, around⟩ :: Statement.placedOfOption body (statement :: around)
  | statement@(.forLoop _ initial _ update body), around =>
      ⟨statement, around⟩ ::
        (Statement.placedOfOption initial (statement :: around)
          ++ (Statement.placedOfOption update (statement :: around)
            ++ Statement.placedOfOption body (statement :: around)))
  | statement, around => [⟨statement, around⟩]
termination_by structural statement => statement

/-- The statements that a block is made of, in reading order. -/
def Block.placed : Block → List Statement → List PlacedStatement
  | .mk _ statements, around => Statement.placedOfList statements around

def Statement.placedOfOption : Option Statement → List Statement → List PlacedStatement
  | none, _ => []
  | some statement, around => statement.placed around

def Statement.placedOfList : List Statement → List Statement → List PlacedStatement
  | [], _ => []
  | first :: rest, around => first.placed around ++ Statement.placedOfList rest around

end

/-- Errors of the malformed loops of a program that are not inside of another one. -/
def Program.outermostErrors (program : Program) : List ProgramError :=
  program.functions.flatMap fun definition =>
    (definition.body.placed []).filterMap PlacedStatement.outermostError?

/-! ## The walk that leaves out the parts of malformed loops -/

mutual

/-- Errors of the malformed loops that are met if the parts of a malformed loop are left alone. -/
def Statement.headerErrors : Statement → List ProgramError
  | .block _ body => body.headerErrors
  | .branch _ _ consequent alternative =>
      consequent.headerErrors ++ Statement.headerErrorsOfOption alternative
  | .whileLoop _ _ body => Statement.headerErrorsOfOption body
  | .doWhile _ body _ => Statement.headerErrorsOfOption body
  | .forLoop line initial condition update body =>
      match checkHeader line initial condition update with
      | .error error => [error]
      | .ok () =>
          Statement.headerErrorsOfOption initial
            ++ (Statement.headerErrorsOfOption update ++ Statement.headerErrorsOfOption body)
  | .declare .. => []
  | .assign .. => []
  | .evaluate .. => []
  | .returnWith .. => []
  | .assertion .. => []
  | .breakLoop _ => []
  | .continueLoop _ => []
  | .empty _ => []

/-- Errors of the malformed loops that are met in a block. -/
def Block.headerErrors : Block → List ProgramError
  | .mk _ statements => Statement.headerErrorsOfList statements

def Statement.headerErrorsOfOption : Option Statement → List ProgramError
  | none => []
  | some statement => statement.headerErrors

def Statement.headerErrorsOfList : List Statement → List ProgramError
  | [] => []
  | first :: rest => first.headerErrors ++ Statement.headerErrorsOfList rest

end

/-- Errors of the malformed loops that are met in a program. -/
def Program.headerErrors (program : Program) : List ProgramError :=
  program.functions.flatMap fun definition => definition.body.headerErrors

/-! ## The walk meets the outermost malformed loops -/

/-- What is left of some errors inside of some statements: nothing, if one of these is malformed. -/
def errorsInside (around : List Statement) (errors : List ProgramError) : List ProgramError :=
  if malformedAmong around then [] else errors

@[simp]
theorem errorsInside_none (around : List Statement) :
    errorsInside around [] = [] :=
  ite_self []

theorem errorsInside_append
    (around : List Statement)
    (left right : List ProgramError) :
    errorsInside around (left ++ right) =
      errorsInside around left ++ errorsInside around right := by
  rw [errorsInside, errorsInside, errorsInside]
  split
  next => rfl
  next => rfl

/-- A statement that is well formed itself does not hide its parts. -/
theorem errorsInside_cons_of_none
    {statement : Statement}
    (fine : statement.headerError? = none)
    (around : List Statement)
    (errors : List ProgramError) :
    errorsInside (statement :: around) errors = errorsInside around errors := by
  rw [errorsInside, errorsInside, malformedAmong, List.any_cons, fine, Option.isSome_none,
    Bool.false_or, malformedAmong]

/-- A malformed loop hides all its parts. -/
theorem errorsInside_cons_of_some
    {statement : Statement}
    {error : ProgramError}
    (malformed : statement.headerError? = some error)
    (around : List Statement)
    (errors : List ProgramError) :
    errorsInside (statement :: around) errors = [] := by
  rw [errorsInside, malformedAmong, List.any_cons, malformed, Option.isSome_some, Bool.true_or,
    if_pos rfl]

section Parts

variable
  {statement : Statement}
  {around : List Statement}
  {left right inside : List PlacedStatement}
  {leftErrors rightErrors errors : List ProgramError}

/-- The errors of two parts after each other are those of both. -/
theorem filterMap_outermostError?_append
    (inLeft :
      left.filterMap PlacedStatement.outermostError? = errorsInside around leftErrors)
    (inRight :
      right.filterMap PlacedStatement.outermostError? = errorsInside around rightErrors) :
    (left ++ right).filterMap PlacedStatement.outermostError? =
      errorsInside around (leftErrors ++ rightErrors) := by
  rw [List.filterMap_append, inLeft, inRight, errorsInside_append]

/-- The errors of a statement that is well formed itself are those of its parts. -/
theorem filterMap_outermostError?_of_none
    (fine : statement.headerError? = none)
    (inParts :
      inside.filterMap PlacedStatement.outermostError? =
        errorsInside (statement :: around) errors) :
    (PlacedStatement.mk statement around :: inside).filterMap PlacedStatement.outermostError? =
      errorsInside around errors := by
  have silent : (PlacedStatement.mk statement around).outermostError? = none := by
    rw [PlacedStatement.outermostError?, fine]
    exact ite_self none
  rw [List.filterMap_cons, silent, inParts, errorsInside_cons_of_none fine]

/-- A malformed loop has its own error, and none of its parts counts. -/
theorem filterMap_outermostError?_of_some
    {error : ProgramError}
    (malformed : statement.headerError? = some error)
    (inParts :
      inside.filterMap PlacedStatement.outermostError? =
        errorsInside (statement :: around) errors) :
    (PlacedStatement.mk statement around :: inside).filterMap PlacedStatement.outermostError? =
      errorsInside around [error] := by
  rw [errorsInside_cons_of_some malformed] at inParts
  rw [List.filterMap_cons, inParts, PlacedStatement.outermostError?, errorsInside, malformed]
  cases malformedAmong around with
  | true => rfl
  | false => rfl

/-- A statement that has no parts and cannot be malformed has no errors. -/
theorem filterMap_outermostError?_leaf
    (fine : statement.headerError? = none) :
    [PlacedStatement.mk statement around].filterMap PlacedStatement.outermostError? =
      errorsInside around [] := by
  apply filterMap_outermostError?_of_none fine
  exact (errorsInside_none _).symm

end Parts

mutual

theorem Statement.filterMap_placed
    (statement : Statement)
    (around : List Statement) :
    (statement.placed around).filterMap PlacedStatement.outermostError? =
      errorsInside around statement.headerErrors := by
  match statement with
  | .block line body =>
      have inBody := Block.filterMap_placed body (.block line body :: around)
      exact filterMap_outermostError?_of_none rfl inBody
  | .branch line condition consequent alternative =>
      have inConsequent :=
        Statement.filterMap_placed consequent
          (.branch line condition consequent alternative :: around)
      have inAlternative :=
        Statement.filterMap_placedOfOption alternative
          (.branch line condition consequent alternative :: around)
      apply filterMap_outermostError?_of_none rfl
      exact filterMap_outermostError?_append inConsequent inAlternative
  | .whileLoop line condition body =>
      have inBody :=
        Statement.filterMap_placedOfOption body (.whileLoop line condition body :: around)
      exact filterMap_outermostError?_of_none rfl inBody
  | .doWhile line body condition =>
      have inBody :=
        Statement.filterMap_placedOfOption body (.doWhile line body condition :: around)
      exact filterMap_outermostError?_of_none rfl inBody
  | .forLoop line initial condition update body =>
      have inInitial :=
        Statement.filterMap_placedOfOption initial
          (.forLoop line initial condition update body :: around)
      have inUpdate :=
        Statement.filterMap_placedOfOption update
          (.forLoop line initial condition update body :: around)
      have inBody :=
        Statement.filterMap_placedOfOption body
          (.forLoop line initial condition update body :: around)
      have inParts :=
        filterMap_outermostError?_append inInitial
          (filterMap_outermostError?_append inUpdate inBody)
      rw [Statement.placed, Statement.headerErrors]
      cases header : checkHeader line initial condition update with
      | error error =>
          have malformed :
              (Statement.forLoop line initial condition update body).headerError? =
                some error := by
            rw [Statement.headerError?, Statement.checkNode, header]
          exact filterMap_outermostError?_of_some malformed inParts
      | ok _ =>
          have fine :
              (Statement.forLoop line initial condition update body).headerError? = none := by
            rw [Statement.headerError?, Statement.checkNode, header]
          exact filterMap_outermostError?_of_none fine inParts
  | .declare .. => exact filterMap_outermostError?_leaf rfl
  | .assign .. => exact filterMap_outermostError?_leaf rfl
  | .evaluate .. => exact filterMap_outermostError?_leaf rfl
  | .returnWith .. => exact filterMap_outermostError?_leaf rfl
  | .assertion .. => exact filterMap_outermostError?_leaf rfl
  | .breakLoop _ => exact filterMap_outermostError?_leaf rfl
  | .continueLoop _ => exact filterMap_outermostError?_leaf rfl
  | .empty _ => exact filterMap_outermostError?_leaf rfl

theorem Block.filterMap_placed
    (block : Block)
    (around : List Statement) :
    (block.placed around).filterMap PlacedStatement.outermostError? =
      errorsInside around block.headerErrors := by
  match block with
  | .mk _ statements => exact Statement.filterMap_placedOfList statements around

theorem Statement.filterMap_placedOfOption
    (statement : Option Statement)
    (around : List Statement) :
    (Statement.placedOfOption statement around).filterMap PlacedStatement.outermostError? =
      errorsInside around (Statement.headerErrorsOfOption statement) := by
  match statement with
  | none => exact (errorsInside_none around).symm
  | some statement => exact Statement.filterMap_placed statement around

theorem Statement.filterMap_placedOfList
    (statements : List Statement)
    (around : List Statement) :
    (Statement.placedOfList statements around).filterMap PlacedStatement.outermostError? =
      errorsInside around (Statement.headerErrorsOfList statements) := by
  match statements with
  | [] => exact (errorsInside_none around).symm
  | first :: rest =>
      have inFirst := Statement.filterMap_placed first around
      have inRest := Statement.filterMap_placedOfList rest around
      exact filterMap_outermostError?_append inFirst inRest

end

/-- The errors that are met are those of the malformed loops that are not inside of another one. -/
theorem Program.outermostErrors_eq_headerErrors (program : Program) :
    program.outermostErrors = program.headerErrors := by
  rw [Program.outermostErrors, Program.headerErrors]
  have inBody :
      (fun definition : FunctionDefinition =>
          (definition.body.placed []).filterMap PlacedStatement.outermostError?) =
        fun definition => definition.body.headerErrors := by
    funext definition
    exact Block.filterMap_placed definition.body []
  rw [inBody]

/-- The loop at line 3 stands inside of the malformed one at line 2 and does not count. -/
example :
    Program.outermostErrors
      { functions :=
          [{ body :=
              ⟨1,
                [.forLoop 2 none none none (some (.forLoop 3 none none none none)),
                  .forLoop 4 (some (.breakLoop 4)) (some (.var "n")) none none]⟩ }] } =
      [.malformedTree "for-loop" "missing condition" 2,
        .malformedTree "for-loop" "initializer is not a simple statement" 4] :=
  rfl

/-! ## Validation gives the first of the errors -/

/-- The outcome of a check that stops at the first of several errors. -/
def verdict : List ProgramError → Except ProgramError Unit
  | [] => .ok ()
  | error :: _ => .error error

theorem verdict_append (left right : List ProgramError) :
    verdict (left ++ right) = verdict left >>= fun _ => verdict right := by
  cases left with
  | nil => rfl
  | cons error rest => rfl

theorem verdict_eq_ok_iff {errors : List ProgramError} :
    verdict errors = .ok () ↔ errors = [] := by
  cases errors with
  | nil => simp [verdict]
  | cons error rest => simp [verdict]

theorem verdict_eq_error_iff
    {errors : List ProgramError}
    {error : ProgramError} :
    verdict errors = .error error ↔ errors.head? = some error := by
  cases errors with
  | nil => simp [verdict]
  | cons first rest => simp [verdict]

mutual

theorem Statement.validate_eq (statement : Statement) :
    statement.validate = verdict statement.headerErrors := by
  match statement with
  | .block _ body => exact Block.validate_eq body
  | .branch _ _ consequent alternative =>
      have inConsequent := Statement.validate_eq consequent
      have inAlternative := Statement.validateOption_eq alternative
      rw [Statement.validate, Statement.headerErrors, verdict_append, inConsequent, inAlternative]
  | .whileLoop _ _ body => exact Statement.validateOption_eq body
  | .doWhile _ body _ => exact Statement.validateOption_eq body
  | .forLoop line initial condition update body =>
      have inInitial := Statement.validateOption_eq initial
      have inUpdate := Statement.validateOption_eq update
      have inBody := Statement.validateOption_eq body
      rw [Statement.validate, Statement.headerErrors, inInitial, inUpdate, inBody]
      cases checkHeader line initial condition update with
      | error error => rfl
      | ok _ => simp only [ok_bind, verdict_append]
  | .declare .. => rfl
  | .assign .. => rfl
  | .evaluate .. => rfl
  | .returnWith .. => rfl
  | .assertion .. => rfl
  | .breakLoop _ => rfl
  | .continueLoop _ => rfl
  | .empty _ => rfl

theorem Block.validate_eq (block : Block) :
    block.validate = verdict block.headerErrors := by
  match block with
  | .mk _ statements => exact Statement.validateList_eq statements

theorem Statement.validateOption_eq (statement : Option Statement) :
    Statement.validateOption statement = verdict (Statement.headerErrorsOfOption statement) := by
  match statement with
  | none => rfl
  | some statement => exact Statement.validate_eq statement

theorem Statement.validateList_eq (statements : List Statement) :
    Statement.validateList statements = verdict (Statement.headerErrorsOfList statements) := by
  match statements with
  | [] => rfl
  | first :: rest =>
      have inFirst := Statement.validate_eq first
      have inRest := Statement.validateList_eq rest
      rw [Statement.validateList, Statement.headerErrorsOfList, verdict_append, inFirst, inRest]

end

theorem Block.validate_eq_ok_iff {block : Block} :
    block.validate = .ok () ↔ block.headerErrors = [] := by
  rw [Block.validate_eq, verdict_eq_ok_iff]

theorem Block.validate_eq_error_iff
    {block : Block}
    {error : ProgramError} :
    block.validate = .error error ↔ block.headerErrors.head? = some error := by
  rw [Block.validate_eq, verdict_eq_error_iff]

/-- The first error of a program is the one of the first function that is not valid. -/
theorem Program.head?_headerErrors
    {program : Program}
    {before after : List FunctionDefinition}
    {definition : FunctionDefinition}
    {error : ProgramError}
    (parts : program.functions = before ++ definition :: after)
    (earlierValid : ∀ earlier ∈ before, earlier.body.validate = .ok ())
    (invalid : definition.body.validate = .error error) :
    program.headerErrors.head? = some error := by
  have silent : (before.flatMap fun earlier => earlier.body.headerErrors) = [] := by
    rw [List.flatMap_eq_nil_iff]
    intro earlier member
    exact Block.validate_eq_ok_iff.mp (earlierValid earlier member)
  rw [Program.headerErrors, parts, List.flatMap_append, silent, List.nil_append,
    List.flatMap_cons, List.head?_append, Block.validate_eq_error_iff.mp invalid, Option.some_or]

/-- A program has no errors exactly if all its functions are valid. -/
theorem Program.headerErrors_eq_nil_iff {program : Program} :
    program.headerErrors = [] ↔
      ∀ definition ∈ program.functions, definition.body.validate = .ok () := by
  rw [Program.headerErrors, List.flatMap_eq_nil_iff]
  simp only [Block.validate_eq_ok_iff]

/-- A program has an error exactly if one of its functions is not valid. -/
theorem Program.headerErrors_ne_nil_iff (program : Program) :
    program.headerErrors ≠ [] ↔
      ∃ definition ∈ program.functions, ∃ error, definition.body.validate = .error error := by
  rw [ne_eq, Program.headerErrors_eq_nil_iff]
  constructor
  · intro someInvalid
    apply Classical.byContradiction
    intro noError
    apply someInvalid
    intro definition member
    cases outcome : definition.body.validate with
    | error error => exact absurd ⟨definition, member, error, outcome⟩ noError
    | ok _ => rfl
  · rintro ⟨definition, member, error, invalid⟩ allValid
    have valid := allValid definition member
    rw [invalid] at valid
    cases valid

/-! ## Errors of validation -/

theorem code_of_requireSimple
    {line : Nat}
    {reason : String}
    {statement : Option Statement}
    {error : ProgramError}
    (refused : requireSimple line reason statement = .error error) :
    error.code = "E0001" := by
  cases statement with
  | none => cases refused
  | some statement =>
      rw [requireSimple] at refused
      split at refused
      next simple => cases refused
      next => cases refused; rfl

/-- The error of a header is one about a malformed tree. -/
theorem code_of_checkHeader
    {line : Nat}
    {initial : Option Statement}
    {condition : Option Expression}
    {update : Option Statement}
    {error : ProgramError}
    (malformed : checkHeader line initial condition update = .error error) :
    error.code = "E0001" := by
  rw [checkHeader] at malformed
  cases condition with
  | none => cases malformed; rfl
  | some _ =>
      simp only [Option.isNone_some, Bool.false_eq_true, if_false] at malformed
      rcases (bind_eq_error_iff _ _ _).mp malformed with first | ⟨_, _, second⟩
      · exact code_of_requireSimple first
      · exact code_of_requireSimple second

/-- Validation only rejects a tree as malformed. -/
theorem Block.code_of_validate
    {block : Block}
    {error : ProgramError}
    (invalid : block.validate = .error error) :
    error.code = "E0001" := by
  have met : error ∈ block.headerErrors :=
    List.mem_of_mem_head? (Block.validate_eq_error_iff.mp invalid)
  have outside : errorsInside [] block.headerErrors = block.headerErrors := rfl
  rw [← outside, ← Block.filterMap_placed] at met
  rcases List.mem_filterMap.mp met with ⟨⟨statement, around⟩, _, counts⟩
  rw [PlacedStatement.outermostError?] at counts
  split at counts
  next => cases counts
  next =>
    cases statement with
    | forLoop line initial condition update body =>
        simp only [Statement.headerError?, Statement.checkNode] at counts
        split at counts
        next error malformed =>
          cases counts
          exact code_of_checkHeader malformed
        next => cases counts
    | _ => cases counts

/-! ## Parts of valid trees -/

mutual

/-- All that a valid statement is made of is valid. -/
theorem Statement.valid_of_mem_placed
    (statement : Statement)
    (around : List Statement)
    (valid : statement.validate = .ok ()) :
    ∀ placed ∈ statement.placed around, placed.statement.validate = .ok () := by
  match statement with
  | .block _ body =>
      exact List.forall_mem_cons.mpr ⟨valid, Block.valid_of_mem_placed body _ valid⟩
  | .branch _ _ consequent alternative =>
      rcases (bind_eq_ok_iff _ _ _).mp valid with ⟨_, consequentValid, alternativeValid⟩
      refine List.forall_mem_cons.mpr ⟨valid, List.forall_mem_append.mpr ⟨?_, ?_⟩⟩
      · exact Statement.valid_of_mem_placed consequent _ consequentValid
      · exact Statement.valid_of_mem_placedOfOption alternative _ alternativeValid
  | .whileLoop _ _ body =>
      exact List.forall_mem_cons.mpr ⟨valid, Statement.valid_of_mem_placedOfOption body _ valid⟩
  | .doWhile _ body _ =>
      exact List.forall_mem_cons.mpr ⟨valid, Statement.valid_of_mem_placedOfOption body _ valid⟩
  | .forLoop _ initial _ update body =>
      rcases (bind_eq_ok_iff _ _ _).mp valid with ⟨_, _, childrenValid⟩
      rcases (bind_eq_ok_iff _ _ _).mp childrenValid with ⟨_, initialValid, restValid⟩
      rcases (bind_eq_ok_iff _ _ _).mp restValid with ⟨_, updateValid, bodyValid⟩
      refine
        List.forall_mem_cons.mpr
          ⟨valid, List.forall_mem_append.mpr ⟨?_, List.forall_mem_append.mpr ⟨?_, ?_⟩⟩⟩
      · exact Statement.valid_of_mem_placedOfOption initial _ initialValid
      · exact Statement.valid_of_mem_placedOfOption update _ updateValid
      · exact Statement.valid_of_mem_placedOfOption body _ bodyValid
  | .declare .. => exact List.forall_mem_singleton.mpr valid
  | .assign .. => exact List.forall_mem_singleton.mpr valid
  | .evaluate .. => exact List.forall_mem_singleton.mpr valid
  | .returnWith .. => exact List.forall_mem_singleton.mpr valid
  | .assertion .. => exact List.forall_mem_singleton.mpr valid
  | .breakLoop _ => exact List.forall_mem_singleton.mpr valid
  | .continueLoop _ => exact List.forall_mem_singleton.mpr valid
  | .empty _ => exact List.forall_mem_singleton.mpr valid

theorem Block.valid_of_mem_placed
    (block : Block)
    (around : List Statement)
    (valid : block.validate = .ok ()) :
    ∀ placed ∈ block.placed around, placed.statement.validate = .ok () := by
  match block with
  | .mk _ statements => exact Statement.valid_of_mem_placedOfList statements around valid

theorem Statement.valid_of_mem_placedOfOption
    (statement : Option Statement)
    (around : List Statement)
    (valid : Statement.validateOption statement = .ok ()) :
    ∀ placed ∈ Statement.placedOfOption statement around,
      placed.statement.validate = .ok () := by
  match statement with
  | none => exact List.forall_mem_nil _
  | some statement => exact Statement.valid_of_mem_placed statement around valid

theorem Statement.valid_of_mem_placedOfList
    (statements : List Statement)
    (around : List Statement)
    (valid : Statement.validateList statements = .ok ()) :
    ∀ placed ∈ Statement.placedOfList statements around, placed.statement.validate = .ok () := by
  match statements with
  | [] => exact List.forall_mem_nil _
  | first :: rest =>
      rcases (bind_eq_ok_iff _ _ _).mp valid with ⟨_, firstValid, restValid⟩
      exact List.forall_mem_append.mpr
        ⟨Statement.valid_of_mem_placed first around firstValid,
          Statement.valid_of_mem_placedOfList rest around restValid⟩

end

end SynthesisHoles
