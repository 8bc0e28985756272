import SynthesisHoles.Proofs.Hole.Literals
import SynthesisHoles.Proofs.Tree.Declarations
import SynthesisHoles.Scope.Resolution

/-!
# What numbering keeps

The other passes over a tree read its variables, its declarations, the headers of its loops and its
lines, but neither literals nor holes. So each of them does on the numbered tree what it does on the
tree. This is stated here pass by pass: validation, sizes, scopes, resolution and records. The scopes
and the diagnostics agree from any arena and any scope, so nothing has to be known about these.
-/

namespace SynthesisHoles

/-! ## Variables -/

mutual

@[simp]
theorem Expression.variableNames_numbered
    (start : Nat)
    (expression : Expression) :
    (expression.numbered start).variableNames = expression.variableNames := by
  match expression with
  | .literal _ => rfl
  | .hole _ => rfl
  | .var _ => rfl
  | .field base _ => exact Expression.variableNames_numbered start base
  | .element base position =>
      simp only [Expression.numbered, Expression.variableNames,
        Expression.variableNames_numbered _ base, Expression.variableNames_numbered _ position]
  | .array items => exact Expression.variableNamesOfList_numberedList start items
  | .call _ arguments => exact Expression.variableNamesOfList_numberedList start arguments
  | .conditional condition whenTrue whenFalse =>
      simp only [Expression.numbered, Expression.variableNames,
        Expression.variableNames_numbered _ condition,
        Expression.variableNames_numbered _ whenTrue,
        Expression.variableNames_numbered _ whenFalse]

theorem Expression.variableNamesOfList_numberedList
    (start : Nat)
    (expressions : List Expression) :
    Expression.variableNamesOfList (Expression.numberedList start expressions) =
      Expression.variableNamesOfList expressions := by
  match expressions with
  | [] => rfl
  | first :: rest =>
      simp only [Expression.numberedList, Expression.variableNamesOfList,
        Expression.variableNames_numbered _ first,
        Expression.variableNamesOfList_numberedList _ rest]

end

@[simp]
theorem variableNamesOfOption_numberedOption
    (start : Nat)
    (expression : Option Expression) :
    variableNamesOfOption (Expression.numberedOption start expression) =
      variableNamesOfOption expression := by
  cases expression with
  | none => rfl
  | some expression => exact Expression.variableNames_numbered start expression

@[simp]
theorem Place.variableNames_numbered
    (start : Nat)
    (place : Place) :
    (place.numbered start).variableNames = place.variableNames := by
  cases place with
  | var _ => rfl
  | element base position => simp [Place.numbered, Place.variableNames]
  | field base _ => exact Expression.variableNames_numbered start base

/-! ## Declarations -/

/-- A numbered declaration declares the same, with a numbered initial value. -/
theorem Statement.asDeclaration?_numbered
    (start : Nat)
    (statement : Statement) :
    (statement.numbered start).asDeclaration? =
      statement.asDeclaration?.map (Prod.map id (Expression.numberedOption start)) := by
  cases statement with
  | _ => rfl

@[simp]
theorem Statement.declared?_numbered
    (start : Nat)
    (statement : Statement) :
    (statement.numbered start).declared? = statement.declared? := by
  rw [Statement.declared?, Statement.asDeclaration?_numbered, Option.map_map]
  rfl

theorem declaredIn_numberedList
    (start : Nat)
    (statements : List Statement) :
    declaredIn (Statement.numberedList start statements) = declaredIn statements := by
  induction statements generalizing start with
  | nil => rfl
  | cons first rest hypothesis =>
      have inRest := hypothesis (start + first.sites.length)
      rw [declaredIn, declaredIn] at inRest
      rw [Statement.numberedList, declaredIn, declaredIn, List.filterMap_cons,
        List.filterMap_cons, Statement.declared?_numbered, inRest]

theorem Block.addToRecord_numbered
    (start : Nat)
    (block : Block)
    (record : VariableRecord) :
    (block.numbered start).addToRecord record = block.addToRecord record := by
  cases block with
  | mk line statements =>
      rw [Block.addToRecord_eq, Block.addToRecord_eq, Block.numbered, Block.statements,
        declaredIn_numberedList, Block.statements]

theorem FunctionDefinition.declaredVariables_numbered
    (start : Nat)
    (definition : FunctionDefinition) :
    (definition.numbered start).declaredVariables = definition.declaredVariables :=
  Block.addToRecord_numbered start definition.body definition.parameterRecord

/-! ## Validation -/

@[simp]
theorem Statement.isSimple_numbered
    (start : Nat)
    (statement : Statement) :
    (statement.numbered start).isSimple = statement.isSimple := by
  cases statement with
  | _ => rfl

@[simp]
theorem requireSimple_numberedOption
    (line : Nat)
    (reason : String)
    (start : Nat)
    (statement : Option Statement) :
    requireSimple line reason (Statement.numberedOption start statement) =
      requireSimple line reason statement := by
  cases statement with
  | none => rfl
  | some statement => simp [Statement.numberedOption, requireSimple]

/-- The header of a loop is as well formed as before, whatever its parts are numbered from. -/
@[simp]
theorem checkHeader_numberedOption
    (line inInitial inCondition inUpdate : Nat)
    (initial : Option Statement)
    (condition : Option Expression)
    (update : Option Statement) :
    checkHeader line (Statement.numberedOption inInitial initial)
        (Expression.numberedOption inCondition condition)
        (Statement.numberedOption inUpdate update) =
      checkHeader line initial condition update := by
  cases condition with
  | none => rfl
  | some _ => simp [checkHeader, Expression.numberedOption]

mutual

@[simp]
theorem Statement.validate_numbered
    (start : Nat)
    (statement : Statement) :
    (statement.numbered start).validate = statement.validate := by
  match statement with
  | .block _ body => exact Block.validate_numbered start body
  | .branch _ _ consequent alternative =>
      simp only [Statement.numbered, Statement.validate,
        Statement.validate_numbered _ consequent,
        Statement.validateOption_numberedOption _ alternative]
  | .whileLoop _ _ body => exact Statement.validateOption_numberedOption _ body
  | .doWhile _ body _ => exact Statement.validateOption_numberedOption _ body
  | .forLoop _ initial _ update body =>
      simp only [Statement.numbered, Statement.validate, checkHeader_numberedOption,
        Statement.validateOption_numberedOption _ initial,
        Statement.validateOption_numberedOption _ update,
        Statement.validateOption_numberedOption _ body]
  | .declare .. => rfl
  | .assign .. => rfl
  | .evaluate .. => rfl
  | .returnWith .. => rfl
  | .assertion .. => rfl
  | .breakLoop _ => rfl
  | .continueLoop _ => rfl
  | .empty _ => rfl

@[simp]
theorem Block.validate_numbered
    (start : Nat)
    (block : Block) :
    (block.numbered start).validate = block.validate := by
  match block with
  | .mk _ statements => exact Statement.validateList_numberedList start statements

theorem Statement.validateOption_numberedOption
    (start : Nat)
    (statement : Option Statement) :
    Statement.validateOption (Statement.numberedOption start statement) =
      Statement.validateOption statement := by
  match statement with
  | none => rfl
  | some statement => exact Statement.validate_numbered start statement

theorem Statement.validateList_numberedList
    (start : Nat)
    (statements : List Statement) :
    Statement.validateList (Statement.numberedList start statements) =
      Statement.validateList statements := by
  match statements with
  | [] => rfl
  | first :: rest =>
      simp only [Statement.numberedList, Statement.validateList,
        Statement.validate_numbered _ first, Statement.validateList_numberedList _ rest]

end

/-- Valid functions are valid when they are numbered. -/
theorem FunctionDefinition.valid_numberedList
    {definitions : List FunctionDefinition}
    (valid : ∀ definition ∈ definitions, definition.body.validate = .ok ())
    (start : Nat) :
    ∀ definition ∈ FunctionDefinition.numberedList start definitions,
      definition.body.validate = .ok () := by
  induction definitions generalizing start with
  | nil => exact List.forall_mem_nil _
  | cons first rest hypothesis =>
      rcases List.forall_mem_cons.mp valid with ⟨firstValid, restValid⟩
      have numberedValid := (first.body.validate_numbered start).trans firstValid
      exact List.forall_mem_cons.mpr ⟨numberedValid, hypothesis restValid _⟩

/-! ## Sizes -/

mutual

theorem Statement.size_numbered
    (start : Nat)
    (statement : Statement) :
    (statement.numbered start).size = statement.size := by
  match statement with
  | .block _ body => exact Block.size_numbered start body
  | .branch _ _ consequent alternative =>
      simp only [Statement.numbered, Statement.size, Statement.size_numbered _ consequent,
        Statement.sizeOfOption_numberedOption _ alternative]
  | .whileLoop _ _ body => exact Statement.sizeOfOption_numberedOption _ body
  | .doWhile _ body _ => exact Statement.sizeOfOption_numberedOption _ body
  | .forLoop _ _ _ _ body => exact Statement.sizeOfOption_numberedOption _ body
  | .declare .. => rfl
  | .assign .. => rfl
  | .evaluate .. => rfl
  | .returnWith .. => rfl
  | .assertion .. => rfl
  | .breakLoop _ => rfl
  | .continueLoop _ => rfl
  | .empty _ => rfl

theorem Block.size_numbered
    (start : Nat)
    (block : Block) :
    (block.numbered start).size = block.size := by
  match block with
  | .mk _ statements => exact Statement.sizeOfList_numberedList start statements

theorem Statement.sizeOfOption_numberedOption
    (start : Nat)
    (statement : Option Statement) :
    Statement.sizeOfOption (Statement.numberedOption start statement) =
      Statement.sizeOfOption statement := by
  match statement with
  | none => rfl
  | some statement => exact Statement.size_numbered start statement

theorem Statement.sizeOfList_numberedList
    (start : Nat)
    (statements : List Statement) :
    Statement.sizeOfList (Statement.numberedList start statements) =
      Statement.sizeOfList statements := by
  match statements with
  | [] => rfl
  | first :: rest =>
      simp only [Statement.numberedList, Statement.sizeOfList, Statement.size_numbered _ first,
        Statement.sizeOfList_numberedList _ rest]

end

/-! ## Scopes -/

@[simp]
theorem Statement.scopeAfter_numbered
    (start : Nat)
    (statement : Statement)
    (scope : Handle)
    (arena : Arena) :
    (statement.numbered start).scopeAfter scope arena = statement.scopeAfter scope arena := by
  simp only [Statement.scopeAfter, Statement.validate_numbered,
    Statement.asDeclaration?_numbered]
  cases statement.asDeclaration? with
  | none => rfl
  | some declaration => rfl

@[simp]
theorem Statement.scopeAfterVisit_numbered
    (start : Nat)
    (statement : Statement)
    (scope : Handle)
    (arena : Arena) :
    (statement.numbered start).scopeAfterVisit scope arena =
      statement.scopeAfterVisit scope arena := by
  simp only [Statement.scopeAfterVisit, Statement.asDeclaration?_numbered, Option.isSome_map,
    Statement.scopeAfter_numbered]

theorem Statement.scopeAfterList_numberedList
    (start : Nat)
    (statements : List Statement)
    (scope : Handle)
    (arena : Arena) :
    Statement.scopeAfterList (Statement.numberedList start statements) scope arena =
      Statement.scopeAfterList statements scope arena := by
  induction statements generalizing start scope arena with
  | nil => rfl
  | cons first rest hypothesis =>
      simp only [Statement.numberedList, Statement.scopeAfterList,
        Statement.scopeAfter_numbered, hypothesis]

theorem Block.scopeAfter_numbered
    (start : Nat)
    (block : Block)
    (scope : Handle)
    (arena : Arena) :
    (block.numbered start).scopeAfter scope arena = block.scopeAfter scope arena := by
  rw [Block.scopeAfter, Block.scopeAfter, Block.validate_numbered]

theorem Block.innerScope_numbered
    (start : Nat)
    (block : Block)
    (scope : Handle)
    (arena : Arena) :
    (block.numbered start).innerScope scope arena = block.innerScope scope arena := by
  cases block with
  | mk line statements =>
      simp only [Block.numbered, Block.innerScope, Block.statements,
        Statement.scopeAfterList_numberedList]

theorem FunctionDefinition.innerScope_numbered
    (start : Nat)
    (definition : FunctionDefinition)
    (scope : Handle)
    (arena : Arena) :
    (definition.numbered start).innerScope scope arena = definition.innerScope scope arena := by
  simp only [FunctionDefinition.numbered, FunctionDefinition.innerScope,
    FunctionDefinition.parameterScope, Block.innerScope_numbered]

/-! ## Resolution -/

mutual

theorem Statement.resolve_numbered
    (shadowing : Bool)
    (position : Option Position)
    (start : Nat)
    (statement : Statement)
    (scope : Handle)
    (arena : Arena) :
    (statement.numbered start).resolve shadowing position scope arena =
      statement.resolve shadowing position scope arena := by
  match statement with
  | .block _ body =>
      simp only [Statement.numbered, Statement.resolve,
        Block.resolveInside_numbered shadowing _ body]
  | .declare .. =>
      simp only [Statement.numbered, Statement.resolve, variableNamesOfOption_numberedOption]
  | .assign .. =>
      simp only [Statement.numbered, Statement.resolve, Place.variableNames_numbered,
        Expression.variableNames_numbered]
  | .evaluate .. =>
      simp only [Statement.numbered, Statement.resolve, Expression.variableNames_numbered]
  | .branch _ _ consequent alternative =>
      simp only [Statement.numbered, Statement.resolve, Expression.variableNames_numbered,
        Statement.resolve_numbered shadowing position _ consequent,
        Statement.resolveOption_numberedOption shadowing position _ alternative]
  | .whileLoop _ _ body =>
      simp only [Statement.numbered, Statement.resolve, Expression.variableNames_numbered,
        Statement.resolveOption_numberedOption shadowing position _ body]
  | .doWhile _ body _ =>
      simp only [Statement.numbered, Statement.resolve, Expression.variableNames_numbered,
        Statement.resolveOption_numberedOption shadowing position _ body]
  | .forLoop _ initial _ update body =>
      simp only [Statement.numbered, Statement.resolve, checkHeader_numberedOption,
        variableNamesOfOption_numberedOption,
        Statement.resolveInitial_numberedOption shadowing position _ initial,
        Statement.resolveOption_numberedOption shadowing position _ update,
        Statement.resolveOption_numberedOption shadowing position _ body]
  | .returnWith .. =>
      simp only [Statement.numbered, Statement.resolve, variableNamesOfOption_numberedOption]
  | .assertion .. =>
      simp only [Statement.numbered, Statement.resolve, Expression.variableNames_numbered]
  | .breakLoop _ => rfl
  | .continueLoop _ => rfl
  | .empty _ => rfl

theorem Block.resolveInside_numbered
    (shadowing : Bool)
    (start : Nat)
    (block : Block)
    (scope : Handle)
    (arena : Arena) :
    (block.numbered start).resolveInside shadowing scope arena =
      block.resolveInside shadowing scope arena := by
  match block with
  | .mk line statements =>
      exact Statement.resolveList_numberedList shadowing line 0 start statements scope arena

theorem Statement.resolveOption_numberedOption
    (shadowing : Bool)
    (position : Option Position)
    (start : Nat)
    (statement : Option Statement)
    (scope : Handle)
    (arena : Arena) :
    Statement.resolveOption shadowing position (Statement.numberedOption start statement) scope
        arena =
      Statement.resolveOption shadowing position statement scope arena := by
  match statement with
  | none => rfl
  | some statement =>
      exact Statement.resolve_numbered shadowing position start statement scope arena

theorem Statement.resolveInitial_numberedOption
    (shadowing : Bool)
    (position : Option Position)
    (start : Nat)
    (statement : Option Statement)
    (scope : Handle)
    (arena : Arena) :
    Statement.resolveInitial shadowing position (Statement.numberedOption start statement) scope
        arena =
      Statement.resolveInitial shadowing position statement scope arena := by
  match statement with
  | none => rfl
  | some statement =>
      simp only [Statement.numberedOption, Statement.resolveInitial,
        Statement.resolve_numbered shadowing position _ statement,
        Statement.scopeAfterVisit_numbered]

theorem Statement.resolveList_numberedList
    (shadowing : Bool)
    (blockLine index start : Nat)
    (statements : List Statement)
    (scope : Handle)
    (arena : Arena) :
    Statement.resolveList shadowing blockLine index (Statement.numberedList start statements)
        scope arena =
      Statement.resolveList shadowing blockLine index statements scope arena := by
  match statements with
  | [] => rfl
  | first :: rest =>
      simp only [Statement.numberedList, Statement.resolveList,
        Statement.resolve_numbered shadowing _ _ first, Statement.scopeAfterVisit_numbered,
        Statement.resolveList_numberedList shadowing blockLine _ _ rest]

end

theorem FunctionDefinition.resolve_numbered
    (shadowing : Bool)
    (start : Nat)
    (definition : FunctionDefinition)
    (arena : Arena) :
    (definition.numbered start).resolve shadowing arena = definition.resolve shadowing arena := by
  simp only [FunctionDefinition.numbered, FunctionDefinition.resolve,
    FunctionDefinition.parameterScope, Block.resolveInside_numbered]

theorem FunctionDefinition.resolveList_numberedList
    (shadowing : Bool)
    (start : Nat)
    (definitions : List FunctionDefinition)
    (arena : Arena) :
    FunctionDefinition.resolveList shadowing (FunctionDefinition.numberedList start definitions)
        arena =
      FunctionDefinition.resolveList shadowing definitions arena := by
  induction definitions generalizing start arena with
  | nil => rfl
  | cons first rest hypothesis =>
      simp only [FunctionDefinition.numberedList, FunctionDefinition.resolveList,
        FunctionDefinition.resolve_numbered, hypothesis]

/-- Resolution gives the same diagnostics for the numbered program. -/
theorem Program.resolve_numbered
    (shadowing : Bool)
    (start : Nat)
    (program : Program) :
    (program.numbered start).resolve shadowing = program.resolve shadowing := by
  rw [Program.resolve, Program.numbered, FunctionDefinition.resolveList_numberedList,
    Program.resolve]

end SynthesisHoles
