import SynthesisHoles.Proofs.Outcome
import SynthesisHoles.Proofs.Scope.Lookup
import SynthesisHoles.Scope.Resolution

/-!
# Resolution is plain lexical scoping

Resolution works with handles into one arena, in which frames are made and discarded all the time.
Here the same rules are written down with nothing but the list of the visible variables: a function
starts from its parameters, a declaration puts its variable in front of the list for the statements
that follow it in its block, the initializer of a loop does so for the rest of that loop, and nothing
else changes the list.

The main statement says that both give the same diagnostics in the same order, for every program and
with or without warnings about hidden variables. The proof relates a scope of an arena to the list for
which it stands. Every part of the walk leaves the frames that it found, and only these frames decide
for what a scope stands.
-/

namespace SynthesisHoles

/-! ## Environments -/

/-- The visible variables, the innermost first. -/
abbrev Environment := List Binding

/-- Type of a variable in an environment: the innermost one of the name counts. -/
def Environment.type? (environment : Environment) (name : String) : Option DataType :=
  (environment.find? fun binding => binding.name = name).map Binding.type

/-- Findings at one use of a variable: that it is not visible, if it is not. -/
def Environment.findingsAt
    (environment : Environment)
    (position : Option Position)
    (line : Nat)
    (name : String) :
    List Diagnostic :=
  match environment.type? name with
  | some _ => []
  | none => [(ProgramError.unresolvedName name line).report position]

/-- Findings at a declaration: that it hides a visible variable, if it does and this is wanted. -/
def Environment.findingsAtDeclaration
    (environment : Environment)
    (wanted : Bool)
    (position : Option Position)
    (line : Nat)
    (name : String) :
    List Diagnostic :=
  if wanted then
    match environment.type? name with
    | some hidden => [shadowingWarning name line position hidden]
    | none => []
  else
    []

/-! ## The walk with environments -/

mutual

/-- What is found at the variables of an expression, in reading order. -/
def Expression.atVariables (found : String → List Diagnostic) : Expression → List Diagnostic
  | .literal _ => []
  | .hole _ => []
  | .var name => found name
  | .field base _ => base.atVariables found
  | .element base position => base.atVariables found ++ position.atVariables found
  | .array items => Expression.atVariablesOfList found items
  | .call _ arguments => Expression.atVariablesOfList found arguments
  | .conditional condition whenTrue whenFalse =>
      condition.atVariables found
        ++ (whenTrue.atVariables found ++ whenFalse.atVariables found)

def Expression.atVariablesOfList
    (found : String → List Diagnostic) :
    List Expression → List Diagnostic
  | [] => []
  | first :: rest => first.atVariables found ++ Expression.atVariablesOfList found rest

end

def Expression.atVariablesOfOption
    (found : String → List Diagnostic) :
    Option Expression → List Diagnostic
  | none => []
  | some expression => expression.atVariables found

/-- What is found at the variables of a place, in reading order. -/
def Place.atVariables (found : String → List Diagnostic) : Place → List Diagnostic
  | .var name => found name
  | .element base position => base.atVariables found ++ position.atVariables found
  | .field base _ => base.atVariables found

/-- Environment after a statement: only a declaration adds to it. -/
def Statement.environmentAfter : Statement → Environment → Environment
  | .declare _ binding _, environment => binding :: environment
  | _, environment => environment

def Statement.environmentAfterOption : Option Statement → Environment → Environment
  | none, environment => environment
  | some statement, environment => statement.environmentAfter environment

mutual

/-- Findings in a statement that stands in an environment. -/
def Statement.lexicalFindings
    (shadowing : Bool)
    (position : Option Position) :
    Statement → Environment → List Diagnostic
  | .block _ body, environment => body.lexicalFindings shadowing environment
  | .declare line binding initial, environment =>
      Expression.atVariablesOfOption (environment.findingsAt position line) initial
        ++ environment.findingsAtDeclaration shadowing position line binding.name
  | .assign line place value, environment =>
      place.atVariables (environment.findingsAt position line)
        ++ value.atVariables (environment.findingsAt position line)
  | .evaluate line expression, environment =>
      expression.atVariables (environment.findingsAt position line)
  | .branch line condition consequent alternative, environment =>
      condition.atVariables (environment.findingsAt position line)
        ++ (consequent.lexicalFindings shadowing position environment
          ++ Statement.lexicalFindingsOfOption shadowing position alternative environment)
  | .whileLoop line condition body, environment =>
      condition.atVariables (environment.findingsAt position line)
        ++ Statement.lexicalFindingsOfOption shadowing position body environment
  | .doWhile line body condition, environment =>
      Statement.lexicalFindingsOfOption shadowing position body environment
        ++ condition.atVariables (environment.findingsAt position line)
  | .forLoop line initial condition update body, environment =>
      match checkHeader line initial condition update with
      | .error error => [error.report position]
      | .ok () =>
          let inside := Statement.environmentAfterOption initial environment
          Statement.lexicalFindingsOfOption shadowing position initial environment
            ++ (Expression.atVariablesOfOption (inside.findingsAt position line) condition
              ++ (Statement.lexicalFindingsOfOption shadowing position update inside
                ++ Statement.lexicalFindingsOfOption shadowing position body inside))
  | .returnWith line value, environment =>
      Expression.atVariablesOfOption (environment.findingsAt position line) value
  | .assertion line condition, environment =>
      condition.atVariables (environment.findingsAt position line)
  | .breakLoop _, _ => []
  | .continueLoop _, _ => []
  | .empty _, _ => []

/-- Findings in the statements of a block that stands in an environment. -/
def Block.lexicalFindings (shadowing : Bool) : Block → Environment → List Diagnostic
  | .mk line statements, environment =>
      Statement.lexicalFindingsOfList shadowing line 0 statements environment

def Statement.lexicalFindingsOfOption
    (shadowing : Bool)
    (position : Option Position) :
    Option Statement → Environment → List Diagnostic
  | none, _ => []
  | some statement, environment => statement.lexicalFindings shadowing position environment

/-- Findings in the statements of a block from a position on, each in the environment after the last. -/
def Statement.lexicalFindingsOfList
    (shadowing : Bool)
    (blockLine : Nat) :
    Nat → List Statement → Environment → List Diagnostic
  | _, [], _ => []
  | index, first :: rest, environment =>
      first.lexicalFindings shadowing (some ⟨index, blockLine⟩) environment
        ++ Statement.lexicalFindingsOfList shadowing blockLine (index + 1) rest
          (first.environmentAfter environment)

end

/-- Findings in a function, which sees its parameters only; the last of a name counts. -/
def FunctionDefinition.lexicalFindings
    (shadowing : Bool)
    (definition : FunctionDefinition) :
    List Diagnostic :=
  definition.body.lexicalFindings shadowing definition.parameters.reverse

/-- Findings in a program, function by function. -/
def Program.lexicalFindings (program : Program) (shadowing : Bool) : List Diagnostic :=
  program.functions.flatMap (FunctionDefinition.lexicalFindings shadowing)

/-! ## Variables in reading order -/

mutual

theorem Expression.atVariables_eq
    (found : String → List Diagnostic)
    (expression : Expression) :
    expression.atVariables found = expression.variableNames.flatMap found := by
  match expression with
  | .literal _ => rfl
  | .hole _ => rfl
  | .var name =>
      rw [Expression.atVariables, Expression.variableNames, List.flatMap_singleton]
  | .field base _ => exact Expression.atVariables_eq found base
  | .element base position =>
      have atBase := Expression.atVariables_eq found base
      have atPosition := Expression.atVariables_eq found position
      rw [Expression.atVariables, Expression.variableNames, List.flatMap_append, atBase, atPosition]
  | .array items => exact Expression.atVariablesOfList_eq found items
  | .call _ arguments => exact Expression.atVariablesOfList_eq found arguments
  | .conditional condition whenTrue whenFalse =>
      have atCondition := Expression.atVariables_eq found condition
      have atWhenTrue := Expression.atVariables_eq found whenTrue
      have atWhenFalse := Expression.atVariables_eq found whenFalse
      rw [Expression.atVariables, Expression.variableNames, List.flatMap_append,
        List.flatMap_append, atCondition, atWhenTrue, atWhenFalse]

theorem Expression.atVariablesOfList_eq
    (found : String → List Diagnostic)
    (expressions : List Expression) :
    Expression.atVariablesOfList found expressions =
      (Expression.variableNamesOfList expressions).flatMap found := by
  match expressions with
  | [] => rfl
  | first :: rest =>
      have atFirst := Expression.atVariables_eq found first
      have atRest := Expression.atVariablesOfList_eq found rest
      rw [Expression.atVariablesOfList, Expression.variableNamesOfList, List.flatMap_append,
        atFirst, atRest]

end

theorem Expression.atVariablesOfOption_eq
    (found : String → List Diagnostic)
    (expression : Option Expression) :
    Expression.atVariablesOfOption found expression =
      (variableNamesOfOption expression).flatMap found := by
  cases expression with
  | none => rfl
  | some expression => exact Expression.atVariables_eq found expression

theorem Place.atVariables_eq
    (found : String → List Diagnostic)
    (place : Place) :
    place.atVariables found = place.variableNames.flatMap found := by
  cases place with
  | var name =>
      rw [Place.atVariables, Place.variableNames, List.flatMap_singleton]
  | element base position =>
      have atBase := Expression.atVariables_eq found base
      have atPosition := Expression.atVariables_eq found position
      rw [Place.atVariables, Place.variableNames, List.flatMap_append, atBase, atPosition]
  | field base _ => exact Expression.atVariables_eq found base

/-- What is found at uses of variables are reports of names that are not visible. -/
theorem Environment.eq_report_of_mem_findingsAt
    {environment : Environment}
    {position : Option Position}
    {line : Nat}
    {names : List String}
    {diagnostic : Diagnostic}
    (member : diagnostic ∈ names.flatMap (environment.findingsAt position line)) :
    ∃ name, diagnostic = (ProgramError.unresolvedName name line).report position := by
  rcases List.mem_flatMap.mp member with ⟨name, _, found⟩
  rw [Environment.findingsAt] at found
  cases visible : environment.type? name with
  | some _ =>
      rw [visible] at found
      cases found
  | none =>
      rw [visible] at found
      exact ⟨name, List.mem_singleton.mp found⟩

/-! ## Scopes that stand for environments -/

/-- A scope of an arena stands for an environment: it is live and sees the same types. -/
structure Arena.Represents
    (arena : Arena)
    (scope : Handle)
    (environment : Environment) : Prop where
  live : arena.isLive scope = true
  types : ∀ name, arena.get? scope name = environment.type? name

namespace Arena.Represents

variable {arena left right : Arena} {scope : Handle} {environment : Environment}

/-- For what a scope stands is decided by the frames. -/
theorem of_frames_eq
    (represents : left.Represents scope environment)
    (same : right.frames = left.frames) :
    right.Represents scope environment where
  live := by
    rw [isLive_congr same]
    exact represents.live
  types name := by
    rw [get?_congr same]
    exact represents.types name

/-- A new scope that binds nothing stands for the same environment. -/
theorem child
    (represents : arena.Represents scope environment) :
    (arena.pushed scope ∅).Represents arena.nextHandle environment where
  live := isLive_nextHandle arena scope ∅
  types name := by
    rw [get?_nextHandle, OrderedMap.get?_empty, Option.none_or]
    exact represents.types name

/-- A new scope with bindings stands for the environment with these in front, the last one first. -/
theorem extend
    (represents : arena.Represents scope environment)
    (bindings : List Binding) :
    (arena.pushed scope (.ofList (bindings.map Binding.toPair))).Represents
      arena.nextHandle (bindings.reverse ++ environment) where
  live := isLive_nextHandle arena scope _
  types name := by
    have own :
        (OrderedMap.ofList (bindings.map Binding.toPair)).get? name =
          Environment.type? bindings.reverse name := by
      rw [OrderedMap.get?_ofList, ← List.map_reverse, List.find?_map, Option.map_map]
      rfl
    rw [get?_nextHandle, own, represents.types, Environment.type?, Environment.type?,
      Environment.type?, List.find?_append, Option.map_or]

/-- The uses of variables are found to be as visible from the scope as in the environment. -/
theorem unresolved_eq
    (represents : arena.Represents scope environment)
    (position : Option Position)
    (line : Nat)
    (names : List String) :
    arena.unresolved position scope line names =
      names.flatMap (environment.findingsAt position line) := by
  induction names with
  | nil => rfl
  | cons name rest hypothesis =>
      rw [List.flatMap_cons, ← hypothesis, Environment.findingsAt, ← represents.types,
        unresolved, List.filterMap_cons, resolve]
      cases arena.get? scope name <;> rfl

/-- A declaration is found to hide the same variable from the scope as in the environment. -/
theorem shadowed_eq
    (represents : arena.Represents scope environment)
    (wanted : Bool)
    (position : Option Position)
    (line : Nat)
    (name : String) :
    arena.shadowed wanted position scope line name =
      environment.findingsAtDeclaration wanted position line name := by
  rw [shadowed, Environment.findingsAtDeclaration, represents.types]
  cases wanted <;> cases environment.type? name <;> rfl

theorem unresolved_expression
    (represents : arena.Represents scope environment)
    (position : Option Position)
    (line : Nat)
    (expression : Expression) :
    arena.unresolved position scope line expression.variableNames =
      expression.atVariables (environment.findingsAt position line) := by
  rw [represents.unresolved_eq, Expression.atVariables_eq]

theorem unresolved_optionalExpression
    (represents : arena.Represents scope environment)
    (position : Option Position)
    (line : Nat)
    (expression : Option Expression) :
    arena.unresolved position scope line (variableNamesOfOption expression) =
      Expression.atVariablesOfOption (environment.findingsAt position line) expression := by
  rw [represents.unresolved_eq, Expression.atVariablesOfOption_eq]

theorem unresolved_place
    (represents : arena.Represents scope environment)
    (position : Option Position)
    (line : Nat)
    (place : Place) :
    arena.unresolved position scope line place.variableNames =
      place.atVariables (environment.findingsAt position line) := by
  rw [represents.unresolved_eq, Place.atVariables_eq]

end Arena.Represents

/-! ## One statement after another -/

/-- The scope after a statement stands for the environment after it. -/
theorem Statement.scopeAfterVisit_represents
    (statement : Statement)
    {scope : Handle}
    {arena : Arena}
    {environment : Environment}
    (represents : arena.Represents scope environment) :
    ∃ next after,
      statement.scopeAfterVisit scope arena = .ok (next, after) ∧
        arena.frames <:+ after.frames ∧
          after.Represents next (statement.environmentAfter environment) := by
  cases statement with
  | declare line binding initial =>
      have pushed :
          arena.declare scope binding =
            .ok (arena.nextHandle, arena.pushed scope (.ofList [binding.toPair])) :=
        Arena.push_eq represents.live _
      refine ⟨arena.nextHandle, arena.pushed scope (.ofList [binding.toPair]), ?_, ?_, ?_⟩
      · simp [Statement.scopeAfterVisit, Statement.scopeAfter, Statement.validate,
          Statement.asDeclaration?, pushed]
      · exact List.suffix_cons _ _
      · exact represents.extend [binding]
  | _ =>
      exact ⟨scope, arena, rfl, List.suffix_refl _, represents⟩

mutual

/-- The walk through a statement finds what lexical scoping finds, and leaves the frames. -/
theorem Statement.resolve_represents
    (shadowing : Bool)
    (position : Option Position)
    (statement : Statement)
    {scope : Handle}
    {arena : Arena}
    {environment : Environment}
    (represents : arena.Represents scope environment) :
    ∃ after,
      statement.resolve shadowing position scope arena =
          .ok (statement.lexicalFindings shadowing position environment, after) ∧
        after.frames = arena.frames := by
  match statement with
  | .block line body =>
      rcases Block.resolveInside_represents shadowing body represents.child with
        ⟨after, found, kept⟩
      have below : arena.frames <:+ after.frames :=
        (List.suffix_cons _ _).trans kept
      refine ⟨after.rewind arena.mark, ?_, Arena.frames_rewind_mark below⟩
      simp [Statement.resolve, Statement.lexicalFindings, Arena.child,
        Arena.push_eq represents.live, found]
  | .declare line binding initial =>
      refine ⟨arena, ?_, rfl⟩
      rw [Statement.resolve, Statement.lexicalFindings,
        represents.unresolved_optionalExpression, represents.shadowed_eq, pure_eq_ok]
  | .assign line place value =>
      refine ⟨arena, ?_, rfl⟩
      rw [Statement.resolve, Statement.lexicalFindings, represents.unresolved_place,
        represents.unresolved_expression, pure_eq_ok]
  | .evaluate line expression =>
      refine ⟨arena, ?_, rfl⟩
      rw [Statement.resolve, Statement.lexicalFindings, represents.unresolved_expression,
        pure_eq_ok]
  | .branch line condition consequent alternative =>
      rcases Statement.resolve_represents shadowing position consequent represents with
        ⟨middle, inConsequent, middleSame⟩
      rcases
          Statement.resolveOption_represents shadowing position alternative
            (represents.of_frames_eq middleSame) with
        ⟨after, inAlternative, afterSame⟩
      refine ⟨after, ?_, afterSame.trans middleSame⟩
      simp [Statement.resolve, Statement.lexicalFindings, represents.unresolved_expression,
        inConsequent, inAlternative]
  | .whileLoop line condition body =>
      rcases Statement.resolveOption_represents shadowing position body represents with
        ⟨after, inBody, same⟩
      refine ⟨after, ?_, same⟩
      simp [Statement.resolve, Statement.lexicalFindings, represents.unresolved_expression,
        inBody]
  | .doWhile line body condition =>
      rcases Statement.resolveOption_represents shadowing position body represents with
        ⟨after, inBody, same⟩
      have still : after.Represents scope environment :=
        represents.of_frames_eq same
      refine ⟨after, ?_, same⟩
      simp [Statement.resolve, Statement.lexicalFindings, still.unresolved_expression, inBody]
  | .forLoop line initial condition update body =>
      cases header : checkHeader line initial condition update with
      | error error =>
          refine ⟨arena, ?_, rfl⟩
          simp [Statement.resolve, Statement.lexicalFindings, header]
      | ok _ =>
          rcases
              Statement.resolveInitial_represents shadowing position initial represents.child with
            ⟨next, opened, inInitial, openedKept, inside⟩
          rcases Statement.resolveOption_represents shadowing position update inside with
            ⟨middle, inUpdate, middleSame⟩
          rcases
              Statement.resolveOption_represents shadowing position body
                (inside.of_frames_eq middleSame) with
            ⟨after, inBody, afterSame⟩
          have below : arena.frames <:+ after.frames := by
            rw [afterSame, middleSame]
            exact (List.suffix_cons _ _).trans openedKept
          refine ⟨after.rewind arena.mark, ?_, Arena.frames_rewind_mark below⟩
          simp [Statement.resolve, Statement.lexicalFindings, header, Arena.child,
            Arena.push_eq represents.live, inInitial, inside.unresolved_optionalExpression,
            inUpdate, inBody]
  | .returnWith line value =>
      refine ⟨arena, ?_, rfl⟩
      rw [Statement.resolve, Statement.lexicalFindings,
        represents.unresolved_optionalExpression, pure_eq_ok]
  | .assertion line condition =>
      refine ⟨arena, ?_, rfl⟩
      rw [Statement.resolve, Statement.lexicalFindings, represents.unresolved_expression,
        pure_eq_ok]
  | .breakLoop line => exact ⟨arena, rfl, rfl⟩
  | .continueLoop line => exact ⟨arena, rfl, rfl⟩
  | .empty line => exact ⟨arena, rfl, rfl⟩

/-- The walk through a block leaves frames for its declarations on top of those that it found. -/
theorem Block.resolveInside_represents
    (shadowing : Bool)
    (block : Block)
    {scope : Handle}
    {arena : Arena}
    {environment : Environment}
    (represents : arena.Represents scope environment) :
    ∃ after,
      block.resolveInside shadowing scope arena =
          .ok (block.lexicalFindings shadowing environment, after) ∧
        arena.frames <:+ after.frames := by
  match block with
  | .mk line statements =>
      exact Statement.resolveList_represents shadowing line 0 statements represents

theorem Statement.resolveOption_represents
    (shadowing : Bool)
    (position : Option Position)
    (statement : Option Statement)
    {scope : Handle}
    {arena : Arena}
    {environment : Environment}
    (represents : arena.Represents scope environment) :
    ∃ after,
      Statement.resolveOption shadowing position statement scope arena =
          .ok (Statement.lexicalFindingsOfOption shadowing position statement environment, after) ∧
        after.frames = arena.frames := by
  match statement with
  | none => exact ⟨arena, rfl, rfl⟩
  | some statement =>
      exact Statement.resolve_represents shadowing position statement represents

/-- The rest of a loop is walked in a scope that stands for the environment after its initializer. -/
theorem Statement.resolveInitial_represents
    (shadowing : Bool)
    (position : Option Position)
    (statement : Option Statement)
    {scope : Handle}
    {arena : Arena}
    {environment : Environment}
    (represents : arena.Represents scope environment) :
    ∃ next after,
      Statement.resolveInitial shadowing position statement scope arena =
          .ok
            (Statement.lexicalFindingsOfOption shadowing position statement environment,
              next, after) ∧
        arena.frames <:+ after.frames ∧
          after.Represents next (Statement.environmentAfterOption statement environment) := by
  match statement with
  | none => exact ⟨scope, arena, rfl, List.suffix_refl _, represents⟩
  | some statement =>
      rcases Statement.resolve_represents shadowing position statement represents with
        ⟨middle, inside, same⟩
      rcases statement.scopeAfterVisit_represents (represents.of_frames_eq same) with
        ⟨next, after, visited, kept, still⟩
      rw [same] at kept
      refine ⟨next, after, ?_, kept, still⟩
      simp [Statement.resolveInitial, Statement.lexicalFindingsOfOption, inside, visited]

theorem Statement.resolveList_represents
    (shadowing : Bool)
    (blockLine index : Nat)
    (statements : List Statement)
    {scope : Handle}
    {arena : Arena}
    {environment : Environment}
    (represents : arena.Represents scope environment) :
    ∃ after,
      Statement.resolveList shadowing blockLine index statements scope arena =
          .ok
            (Statement.lexicalFindingsOfList shadowing blockLine index statements environment,
              after) ∧
        arena.frames <:+ after.frames := by
  match statements with
  | [] => exact ⟨arena, rfl, List.suffix_refl _⟩
  | first :: rest =>
      rcases Statement.resolve_represents shadowing (some ⟨index, blockLine⟩) first represents with
        ⟨visited, inFirst, same⟩
      rcases first.scopeAfterVisit_represents (represents.of_frames_eq same) with
        ⟨next, opened, stepped, openedKept, still⟩
      rcases Statement.resolveList_represents shadowing blockLine (index + 1) rest still with
        ⟨after, inRest, afterKept⟩
      rw [same] at openedKept
      refine ⟨after, ?_, openedKept.trans afterKept⟩
      simp [Statement.resolveList, Statement.lexicalFindingsOfList, inFirst, stepped, inRest]

end

/-! ## Functions and programs -/

/-- The outermost scope of an arena without other frames stands for the empty environment. -/
theorem Arena.represents_root
    {arena : Arena}
    (bare : arena.frames = Arena.initial.frames) :
    arena.Represents Arena.root [] := by
  have initially : Arena.initial.Represents Arena.root [] :=
    ⟨rfl, fun _ => rfl⟩
  exact initially.of_frames_eq bare

/-- The walk through a function finds what lexical scoping finds, and leaves the outermost frame. -/
theorem FunctionDefinition.resolve_of_bare
    (shadowing : Bool)
    (definition : FunctionDefinition)
    {arena : Arena}
    (bare : arena.frames = Arena.initial.frames) :
    ∃ after,
      definition.resolve shadowing arena = .ok (definition.lexicalFindings shadowing, after) ∧
        after.frames = Arena.initial.frames := by
  have outermost := Arena.represents_root bare
  have parameters :
      (arena.pushed Arena.root (.ofList (definition.parameters.map Binding.toPair))).Represents
        arena.nextHandle definition.parameters.reverse := by
    simpa using outermost.extend definition.parameters
  rcases Block.resolveInside_represents shadowing definition.body parameters with
    ⟨after, inBody, kept⟩
  have below : arena.frames <:+ after.frames :=
    (List.suffix_cons _ _).trans kept
  refine ⟨after.rewind arena.mark, ?_, (Arena.frames_rewind_mark below).trans bare⟩
  simp [FunctionDefinition.resolve, FunctionDefinition.lexicalFindings,
    FunctionDefinition.parameterScope, Arena.extend, Arena.push_eq outermost.live, inBody]

theorem FunctionDefinition.resolveList_of_bare
    (shadowing : Bool)
    (definitions : List FunctionDefinition)
    {arena : Arena}
    (bare : arena.frames = Arena.initial.frames) :
    ∃ after,
      FunctionDefinition.resolveList shadowing definitions arena =
          .ok (definitions.flatMap (FunctionDefinition.lexicalFindings shadowing), after) ∧
        after.frames = Arena.initial.frames := by
  induction definitions generalizing arena with
  | nil => exact ⟨arena, rfl, bare⟩
  | cons first rest hypothesis =>
      rcases first.resolve_of_bare shadowing bare with ⟨middle, inFirst, middleBare⟩
      rcases hypothesis middleBare with ⟨after, inRest, afterBare⟩
      refine ⟨after, ?_, afterBare⟩
      simp [FunctionDefinition.resolveList, inFirst, inRest]

/-- Resolution of a program goes through its functions, one after the other. -/
theorem Program.resolve_eq_flatMap
    (program : Program)
    (shadowing : Bool) :
    program.resolve shadowing =
      .ok (program.functions.flatMap (FunctionDefinition.lexicalFindings shadowing)) := by
  have bare : Arena.initial.frames = Arena.initial.frames := rfl
  rcases FunctionDefinition.resolveList_of_bare shadowing program.functions bare with
    ⟨_, found, _⟩
  rw [Program.resolve, found]
  rfl

/-- Resolution meets no fault. -/
theorem Program.resolve_succeeds
    (program : Program)
    (shadowing : Bool) :
    ∃ diagnostics, program.resolve shadowing = .ok diagnostics :=
  ⟨_, program.resolve_eq_flatMap shadowing⟩

/--
Resolution with the arena is plain lexical scoping: it meets no fault, and its diagnostics are those of
the walk with environments, in the same order.
-/
theorem Program.resolve_eq_lexicalFindings
    (program : Program)
    (shadowing : Bool) :
    program.resolve shadowing = .ok (program.lexicalFindings shadowing) := by
  have bare : Arena.initial.frames = Arena.initial.frames := rfl
  rcases FunctionDefinition.resolveList_of_bare shadowing program.functions bare with
    ⟨after, found, _⟩
  simp [Program.resolve, Program.lexicalFindings, found]

end SynthesisHoles
