import SynthesisHoles.Proofs.Outcome
import SynthesisHoles.Proofs.Scope.Lookup
import SynthesisHoles.Scope.Resolution

/-!
# The walk of the resolver

Resolution gets the position of a statement as an argument and answers an arena. Here it is a walk with one
state, as a resolver that holds its scopes, the current position and what was found so far: entering a
block sets the position and has to bring the old one back at the end, and frames are made and discarded on
the way. Each visit of a function, a block, a statement, an expression or a place is recorded with the
state at its start and at its end, and so is how often a declaration failed to give a scope.

The main statement says that the record is complete: the walk through a program visits its functions and all
that they are made of, except inside of malformed loops, each once and before what it is a part of.
-/

namespace SynthesisHoles

/-! ## Visits -/

/-- What is visited; an expression or a place is visited for the statement at a line. -/
inductive Subject
  | function (definition : FunctionDefinition)
  | block (body : Block)
  | statement (statement : Statement)
  | expression (line : Nat) (expression : Expression)
  | place (line : Nat) (place : Place)

/-- The scopes, and the position of the current statement. -/
structure ResolverState where
  arena : Arena
  position : Option Position

/-- A visit in a scope, with the state at its start and at its end. -/
structure Visit where
  subject : Subject
  scope : Handle
  before : ResolverState
  after : ResolverState

/--
A resolver: its state, what it found and which visits ended so far, and how often it had to stay in a scope
because a declaration gave none.
-/
structure Resolver extends ResolverState where
  found : List Diagnostic
  visits : List Visit
  fallbacks : Nat

/-- The resolver at the start of a program. -/
def Resolver.initial : Resolver where
  arena := .initial
  position := none
  found := []
  visits := []
  fallbacks := 0

/-- The resolver with a visit more. -/
def Resolver.record (resolver : Resolver) (visit : Visit) : Resolver :=
  { resolver with visits := resolver.visits ++ [visit] }

/-- What was visited, in the order in which the visits ended. -/
def Resolver.subjects (resolver : Resolver) : List Subject :=
  resolver.visits.map Visit.subject

theorem Resolver.subjects_record (resolver : Resolver) (visit : Visit) :
    (resolver.record visit).subjects = resolver.subjects ++ [visit.subject] := by
  rw [subjects, record, List.map_append]
  rfl

/-- The resolver with a frame more, made inside a scope. -/
def Resolver.opened
    (resolver : Resolver)
    (scope : Handle)
    (bindings : OrderedMap DataType) :
    Resolver :=
  { resolver with arena := resolver.arena.pushed scope bindings }

@[simp]
theorem Resolver.arena_opened
    (resolver : Resolver)
    (scope : Handle)
    (bindings : OrderedMap DataType) :
    (resolver.opened scope bindings).arena = resolver.arena.pushed scope bindings :=
  rfl

@[simp]
theorem Resolver.position_opened
    (resolver : Resolver)
    (scope : Handle)
    (bindings : OrderedMap DataType) :
    (resolver.opened scope bindings).position = resolver.position :=
  rfl

/-- A part of the work of a resolver. -/
abbrev Walk :=
  Resolver → Except Fault Resolver

namespace Walk

/-- Records the walk as a visit. -/
def visiting (subject : Subject) (scope : Handle) (walk : Walk) : Walk := fun before => do
  let after ← walk before
  return after.record ⟨subject, scope, before.toResolverState, after.toResolverState⟩

/-- Adds diagnostics that depend on the state. -/
def finding (diagnostics : ResolverState → List Diagnostic) : Walk := fun resolver =>
  .ok { resolver with found := resolver.found ++ diagnostics resolver.toResolverState }

/-- Opens a scope, walks in it, and discards the frames that were made since. -/
def inside
    (opening : Arena → Except Fault (Handle × Arena))
    (walk : Handle → Walk) :
    Walk := fun before => do
  let mark := before.arena.mark
  let (inner, opened) ← opening before.arena
  let after ← walk inner { before with arena := opened }
  return { after with arena := after.arena.rewind mark }

/-- The last visit of a recorded walk is that of its own subject, with the states that it had. -/
theorem visiting_eq_ok_iff
    {subject : Subject}
    {scope : Handle}
    {walk : Walk}
    {before after : Resolver} :
    visiting subject scope walk before = .ok after ↔
      ∃ walked,
        walk before = .ok walked ∧
          after =
            walked.record ⟨subject, scope, before.toResolverState, walked.toResolverState⟩ := by
  rw [visiting, bind_eq_ok_iff]
  simp only [pure_eq_ok, Except.ok.injEq, eq_comm]

/-- A recorded walk visits what the walk does, and then its own subject. -/
theorem subjects_visiting
    {subject : Subject}
    {scope : Handle}
    {walk : Walk}
    {before after : Resolver}
    {parts : List Subject}
    (visited : visiting subject scope walk before = .ok after)
    (inWalk : ∀ walked, walk before = .ok walked → walked.subjects = before.subjects ++ parts) :
    after.subjects = before.subjects ++ (parts ++ [subject]) := by
  rcases visiting_eq_ok_iff.mp visited with ⟨walked, finished, rfl⟩
  rw [Resolver.subjects_record, inWalk walked finished, List.append_assoc]

/-- To do nothing is no visit. -/
theorem subjects_stay
    {before after : Resolver}
    (stayed : (.ok before : Except Fault Resolver) = .ok after) :
    after.subjects = before.subjects ++ [] := by
  cases stayed
  exact (List.append_nil _).symm

theorem subjects_finding
    {diagnostics : ResolverState → List Diagnostic}
    {before after : Resolver}
    (found : finding diagnostics before = .ok after) :
    after.subjects = before.subjects := by
  cases found
  rfl

/-- To look for something is one visit. -/
theorem subjects_visiting_finding
    {subject : Subject}
    {scope : Handle}
    {diagnostics : ResolverState → List Diagnostic}
    {before after : Resolver}
    (visited : visiting subject scope (finding diagnostics) before = .ok after) :
    after.subjects = before.subjects ++ [subject] := by
  rcases visiting_eq_ok_iff.mp visited with ⟨walked, found, rfl⟩
  rw [Resolver.subjects_record, subjects_finding found]

/-- A walk in a scope of its own visits what it visits in whatever scope is opened. -/
theorem subjects_inside
    {opening : Arena → Except Fault (Handle × Arena)}
    {walk : Handle → Walk}
    {before after : Resolver}
    {parts : List Subject}
    (walked : inside opening walk before = .ok after)
    (inWalk :
      ∀ inner start finish,
        walk inner start = .ok finish → finish.subjects = start.subjects ++ parts) :
    after.subjects = before.subjects ++ parts := by
  rcases (bind_eq_ok_iff _ _ _).mp walked with ⟨⟨inner, opened⟩, _, rest⟩
  rcases (bind_eq_ok_iff _ _ _).mp rest with ⟨finish, finished, discarded⟩
  cases discarded
  exact inWalk inner { before with arena := opened } finish finished

end Walk

/-! ## The walk -/

def Expression.visit (line : Nat) (expression : Expression) (scope : Handle) : Walk :=
  .visiting (.expression line expression) scope
    (.finding fun state =>
      state.arena.unresolved state.position scope line expression.variableNames)

def Expression.visitOption (line : Nat) (expression : Option Expression) (scope : Handle) : Walk :=
  match expression with
  | none => .ok
  | some expression => expression.visit line scope

def Place.visit (line : Nat) (place : Place) (scope : Handle) : Walk :=
  .visiting (.place line place) scope
    (.finding fun state => state.arena.unresolved state.position scope line place.variableNames)

/-- Goes on to the scope after a statement. -/
def Statement.goPast
    (statement : Statement)
    (scope : Handle)
    (resolver : Resolver) :
    Except Fault (Handle × Resolver) := do
  if statement.asDeclaration?.isSome then
    match ← statement.scopeAfter scope resolver.arena with
    | (.ok extended, arena) => return (extended, { resolver with arena })
    | (.error _, arena) =>
        return (scope, { resolver with arena, fallbacks := resolver.fallbacks + 1 })
  else
    return (scope, resolver)

mutual

/-- Visits a statement in a scope. -/
def Statement.visit (shadowing : Bool) (statement : Statement) (scope : Handle) : Walk :=
  .visiting (.statement statement) scope fun resolver =>
    match statement with
    | .block _ body =>
        Walk.visiting (.block body) scope
          (.inside (Arena.child · scope) fun inner => body.visitInside shadowing inner) resolver
    | .declare line binding initial => do
        let resolver ← Expression.visitOption line initial scope resolver
        Walk.finding
          (fun state => state.arena.shadowed shadowing state.position scope line binding.name)
          resolver
    | .assign line place value => do
        let resolver ← place.visit line scope resolver
        value.visit line scope resolver
    | .evaluate line expression => expression.visit line scope resolver
    | .branch line condition consequent alternative => do
        let resolver ← condition.visit line scope resolver
        let resolver ← consequent.visit shadowing scope resolver
        Statement.visitOption shadowing alternative scope resolver
    | .whileLoop line condition body => do
        let resolver ← condition.visit line scope resolver
        Statement.visitOption shadowing body scope resolver
    | .doWhile line body condition => do
        let resolver ← Statement.visitOption shadowing body scope resolver
        condition.visit line scope resolver
    | .forLoop line initial condition update body =>
        match checkHeader line initial condition update with
        | .error error => Walk.finding (fun state => [error.report state.position]) resolver
        | .ok () =>
            Walk.inside (Arena.child · scope) (fun header resolver => do
              let (header, resolver) ← Statement.visitInitial shadowing initial header resolver
              let resolver ← Expression.visitOption line condition header resolver
              let resolver ← Statement.visitOption shadowing update header resolver
              Statement.visitOption shadowing body header resolver) resolver
    | .returnWith line value => Expression.visitOption line value scope resolver
    | .assertion line condition => condition.visit line scope resolver
    | .breakLoop _ => .ok resolver
    | .continueLoop _ => .ok resolver
    | .empty _ => .ok resolver

/-- Visits the statements of a block, directly in a scope, and brings the position back. -/
def Block.visitInside (shadowing : Bool) (block : Block) (scope : Handle) : Walk :=
  match block with
  | .mk line statements => fun before => do
      let after ← Statement.visitList shadowing line 0 statements scope before
      return { after with position := before.position }

def Statement.visitOption
    (shadowing : Bool)
    (statement : Option Statement)
    (scope : Handle) :
    Walk :=
  match statement with
  | none => .ok
  | some statement => statement.visit shadowing scope

/-- Visits the initializer of a loop, and gives the scope of the rest of the loop. -/
def Statement.visitInitial
    (shadowing : Bool)
    (statement : Option Statement)
    (header : Handle)
    (resolver : Resolver) :
    Except Fault (Handle × Resolver) :=
  match statement with
  | none => .ok (header, resolver)
  | some statement => do
      let resolver ← statement.visit shadowing header resolver
      statement.goPast header resolver

/-- Visits the statements of a block from a position on, each at its position and in its scope. -/
def Statement.visitList
    (shadowing : Bool)
    (blockLine index : Nat)
    (statements : List Statement)
    (scope : Handle) :
    Walk :=
  match statements with
  | [] => .ok
  | first :: rest => fun resolver => do
      let resolver ←
        first.visit shadowing scope { resolver with position := some ⟨index, blockLine⟩ }
      let (next, resolver) ← first.goPast scope resolver
      Statement.visitList shadowing blockLine (index + 1) rest next resolver

end

/-- Visits a function, which lies in the outermost scope. -/
def FunctionDefinition.visit (shadowing : Bool) (definition : FunctionDefinition) : Walk :=
  .visiting (.function definition) Arena.root
    (.inside (definition.parameterScope Arena.root) fun parameters =>
      definition.body.visitInside shadowing parameters)

def FunctionDefinition.visitList (shadowing : Bool) : List FunctionDefinition → Walk
  | [] => .ok
  | first :: rest => fun resolver => do
      let resolver ← first.visit shadowing resolver
      FunctionDefinition.visitList shadowing rest resolver

/-- Visits the functions of a program. -/
def Program.visit (program : Program) (shadowing : Bool) : Except Fault Resolver :=
  FunctionDefinition.visitList shadowing program.functions .initial

/-! ## What is visited -/

def Expression.subjectsOfOption (line : Nat) (expression : Option Expression) : List Subject :=
  match expression with
  | none => []
  | some expression => [.expression line expression]

mutual

/-- A statement behind its parts, which are left out if it is a malformed loop. -/
def Statement.subjects (statement : Statement) : List Subject :=
  (match statement with
    | .block _ body => body.subjectsInside ++ [.block body]
    | .declare line _ initial => Expression.subjectsOfOption line initial
    | .assign line place value => [.place line place, .expression line value]
    | .evaluate line expression => [.expression line expression]
    | .branch line condition consequent alternative =>
        [.expression line condition] ++ consequent.subjects
          ++ Statement.subjectsOfOption alternative
    | .whileLoop line condition body =>
        [.expression line condition] ++ Statement.subjectsOfOption body
    | .doWhile line body condition =>
        Statement.subjectsOfOption body ++ [.expression line condition]
    | .forLoop line initial condition update body =>
        match checkHeader line initial condition update with
        | .error _ => []
        | .ok () =>
            Statement.subjectsOfOption initial ++ Expression.subjectsOfOption line condition
              ++ Statement.subjectsOfOption update ++ Statement.subjectsOfOption body
    | .returnWith line value => Expression.subjectsOfOption line value
    | .assertion line condition => [.expression line condition]
    | .breakLoop _ => []
    | .continueLoop _ => []
    | .empty _ => [])
    ++ [.statement statement]

/-- The statements of a block with their parts. -/
def Block.subjectsInside : Block → List Subject
  | .mk _ statements => Statement.subjectsOfList statements

def Statement.subjectsOfOption : Option Statement → List Subject
  | none => []
  | some statement => statement.subjects

def Statement.subjectsOfList : List Statement → List Subject
  | [] => []
  | first :: rest => first.subjects ++ Statement.subjectsOfList rest

end

/-- A function behind its statements and their parts. -/
def FunctionDefinition.subjects (definition : FunctionDefinition) : List Subject :=
  definition.body.subjectsInside ++ [.function definition]

/-- The functions of a program, each behind its statements and their parts. -/
def Program.subjects (program : Program) : List Subject :=
  program.functions.flatMap FunctionDefinition.subjects

section Visited

variable {line : Nat} {scope : Handle} {before after : Resolver}

theorem Expression.subjects_visit
    {expression : Expression}
    (visited : expression.visit line scope before = .ok after) :
    after.subjects = before.subjects ++ [.expression line expression] :=
  Walk.subjects_visiting_finding visited

theorem Place.subjects_visit
    {place : Place}
    (visited : place.visit line scope before = .ok after) :
    after.subjects = before.subjects ++ [.place line place] :=
  Walk.subjects_visiting_finding visited

theorem Expression.subjects_visitOption
    {expression : Option Expression}
    (visited : Expression.visitOption line expression scope before = .ok after) :
    after.subjects = before.subjects ++ Expression.subjectsOfOption line expression := by
  cases expression with
  | none => exact Walk.subjects_stay visited
  | some expression => exact Expression.subjects_visit visited

/-- To go on to the scope after a statement is no visit. -/
theorem Statement.subjects_goPast
    {statement : Statement}
    {next : Handle}
    (gone : statement.goPast scope before = .ok (next, after)) :
    after.subjects = before.subjects := by
  rw [Statement.goPast] at gone
  split at gone
  next declares =>
    rcases (bind_eq_ok_iff _ _ _).mp gone with ⟨⟨answer, arena⟩, _, moved⟩
    cases answer with
    | error error =>
        cases moved
        rfl
    | ok extended =>
        cases moved
        rfl
  next other =>
    cases gone
    rfl

end Visited

mutual

/-- A visit of a statement visits its parts as well, and is the last of these visits. -/
theorem Statement.subjects_visit
    {shadowing : Bool}
    {statement : Statement}
    {scope : Handle}
    {before after : Resolver}
    (visited : statement.visit shadowing scope before = .ok after) :
    after.subjects = before.subjects ++ statement.subjects := by
  rw [Statement.visit] at visited
  rw [Statement.subjects.eq_def]
  apply Walk.subjects_visiting visited
  intro walked inParts
  match statement with
  | .block line body =>
      apply Walk.subjects_visiting inParts
      intro finish inBlock
      apply Walk.subjects_inside inBlock
      intro inner start finish inBody
      exact Block.subjects_visitInside inBody
  | .declare line binding initial =>
      rcases (bind_eq_ok_iff _ _ _).mp inParts with ⟨initialized, inInitial, warned⟩
      rw [Walk.subjects_finding warned, Expression.subjects_visitOption inInitial]
  | .assign line place value =>
      rcases (bind_eq_ok_iff _ _ _).mp inParts with ⟨placed, inPlace, inValue⟩
      rw [Expression.subjects_visit inValue, Place.subjects_visit inPlace, List.append_assoc]
      rfl
  | .evaluate line expression => exact Expression.subjects_visit inParts
  | .branch line condition consequent alternative =>
      rcases (bind_eq_ok_iff _ _ _).mp inParts with ⟨tested, inCondition, inRest⟩
      rcases (bind_eq_ok_iff _ _ _).mp inRest with ⟨chosen, inConsequent, inAlternative⟩
      rw [Statement.subjects_visitOption inAlternative, Statement.subjects_visit inConsequent,
        Expression.subjects_visit inCondition]
      simp only [List.append_assoc]
  | .whileLoop line condition body =>
      rcases (bind_eq_ok_iff _ _ _).mp inParts with ⟨tested, inCondition, inBody⟩
      rw [Statement.subjects_visitOption inBody, Expression.subjects_visit inCondition,
        List.append_assoc]
  | .doWhile line body condition =>
      rcases (bind_eq_ok_iff _ _ _).mp inParts with ⟨turned, inBody, inCondition⟩
      rw [Expression.subjects_visit inCondition, Statement.subjects_visitOption inBody,
        List.append_assoc]
  | .forLoop line initial condition update body =>
      cases header : checkHeader line initial condition update with
      | error error =>
          simp only [header] at inParts ⊢
          rw [Walk.subjects_finding inParts, List.append_nil]
      | ok _ =>
          simp only [header] at inParts ⊢
          apply Walk.subjects_inside inParts
          intro inner start finish inLoop
          rcases (bind_eq_ok_iff _ _ _).mp inLoop with ⟨⟨next, started⟩, inInitial, inRest⟩
          rcases (bind_eq_ok_iff _ _ _).mp inRest with ⟨tested, inCondition, inRest⟩
          rcases (bind_eq_ok_iff _ _ _).mp inRest with ⟨updated, inUpdate, inBody⟩
          rw [Statement.subjects_visitOption inBody, Statement.subjects_visitOption inUpdate,
            Expression.subjects_visitOption inCondition, Statement.subjects_visitInitial inInitial]
          simp only [List.append_assoc]
  | .returnWith line value => exact Expression.subjects_visitOption inParts
  | .assertion line condition => exact Expression.subjects_visit inParts
  | .breakLoop _ => exact Walk.subjects_stay inParts
  | .continueLoop _ => exact Walk.subjects_stay inParts
  | .empty _ => exact Walk.subjects_stay inParts

theorem Block.subjects_visitInside
    {shadowing : Bool}
    {block : Block}
    {scope : Handle}
    {before after : Resolver}
    (visited : block.visitInside shadowing scope before = .ok after) :
    after.subjects = before.subjects ++ block.subjectsInside := by
  match block with
  | .mk line statements =>
      rcases (bind_eq_ok_iff _ _ _).mp visited with ⟨finish, inStatements, restored⟩
      have inBlock : finish.subjects = before.subjects ++ Statement.subjectsOfList statements :=
        Statement.subjects_visitList inStatements
      cases restored
      exact inBlock

theorem Statement.subjects_visitOption
    {shadowing : Bool}
    {statement : Option Statement}
    {scope : Handle}
    {before after : Resolver}
    (visited : Statement.visitOption shadowing statement scope before = .ok after) :
    after.subjects = before.subjects ++ Statement.subjectsOfOption statement := by
  match statement with
  | none => exact Walk.subjects_stay visited
  | some statement => exact Statement.subjects_visit visited

theorem Statement.subjects_visitInitial
    {shadowing : Bool}
    {statement : Option Statement}
    {header next : Handle}
    {before after : Resolver}
    (visited : Statement.visitInitial shadowing statement header before = .ok (next, after)) :
    after.subjects = before.subjects ++ Statement.subjectsOfOption statement := by
  match statement with
  | none =>
      cases visited
      exact (List.append_nil _).symm
  | some statement =>
      rcases (bind_eq_ok_iff _ _ _).mp visited with ⟨middle, inStatement, gone⟩
      rw [Statement.subjects_goPast gone]
      exact Statement.subjects_visit inStatement

theorem Statement.subjects_visitList
    {shadowing : Bool}
    {blockLine index : Nat}
    {statements : List Statement}
    {scope : Handle}
    {before after : Resolver}
    (visited :
      Statement.visitList shadowing blockLine index statements scope before = .ok after) :
    after.subjects = before.subjects ++ Statement.subjectsOfList statements := by
  match statements with
  | [] => exact Walk.subjects_stay visited
  | first :: rest =>
      rcases (bind_eq_ok_iff _ _ _).mp visited with ⟨middle, inFirst, inRest⟩
      rcases (bind_eq_ok_iff _ _ _).mp inRest with ⟨⟨next, gone⟩, going, inRest⟩
      rw [Statement.subjects_visitList inRest, Statement.subjects_goPast going,
        Statement.subjects_visit inFirst, Statement.subjectsOfList, ← List.append_assoc]
      rfl

end

theorem FunctionDefinition.subjects_visit
    {shadowing : Bool}
    {definition : FunctionDefinition}
    {before after : Resolver}
    (visited : definition.visit shadowing before = .ok after) :
    after.subjects = before.subjects ++ definition.subjects := by
  apply Walk.subjects_visiting visited
  intro walked inFunction
  apply Walk.subjects_inside inFunction
  intro parameters start finish inBody
  exact Block.subjects_visitInside inBody

theorem FunctionDefinition.subjects_visitList
    {shadowing : Bool}
    {definitions : List FunctionDefinition}
    {before after : Resolver}
    (visited : FunctionDefinition.visitList shadowing definitions before = .ok after) :
    after.subjects = before.subjects ++ definitions.flatMap FunctionDefinition.subjects := by
  induction definitions generalizing before with
  | nil => exact Walk.subjects_stay visited
  | cons first rest hypothesis =>
      rcases (bind_eq_ok_iff _ _ _).mp visited with ⟨middle, inFirst, inRest⟩
      rw [hypothesis inRest, FunctionDefinition.subjects_visit inFirst, List.flatMap_cons,
        List.append_assoc]

/--
The record of a walk through a program is complete. It has the functions in order, each behind its
statements, and these behind their own parts. Only the parts of malformed loops are left out.
-/
theorem Program.subjects_visit
    {program : Program}
    {shadowing : Bool}
    {after : Resolver}
    (visited : program.visit shadowing = .ok after) :
    after.subjects = program.subjects :=
  FunctionDefinition.subjects_visitList visited

end SynthesisHoles
