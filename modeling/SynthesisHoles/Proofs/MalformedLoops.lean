import Mathlib.Data.List.Forall2
import SynthesisHoles.Proofs.Hole.ExtractionOutcome
import SynthesisHoles.Proofs.Scope.LexicalScoping
import SynthesisHoles.Proofs.Steps
import SynthesisHoles.Proofs.Tree.Validation

/-!
# Resolution and extraction agree on malformed loops

Two walks look for malformed loops. Extraction validates each function first and stops at the first
error; resolution reports a loop, leaves its parts alone and goes on behind it. Both are compared with the
errors of the loops that are not inside of another malformed loop.

The main statement says that resolution reports exactly these errors, that it reports one exactly if some
function is not valid, and that the first report is about the error at which extraction gives up. A
program that passes the check of a session is therefore never rejected by extraction.
-/

namespace SynthesisHoles

/-! ## Resolution reports each of the errors -/

/-- Whether the diagnostic is known to users as one about a malformed tree. -/
def Diagnostic.isMalformedTree (diagnostic : Diagnostic) : Bool :=
  decide (diagnostic.code = some "E0001")

/-- The diagnostic is about the error, which is met at some position or at none. -/
def Diagnostic.Reports (diagnostic : Diagnostic) (error : ProgramError) : Prop :=
  ∃ position, diagnostic = error.report position

/-- The diagnostics about malformed trees. -/
def malformedTrees (diagnostics : List Diagnostic) : List Diagnostic :=
  diagnostics.filter Diagnostic.isMalformedTree

theorem malformedTrees_append (left right : List Diagnostic) :
    malformedTrees (left ++ right) = malformedTrees left ++ malformedTrees right :=
  List.filter_append ..

@[simp]
theorem malformedTrees_findingsAtDeclaration
    (environment : Environment)
    (wanted : Bool)
    (position : Option Position)
    (line : Nat)
    (name : String) :
    malformedTrees (environment.findingsAtDeclaration wanted position line name) = [] := by
  rw [Environment.findingsAtDeclaration]
  cases wanted with
  | false => rfl
  | true => cases environment.type? name <;> rfl

theorem malformedTrees_flatMap_findingsAt
    (environment : Environment)
    (position : Option Position)
    (line : Nat)
    (names : List String) :
    malformedTrees (names.flatMap (environment.findingsAt position line)) = [] := by
  rw [malformedTrees, List.filter_eq_nil_iff]
  intro diagnostic member
  rcases Environment.eq_report_of_mem_findingsAt member with ⟨name, rfl⟩
  exact Bool.false_ne_true

@[simp]
theorem malformedTrees_expression
    (environment : Environment)
    (position : Option Position)
    (line : Nat)
    (expression : Expression) :
    malformedTrees (expression.atVariables (environment.findingsAt position line)) = [] := by
  rw [Expression.atVariables_eq, malformedTrees_flatMap_findingsAt]

@[simp]
theorem malformedTrees_optionalExpression
    (environment : Environment)
    (position : Option Position)
    (line : Nat)
    (expression : Option Expression) :
    malformedTrees
      (Expression.atVariablesOfOption (environment.findingsAt position line) expression) = [] := by
  rw [Expression.atVariablesOfOption_eq, malformedTrees_flatMap_findingsAt]

@[simp]
theorem malformedTrees_place
    (environment : Environment)
    (position : Option Position)
    (line : Nat)
    (place : Place) :
    malformedTrees (place.atVariables (environment.findingsAt position line)) = [] := by
  rw [Place.atVariables_eq, malformedTrees_flatMap_findingsAt]

/-- A report about a malformed header is the only one that counts. -/
theorem malformedTrees_report
    {line : Nat}
    {initial : Option Statement}
    {condition : Option Expression}
    {update : Option Statement}
    {error : ProgramError}
    (malformed : checkHeader line initial condition update = .error error)
    (position : Option Position) :
    malformedTrees [error.report position] = [error.report position] := by
  have counts : (error.report position).isMalformedTree = true :=
    decide_eq_true (congrArg some (code_of_checkHeader malformed))
  rw [malformedTrees, List.filter_cons_of_pos counts, List.filter_nil]

mutual

theorem Statement.reports
    (shadowing : Bool)
    (position : Option Position)
    (statement : Statement)
    (environment : Environment) :
    List.Forall₂ Diagnostic.Reports
      (malformedTrees (statement.lexicalFindings shadowing position environment))
      statement.headerErrors := by
  match statement with
  | .block _ body => exact Block.reports shadowing body environment
  | .declare .. =>
      rw [Statement.lexicalFindings, malformedTrees_append, malformedTrees_optionalExpression,
        malformedTrees_findingsAtDeclaration]
      exact .nil
  | .assign .. =>
      rw [Statement.lexicalFindings, malformedTrees_append, malformedTrees_place,
        malformedTrees_expression]
      exact .nil
  | .evaluate .. =>
      rw [Statement.lexicalFindings, malformedTrees_expression]
      exact .nil
  | .branch _ _ consequent alternative =>
      have inConsequent := Statement.reports shadowing position consequent environment
      have inAlternative := Statement.reportsOfOption shadowing position alternative environment
      rw [Statement.lexicalFindings, malformedTrees_append, malformedTrees_append,
        malformedTrees_expression, List.nil_append, Statement.headerErrors]
      exact List.rel_append inConsequent inAlternative
  | .whileLoop _ _ body =>
      rw [Statement.lexicalFindings, malformedTrees_append, malformedTrees_expression,
        List.nil_append]
      exact Statement.reportsOfOption shadowing position body environment
  | .doWhile _ body _ =>
      rw [Statement.lexicalFindings, malformedTrees_append, malformedTrees_expression,
        List.append_nil]
      exact Statement.reportsOfOption shadowing position body environment
  | .forLoop line initial condition update body =>
      rw [Statement.lexicalFindings, Statement.headerErrors]
      cases header : checkHeader line initial condition update with
      | error error =>
          simp only [malformedTrees_report header]
          exact .cons ⟨position, rfl⟩ .nil
      | ok _ =>
          have inInitial := Statement.reportsOfOption shadowing position initial environment
          have inUpdate :=
            Statement.reportsOfOption shadowing position update
              (Statement.environmentAfterOption initial environment)
          have inBody :=
            Statement.reportsOfOption shadowing position body
              (Statement.environmentAfterOption initial environment)
          simp only [malformedTrees_append, malformedTrees_optionalExpression, List.nil_append]
          exact List.rel_append inInitial (List.rel_append inUpdate inBody)
  | .returnWith .. =>
      rw [Statement.lexicalFindings, malformedTrees_optionalExpression]
      exact .nil
  | .assertion .. =>
      rw [Statement.lexicalFindings, malformedTrees_expression]
      exact .nil
  | .breakLoop _ => exact .nil
  | .continueLoop _ => exact .nil
  | .empty _ => exact .nil

theorem Block.reports
    (shadowing : Bool)
    (block : Block)
    (environment : Environment) :
    List.Forall₂ Diagnostic.Reports
      (malformedTrees (block.lexicalFindings shadowing environment)) block.headerErrors := by
  match block with
  | .mk line statements => exact Statement.reportsOfList shadowing line 0 statements environment

theorem Statement.reportsOfOption
    (shadowing : Bool)
    (position : Option Position)
    (statement : Option Statement)
    (environment : Environment) :
    List.Forall₂ Diagnostic.Reports
      (malformedTrees
        (Statement.lexicalFindingsOfOption shadowing position statement environment))
      (Statement.headerErrorsOfOption statement) := by
  match statement with
  | none => exact .nil
  | some statement => exact Statement.reports shadowing position statement environment

theorem Statement.reportsOfList
    (shadowing : Bool)
    (blockLine index : Nat)
    (statements : List Statement)
    (environment : Environment) :
    List.Forall₂ Diagnostic.Reports
      (malformedTrees
        (Statement.lexicalFindingsOfList shadowing blockLine index statements environment))
      (Statement.headerErrorsOfList statements) := by
  match statements with
  | [] => exact .nil
  | first :: rest =>
      have inFirst := Statement.reports shadowing (some ⟨index, blockLine⟩) first environment
      have inRest :=
        Statement.reportsOfList shadowing blockLine (index + 1) rest
          (first.environmentAfter environment)
      rw [Statement.lexicalFindingsOfList, Statement.headerErrorsOfList, malformedTrees_append]
      exact List.rel_append inFirst inRest

end

theorem FunctionDefinition.reportsOfList
    (shadowing : Bool)
    (definitions : List FunctionDefinition) :
    List.Forall₂ Diagnostic.Reports
      (malformedTrees (definitions.flatMap (FunctionDefinition.lexicalFindings shadowing)))
      (definitions.flatMap fun definition => definition.body.headerErrors) := by
  induction definitions with
  | nil => exact .nil
  | cons first rest hypothesis =>
      have inFirst := Block.reports shadowing first.body first.parameters.reverse
      rw [List.flatMap_cons, List.flatMap_cons, malformedTrees_append]
      exact List.rel_append inFirst hypothesis

/-- Resolution meets no fault, and reports the errors that are met in the program in their order. -/
theorem Program.resolve_reports
    (program : Program)
    (shadowing : Bool) :
    ∃ diagnostics,
      program.resolve shadowing = .ok diagnostics ∧
        List.Forall₂ Diagnostic.Reports (malformedTrees diagnostics) program.headerErrors := by
  have found := program.resolve_eq_flatMap shadowing
  exact ⟨_, found, FunctionDefinition.reportsOfList shadowing program.functions⟩

/-- Among diagnostics that report some errors, the first about a malformed tree reports the first. -/
theorem find?_isMalformedTree
    {diagnostics : List Diagnostic}
    {errors : List ProgramError}
    {error : ProgramError}
    (reported : List.Forall₂ Diagnostic.Reports (malformedTrees diagnostics) errors)
    (first : errors.head? = some error) :
    ∃ position, diagnostics.find? Diagnostic.isMalformedTree = some (error.report position) := by
  rcases List.head?_eq_some_iff.mp first with ⟨rest, rfl⟩
  rcases List.forall₂_cons_right_iff.mp reported with
    ⟨diagnostic, others, ⟨position, rfl⟩, _, found⟩
  refine ⟨position, ?_⟩
  rw [← List.head?_filter, ← malformedTrees, found, List.head?_cons]

/-- Diagnostics that report some errors have one about a malformed tree exactly if there is an error. -/
theorem exists_isMalformedTree_iff
    {diagnostics : List Diagnostic}
    {errors : List ProgramError}
    (reported : List.Forall₂ Diagnostic.Reports (malformedTrees diagnostics) errors) :
    (∃ diagnostic ∈ diagnostics, diagnostic.isMalformedTree = true) ↔ errors ≠ [] := by
  have silent_iff : malformedTrees diagnostics = [] ↔ errors = [] := by
    rw [← List.length_eq_zero_iff, reported.length_eq, List.length_eq_zero_iff]
  constructor
  · rintro ⟨diagnostic, member, counts⟩ noError
    have silent := silent_iff.mpr noError
    rw [malformedTrees, List.filter_eq_nil_iff] at silent
    exact silent diagnostic member counts
  · intro someError
    by_contra noReport
    apply someError
    rw [← silent_iff, malformedTrees, List.filter_eq_nil_iff]
    intro diagnostic member counts
    exact noReport ⟨diagnostic, member, counts⟩

/-! ## Extraction gives up at the first error -/

/--
Extraction from functions of which one is not valid. It is rejected there, unless the indices of the
functions before it have already left no room for another hole.
-/
theorem FunctionDefinition.replaceList_of_invalid
    {before after : List FunctionDefinition}
    {definition : FunctionDefinition}
    {error : ProgramError}
    (earlierValid : ∀ earlier ∈ before, earlier.body.validate = .ok ())
    (invalid : definition.body.validate = .error error)
    (table : HoleTable) :
    FunctionDefinition.replaceList (before ++ definition :: after) table =
      if table.next + (FunctionDefinition.sitesOfList before).length < indexBound then
        .error (.rejected error)
      else
        .error (.fault .indexOverflow) := by
  induction before generalizing table with
  | nil =>
      rw [List.nil_append, FunctionDefinition.replaceList_cons, invalid,
        FunctionDefinition.sitesOfList, List.length_nil, Nat.add_zero]
  | cons first rest hypothesis =>
      have firstValid := earlierValid first List.mem_cons_self
      have restValid : ∀ earlier ∈ rest, earlier.body.validate = .ok () :=
        fun earlier member => earlierValid earlier (List.mem_cons_of_mem first member)
      rw [List.cons_append, FunctionDefinition.replaceList_cons, firstValid,
        hypothesis restValid, HoleTable.next_extended, FunctionDefinition.sitesOfList,
        List.length_append, ← Nat.add_assoc]
      by_cases fits :
          table.next + first.sites.length + (FunctionDefinition.sitesOfList rest).length
            < indexBound
      · have room : table.next < indexBound := by omega
        have firstFits : table.next + first.sites.length ≤ indexBound := by omega
        simp only [if_pos room, if_pos firstFits, if_pos fits, error_bind]
      · simp only [if_neg fits, error_bind, ite_self]

/-- Extraction from a program with a function that is the first not to be valid. -/
theorem Program.replaceLiterals_of_invalid
    {program : Program}
    {before after : List FunctionDefinition}
    {definition : FunctionDefinition}
    {error : ProgramError}
    (parts : program.functions = before ++ definition :: after)
    (earlierValid : ∀ earlier ∈ before, earlier.body.validate = .ok ())
    (invalid : definition.body.validate = .error error)
    (index : Nat) :
    program.replaceLiterals index =
      if index + (FunctionDefinition.sitesOfList before).length < indexBound then
        .error (.rejected error)
      else
        .error (.fault .indexOverflow) := by
  have start : (HoleTable.startingAt index).next = index := rfl
  rw [Program.replaceLiterals, parts,
    FunctionDefinition.replaceList_of_invalid earlierValid invalid, start]
  split
  next => rfl
  next => rfl

/-! ## Sessions -/

namespace Session

/-- If a check passes, resolution found no error. -/
theorem resolve_of_check
    {session after : Session}
    {program : Program}
    (passed : session.check program = (.ok (.ok ()), after)) :
    ∃ diagnostics,
      program.resolve session.configuration.reportShadowing = .ok diagnostics ∧
        ∀ diagnostic ∈ diagnostics, diagnostic.isError = false := by
  rcases session.check_cases program with ⟨diagnostics, _, found, _, outcome⟩
  rcases outcome with ⟨_, failed, _⟩ | ⟨quiet, _, _⟩
  · rw [failed] at passed
    cases passed
  · rw [DiagnosticQueue.hasErrors_pushAll, Bool.or_eq_false_iff] at quiet
    refine ⟨diagnostics, found, ?_⟩
    intro diagnostic member
    exact Bool.eq_false_iff.mpr (List.any_eq_false.mp quiet.2 diagnostic member)

/-- If processing fails in the extraction, the check passed and extraction was rejected. -/
theorem check_of_process
    {session after : Session}
    {program : Program}
    {error : ProgramError}
    (failed : session.process program = (.ok (.error (.extraction error)), after)) :
    ∃ checked index,
      session.check program = (.ok (.ok ()), checked) ∧
        program.replaceLiterals index = .error (.rejected error) := by
  rcases session.process_cases program with ⟨_, checked, _, _, outcome⟩
  rcases outcome with ⟨_, _, unresolved, _⟩ | ⟨_, passed, _, extracted⟩
  · rw [unresolved] at failed
    cases failed
  · rw [extracted] at failed
    rcases checked.extract_cases program with ⟨answer, _, answered, _, outcome⟩
    rcases outcome with ⟨_, rejected, rfl, _⟩ | ⟨succeeded, _⟩
    · rw [answered] at failed
      cases failed
      exact ⟨checked, _, passed, rejected⟩
    · rw [answered] at failed
      exact absurd (congrArg Prod.fst failed) (succeeded _)

end Session

/--
A program that passes a check consists of valid functions: the report of a first error would be among the
diagnostics, and it is an error.
-/
theorem Program.valid_of_check
    {session after : Session}
    {program : Program}
    (passed : session.check program = (.ok (.ok ()), after)) :
    ∀ definition ∈ program.functions, definition.body.validate = .ok () := by
  rcases Session.resolve_of_check passed with ⟨diagnostics, found, quiet⟩
  rcases program.resolve_reports session.configuration.reportShadowing with
    ⟨resolved, same, reported⟩
  rw [found, Except.ok.injEq] at same
  subst same
  rw [← Program.headerErrors_eq_nil_iff]
  cases errors : program.headerErrors with
  | nil => rfl
  | cons error rest =>
      rw [errors] at reported
      rcases find?_isMalformedTree reported rfl with ⟨position, first⟩
      have harmless := quiet _ (List.mem_of_find?_eq_some first)
      cases harmless

/-! ## Agreement -/

/--
Resolution and extraction agree on what is malformed. Resolution reports one malformed tree for each
malformed loop that is not inside of another one, in reading order, and no other; it reports one exactly
if some function is not valid. If a function is the first that is not valid, the first report is about
its error, and with this error extraction is rejected unless the indices of the functions before it
leave no room. Hence extraction from a program that passed a check in any session is never rejected, and
processing never fails in the extraction.
-/
theorem Program.malformed_loops_agree
    (program : Program)
    (shadowing : Bool) :
    ∃ diagnostics,
      program.resolve shadowing = .ok diagnostics ∧
        List.Forall₂ Diagnostic.Reports (malformedTrees diagnostics) program.outermostErrors ∧
        ((∃ diagnostic ∈ diagnostics, diagnostic.isMalformedTree = true) ↔
          ∃ definition ∈ program.functions,
            ∃ error, definition.body.validate = .error error) ∧
        (∀ (before after : List FunctionDefinition)
            (definition : FunctionDefinition)
            (error : ProgramError),
          program.functions = before ++ definition :: after →
            (∀ earlier ∈ before, earlier.body.validate = .ok ()) →
              definition.body.validate = .error error →
                (∃ position,
                  diagnostics.find? Diagnostic.isMalformedTree = some (error.report position)) ∧
                ∀ index,
                  program.replaceLiterals index =
                    if index + (FunctionDefinition.sitesOfList before).length < indexBound then
                      .error (.rejected error)
                    else
                      .error (.fault .indexOverflow)) ∧
        (∀ session after : Session,
          session.check program = (.ok (.ok ()), after) →
            ∀ index error, program.replaceLiterals index ≠ .error (.rejected error)) ∧
        ∀ (session after : Session) (error : ProgramError),
          session.process program ≠ (.ok (.error (.extraction error)), after) := by
  rcases program.resolve_reports shadowing with ⟨diagnostics, found, reported⟩
  have neverRejected :
      ∀ session after : Session,
        session.check program = (.ok (.ok ()), after) →
          ∀ index error, program.replaceLiterals index ≠ .error (.rejected error) := by
    intro session after passed index error
    exact Program.replaceLiterals_ne_rejected (Program.valid_of_check passed) index error
  refine ⟨diagnostics, found, ?_, ?_, ?_, neverRejected, ?_⟩
  · rw [program.outermostErrors_eq_headerErrors]
    exact reported
  · rw [exists_isMalformedTree_iff reported, program.headerErrors_ne_nil_iff]
  · intro before after definition error parts earlierValid invalid
    constructor
    · have first := Program.head?_headerErrors parts earlierValid invalid
      exact find?_isMalformedTree reported first
    · intro index
      exact Program.replaceLiterals_of_invalid parts earlierValid invalid index
  · intro session after error failed
    rcases Session.check_of_process failed with ⟨checked, index, passed, rejected⟩
    exact neverRejected session checked passed index error rejected

end SynthesisHoles
