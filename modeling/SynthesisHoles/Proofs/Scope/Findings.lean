import SynthesisHoles.Proofs.Scope.LexicalScoping

/-!
# What resolution can find

Resolution finds two kinds of diagnostics: the report of a program error at some position, and the warning
about a declaration that hides a visible variable. So what it finds is an error or a warning, and nothing
less serious.
-/

namespace SynthesisHoles

/-- The two kinds of diagnostics that resolution finds. -/
inductive Diagnostic.IsFinding : Diagnostic → Prop
  | report (error : ProgramError) (position : Option Position) :
      Diagnostic.IsFinding (error.report position)
  | warning (name : String) (line : Nat) (position : Option Position) (hidden : DataType) :
      Diagnostic.IsFinding (shadowingWarning name line position hidden)

/-- A finding that is no error is a warning. -/
theorem Diagnostic.IsFinding.severity_of_not_isError
    {diagnostic : Diagnostic}
    (finding : diagnostic.IsFinding)
    (harmless : diagnostic.isError = false) :
    diagnostic.severity = .warning := by
  cases finding with
  | report error position => cases harmless
  | warning name line position hidden => rfl

namespace Environment

variable (environment : Environment) (position : Option Position) (line : Nat)

theorem isFinding_of_mem_findingsAtDeclaration
    (wanted : Bool)
    (name : String) :
    ∀ diagnostic ∈ environment.findingsAtDeclaration wanted position line name,
      diagnostic.IsFinding := by
  rw [findingsAtDeclaration]
  cases wanted with
  | false => exact List.forall_mem_nil _
  | true =>
      cases environment.type? name with
      | none => exact List.forall_mem_nil _
      | some hidden => exact List.forall_mem_singleton.mpr (.warning _ _ _ _)

theorem isFinding_of_mem_flatMap
    (names : List String) :
    ∀ diagnostic ∈ names.flatMap (environment.findingsAt position line),
      diagnostic.IsFinding := by
  intro diagnostic member
  rcases eq_report_of_mem_findingsAt member with ⟨name, rfl⟩
  exact .report _ _

theorem isFinding_of_mem_expression
    (expression : Expression) :
    ∀ diagnostic ∈ expression.atVariables (environment.findingsAt position line),
      diagnostic.IsFinding := by
  rw [Expression.atVariables_eq]
  exact environment.isFinding_of_mem_flatMap position line _

theorem isFinding_of_mem_optionalExpression
    (expression : Option Expression) :
    ∀ diagnostic ∈ Expression.atVariablesOfOption (environment.findingsAt position line) expression,
      diagnostic.IsFinding := by
  rw [Expression.atVariablesOfOption_eq]
  exact environment.isFinding_of_mem_flatMap position line _

theorem isFinding_of_mem_place
    (place : Place) :
    ∀ diagnostic ∈ place.atVariables (environment.findingsAt position line),
      diagnostic.IsFinding := by
  rw [Place.atVariables_eq]
  exact environment.isFinding_of_mem_flatMap position line _

end Environment

mutual

theorem Statement.isFinding_of_mem
    (shadowing : Bool)
    (position : Option Position)
    (statement : Statement)
    (environment : Environment) :
    ∀ diagnostic ∈ statement.lexicalFindings shadowing position environment,
      diagnostic.IsFinding := by
  match statement with
  | .block _ body => exact Block.isFinding_of_mem shadowing body environment
  | .declare line binding initial =>
      refine List.forall_mem_append.mpr ⟨?_, ?_⟩
      · exact environment.isFinding_of_mem_optionalExpression position line initial
      · exact environment.isFinding_of_mem_findingsAtDeclaration position line shadowing _
  | .assign line place value =>
      refine List.forall_mem_append.mpr ⟨?_, ?_⟩
      · exact environment.isFinding_of_mem_place position line place
      · exact environment.isFinding_of_mem_expression position line value
  | .evaluate line expression =>
      exact environment.isFinding_of_mem_expression position line expression
  | .branch line condition consequent alternative =>
      refine List.forall_mem_append.mpr ⟨?_, List.forall_mem_append.mpr ⟨?_, ?_⟩⟩
      · exact environment.isFinding_of_mem_expression position line condition
      · exact Statement.isFinding_of_mem shadowing position consequent environment
      · exact Statement.isFinding_of_mem_option shadowing position alternative environment
  | .whileLoop line condition body =>
      refine List.forall_mem_append.mpr ⟨?_, ?_⟩
      · exact environment.isFinding_of_mem_expression position line condition
      · exact Statement.isFinding_of_mem_option shadowing position body environment
  | .doWhile line body condition =>
      refine List.forall_mem_append.mpr ⟨?_, ?_⟩
      · exact Statement.isFinding_of_mem_option shadowing position body environment
      · exact environment.isFinding_of_mem_expression position line condition
  | .forLoop line initial condition update body =>
      rw [Statement.lexicalFindings]
      cases checkHeader line initial condition update with
      | error error => exact List.forall_mem_singleton.mpr (.report error position)
      | ok _ =>
          refine
            List.forall_mem_append.mpr
              ⟨?_, List.forall_mem_append.mpr ⟨?_, List.forall_mem_append.mpr ⟨?_, ?_⟩⟩⟩
          · exact Statement.isFinding_of_mem_option shadowing position initial environment
          · exact Environment.isFinding_of_mem_optionalExpression _ position line condition
          · exact Statement.isFinding_of_mem_option shadowing position update _
          · exact Statement.isFinding_of_mem_option shadowing position body _
  | .returnWith line value =>
      exact environment.isFinding_of_mem_optionalExpression position line value
  | .assertion line condition =>
      exact environment.isFinding_of_mem_expression position line condition
  | .breakLoop _ => exact List.forall_mem_nil _
  | .continueLoop _ => exact List.forall_mem_nil _
  | .empty _ => exact List.forall_mem_nil _

theorem Block.isFinding_of_mem
    (shadowing : Bool)
    (block : Block)
    (environment : Environment) :
    ∀ diagnostic ∈ block.lexicalFindings shadowing environment, diagnostic.IsFinding := by
  match block with
  | .mk line statements =>
      exact Statement.isFinding_of_mem_list shadowing line 0 statements environment

theorem Statement.isFinding_of_mem_option
    (shadowing : Bool)
    (position : Option Position)
    (statement : Option Statement)
    (environment : Environment) :
    ∀ diagnostic ∈
        Statement.lexicalFindingsOfOption shadowing position statement environment,
      diagnostic.IsFinding := by
  match statement with
  | none => exact List.forall_mem_nil _
  | some statement => exact Statement.isFinding_of_mem shadowing position statement environment

theorem Statement.isFinding_of_mem_list
    (shadowing : Bool)
    (blockLine index : Nat)
    (statements : List Statement)
    (environment : Environment) :
    ∀ diagnostic ∈
        Statement.lexicalFindingsOfList shadowing blockLine index statements environment,
      diagnostic.IsFinding := by
  match statements with
  | [] => exact List.forall_mem_nil _
  | first :: rest =>
      refine List.forall_mem_append.mpr ⟨?_, ?_⟩
      · exact Statement.isFinding_of_mem shadowing _ first environment
      · exact Statement.isFinding_of_mem_list shadowing blockLine (index + 1) rest _

end

/-- All that resolution finds in a program is of the two kinds. -/
theorem Program.isFinding_of_mem
    {program : Program}
    {shadowing : Bool}
    {found : List Diagnostic}
    (resolved : program.resolve shadowing = .ok found) :
    ∀ diagnostic ∈ found, diagnostic.IsFinding := by
  rw [program.resolve_eq_flatMap] at resolved
  cases resolved
  intro diagnostic member
  rcases List.mem_flatMap.mp member with ⟨definition, _, inBody⟩
  exact Block.isFinding_of_mem shadowing definition.body _ diagnostic inBody

end SynthesisHoles
