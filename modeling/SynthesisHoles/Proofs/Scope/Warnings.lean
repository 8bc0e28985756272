import SynthesisHoles.Proofs.Scope.SiftedWalks

/-!
# Warnings among the findings

Resolution warns of a declaration that hides a variable, if this is wanted. The warnings stand among the
errors, in the order in which the walk comes by. Without them, what is left are the errors that resolution
finds when warnings are not wanted, in the same order: a warning takes the place of no error and brings no
error with it.
-/

namespace SynthesisHoles

/-- The errors among some diagnostics, in order. -/
def errorsAmong (diagnostics : List Diagnostic) : List Diagnostic :=
  diagnostics.filter Diagnostic.isError

/-- There are errors exactly if one of the diagnostics is an error. -/
theorem errorsAmong_eq_nil_iff (diagnostics : List Diagnostic) :
    errorsAmong diagnostics = [] ↔ diagnostics.any Diagnostic.isError = false := by
  rw [errorsAmong, List.filter_eq_nil_iff, List.any_eq_false]

/-- Diagnostics of which nothing is dropped are errors. -/
theorem isError_of_errorsAmong_eq
    {diagnostics : List Diagnostic}
    (kept : errorsAmong diagnostics = diagnostics) :
    ∀ diagnostic ∈ diagnostics, diagnostic.isError = true :=
  List.filter_eq_self.mp kept

/-! ## The walk without warnings -/

/-- What is found at a use of a variable is an error. -/
theorem errorsAmong_findingsAt
    (environment : Environment)
    (position : Option Position)
    (line : Nat)
    (name : String) :
    errorsAmong (environment.findingsAt position line name) =
      environment.findingsAt position line name := by
  rw [Environment.findingsAt]
  cases environment.type? name with
  | none => rfl
  | some _ => rfl

/-- What is found at a declaration is a warning. -/
theorem errorsAmong_findingsAtDeclaration
    (environment : Environment)
    (wanted : Bool)
    (position : Option Position)
    (line : Nat)
    (name : String) :
    errorsAmong (environment.findingsAtDeclaration wanted position line name) =
      environment.findingsAtDeclaration false position line name := by
  rw [Environment.findingsAtDeclaration]
  cases wanted with
  | false => rfl
  | true =>
      cases environment.type? name with
      | none => rfl
      | some _ => rfl

/-- The walk that wants no warnings finds the errors of any walk in the same environment. -/
theorem Environment.sifts_errors (wanted : Bool) :
    Environment.Sifts Diagnostic.isError wanted false Eq where
  declared := by
    intro environment next same binding
    rw [same]
  atUse := by
    intro environment next same position line name
    rw [← same]
    exact errorsAmong_findingsAt environment position line name
  atDeclaration := by
    intro environment next same position line name
    rw [← same]
    exact errorsAmong_findingsAtDeclaration environment wanted position line name
  atHeader := by
    intro line initial condition update error malformed position
    rfl

/-! ## Functions and programs -/

/-- The errors in a function are what is found in it when warnings are not wanted. -/
theorem FunctionDefinition.errorsAmong_lexicalFindings
    (shadowing : Bool)
    (definition : FunctionDefinition) :
    errorsAmong (definition.lexicalFindings shadowing) = definition.lexicalFindings false :=
  Block.filter_lexicalFindings (Environment.sifts_errors shadowing) definition.body rfl

/-- Whether or not warnings are wanted, resolution of a program finds the same errors. -/
theorem Program.errorsAmong_resolve
    (program : Program)
    (shadowing : Bool) :
    ∃ found,
      program.resolve shadowing = .ok found ∧
        program.resolve false = .ok (errorsAmong found) := by
  refine ⟨_, program.resolve_eq_flatMap shadowing, ?_⟩
  rw [program.resolve_eq_flatMap, errorsAmong, List.filter_flatMap]
  congr 2
  funext definition
  exact (definition.errorsAmong_lexicalFindings shadowing).symm

end SynthesisHoles
