import SynthesisHoles.Proofs.Scope.Findings
import SynthesisHoles.Proofs.Scope.Warnings
import SynthesisHoles.Proofs.Tree.Validation

/-!
# A function with one parameter more

A parameter that is added at the end is the innermost of the parameters, so the function sees its name
everywhere, and of all other names it sees what it saw before. A declaration of that name inside the body, or
a parameter of that name before, changes nothing about this.

The main statement says what becomes of the errors: those which say that this name is not visible go, and
all others stay as they are and where they are, the reports of malformed loops among them.
-/

namespace SynthesisHoles

/-! ## Diagnostics about one name -/

/-- Whether the diagnostic tells the user that a name is not visible. -/
def Diagnostic.misses (name : String) (diagnostic : Diagnostic) : Bool :=
  decide
    (diagnostic.code = some "E0003" ∧
      diagnostic.message = "cannot find variable `" ++ name ++ "` in this scope")

/-- The text of an unresolved name tells which name it is. -/
theorem ProgramError.message_unresolvedName_iff (other name : String) (line : Nat) :
    (ProgramError.unresolvedName other line).message =
        "cannot find variable `" ++ name ++ "` in this scope" ↔
      other = name := by
  have text :
      (ProgramError.unresolvedName other line).message =
        "cannot find variable `" ++ other ++ "` in this scope" := rfl
  rw [text]
  exact (String.append_left_inj _).trans (String.append_right_inj _)

/-- Of all program errors, only an unresolved name is reported like this, and only of the same name. -/
theorem ProgramError.misses_report_iff
    (error : ProgramError)
    (position : Option Position)
    (name : String) :
    (error.report position).misses name = true ↔ ∃ line, error = .unresolvedName name line := by
  have reported :
      (error.report position).misses name = true ↔
        error.code = "E0003" ∧
          error.message = "cannot find variable `" ++ name ++ "` in this scope" := by
    rw [Diagnostic.misses, decide_eq_true_iff]
    exact and_congr Option.some_inj Iff.rfl
  rw [reported]
  constructor
  · rintro ⟨code, text⟩
    cases error with
    | unresolvedName other line =>
        rw [(message_unresolvedName_iff other name line).mp text]
        exact ⟨line, rfl⟩
    | _ => simp [ProgramError.code] at code
  · rintro ⟨line, rfl⟩
    exact ⟨rfl, (message_unresolvedName_iff name name line).mpr rfl⟩

/-- Of what resolution finds, only the reports of a name as unresolved tell that it is not visible. -/
theorem Diagnostic.IsFinding.misses_iff
    {diagnostic : Diagnostic}
    (finding : diagnostic.IsFinding)
    (name : String) :
    diagnostic.misses name = true ↔
      ∃ line position, diagnostic = (ProgramError.unresolvedName name line).report position := by
  constructor
  · intro missed
    cases finding with
    | report error position =>
        rcases (error.misses_report_iff position name).mp missed with ⟨line, rfl⟩
        exact ⟨line, position, rfl⟩
    | warning declared line position hidden =>
        simp [Diagnostic.misses, shadowingWarning, shadowingCode] at missed
  · rintro ⟨line, position, rfl⟩
    exact (ProgramError.misses_report_iff _ position name).mpr ⟨line, rfl⟩

/-! ## Environments that see one name more -/

theorem Environment.type?_cons
    (binding : Binding)
    (environment : Environment)
    (name : String) :
    Environment.type? (binding :: environment) name =
      if binding.name = name then some binding.type else environment.type? name := by
  rw [Environment.type?, List.find?_cons]
  by_cases same : binding.name = name
  · simp [same]
  · simp [same, Environment.type?]

/-- A next environment sees a name, and of all other names what the first one sees. -/
structure Environment.SeesAlso
    (name : String)
    (environment next : Environment) :
    Prop where
  seen : (next.type? name).isSome = true
  others : ∀ other, other ≠ name → next.type? other = environment.type? other

/-- With a binding in front, an environment sees the name of the binding. -/
theorem Environment.seesAlso_cons
    (binding : Binding)
    (environment : Environment) :
    Environment.SeesAlso binding.name environment (binding :: environment) where
  seen := by
    rw [Environment.type?_cons, if_pos rfl]
    rfl
  others := by
    intro other different
    rw [Environment.type?_cons, if_neg (Ne.symm different)]

namespace Environment.SeesAlso

variable {name : String} {environment next : Environment}

/-- A declaration on both sides hides the same on both, also if it is of the name itself. -/
theorem declared
    (sees : Environment.SeesAlso name environment next)
    (binding : Binding) :
    Environment.SeesAlso name (binding :: environment) (binding :: next) where
  seen := by
    rw [Environment.type?_cons]
    split
    next => rfl
    next => exact sees.seen
  others := by
    intro other different
    rw [Environment.type?_cons, Environment.type?_cons, sees.others other different]

/-- At a use, nothing is found any more if the name is used, and otherwise what was found before. -/
theorem filter_findingsAt
    (sees : Environment.SeesAlso name environment next)
    (position : Option Position)
    (line : Nat)
    (used : String) :
    (environment.findingsAt position line used).filter (fun finding => !finding.misses name) =
      next.findingsAt position line used := by
  have missed :
      ((ProgramError.unresolvedName used line).report position).misses name = decide (used = name) := by
    rw [Bool.eq_iff_iff, ProgramError.misses_report_iff, decide_eq_true_iff]
    constructor
    · rintro ⟨_, same⟩
      cases same
      rfl
    · rintro rfl
      exact ⟨line, rfl⟩
  by_cases same : used = name
  · rw [decide_eq_true same] at missed
    rcases Option.isSome_iff_exists.mp sees.seen with ⟨type, visible⟩
    rw [← same] at visible
    rw [Environment.findingsAt, Environment.findingsAt, visible]
    cases environment.type? used with
    | none => simp [missed]
    | some _ => rfl
  · rw [decide_eq_false same] at missed
    rw [Environment.findingsAt, Environment.findingsAt, sees.others used same]
    cases environment.type? used with
    | none => simp [missed]
    | some _ => rfl

end Environment.SeesAlso

/-- The walk that sees a name more finds the errors that are not about this name. -/
theorem Environment.sifts_seesAlso (name : String) :
    Environment.Sifts (fun finding => !finding.misses name) false false
      (Environment.SeesAlso name) where
  declared := Environment.SeesAlso.declared
  atUse := Environment.SeesAlso.filter_findingsAt
  atDeclaration := by
    intro environment next _ position line declared
    rfl
  atHeader := by
    intro line initial condition update error malformed position
    have code := code_of_checkHeader malformed
    rw [Bool.not_eq_true', ← Bool.not_eq_true, ProgramError.misses_report_iff]
    rintro ⟨_, unresolved⟩
    simp [unresolved, ProgramError.code] at code

/-! ## The added parameter -/

/-- The function with a parameter behind the others. -/
def FunctionDefinition.withParameter
    (definition : FunctionDefinition)
    (parameter : Binding) :
    FunctionDefinition :=
  { definition with parameters := definition.parameters ++ [parameter] }

/-- The errors in the function with the parameter are those in the function that do not miss its name. -/
theorem FunctionDefinition.errorsAmong_withParameter
    (shadowing : Bool)
    (definition : FunctionDefinition)
    (parameter : Binding) :
    errorsAmong ((definition.withParameter parameter).lexicalFindings shadowing) =
      (errorsAmong (definition.lexicalFindings shadowing)).filter
        (fun finding => !finding.misses parameter.name) := by
  have sees :
      Environment.SeesAlso parameter.name definition.parameters.reverse
        (definition.withParameter parameter).parameters.reverse := by
    rw [withParameter, List.reverse_append]
    exact Environment.seesAlso_cons parameter definition.parameters.reverse
  rw [errorsAmong_lexicalFindings, errorsAmong_lexicalFindings]
  exact
    (Block.filter_lexicalFindings (Environment.sifts_seesAlso parameter.name) definition.body
      sees).symm

/--
A parameter more removes exactly the errors about its name. Let a function stand anywhere in a program.
What resolution finds in that program is what it finds in the function by itself, between what it finds in
the functions before and behind, and these find the same when the function has the parameter more. The
errors in the function with the parameter are the errors in the function without it, in the same order and
with the same texts and notes, but for those which say that the name of the parameter is not visible. These
are the reports of that name as unresolved, at whatever line and position, and no others.
-/
theorem Program.errors_withParameter
    (before behind : List FunctionDefinition)
    (definition : FunctionDefinition)
    (parameter : Binding)
    (shadowing : Bool) :
    ∃ earlier found extended later,
      Program.resolve ⟨before ++ definition :: behind⟩ shadowing =
          .ok (earlier ++ (found ++ later)) ∧
        Program.resolve ⟨before ++ definition.withParameter parameter :: behind⟩ shadowing =
          .ok (earlier ++ (extended ++ later)) ∧
        Program.resolve ⟨[definition]⟩ shadowing = .ok found ∧
        Program.resolve ⟨[definition.withParameter parameter]⟩ shadowing = .ok extended ∧
        errorsAmong extended =
          (errorsAmong found).filter (fun finding => !finding.misses parameter.name) ∧
        ∀ finding ∈ found,
          finding.misses parameter.name = true ↔
            ∃ line position,
              finding = (ProgramError.unresolvedName parameter.name line).report position := by
  refine
    ⟨before.flatMap (FunctionDefinition.lexicalFindings shadowing),
      definition.lexicalFindings shadowing,
      (definition.withParameter parameter).lexicalFindings shadowing,
      behind.flatMap (FunctionDefinition.lexicalFindings shadowing), ?_, ?_, ?_, ?_, ?_, ?_⟩
  · rw [resolve_eq_flatMap, List.flatMap_append, List.flatMap_cons]
  · rw [resolve_eq_flatMap, List.flatMap_append, List.flatMap_cons]
  · rw [resolve_eq_flatMap, List.flatMap_singleton]
  · rw [resolve_eq_flatMap, List.flatMap_singleton]
  · exact definition.errorsAmong_withParameter shadowing parameter
  · intro finding member
    have kind := Block.isFinding_of_mem shadowing definition.body _ finding member
    exact kind.misses_iff parameter.name

end SynthesisHoles
