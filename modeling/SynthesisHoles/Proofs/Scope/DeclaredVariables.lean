import SynthesisHoles.Proofs.Scope.LexicalScoping
import SynthesisHoles.Proofs.Scope.Nesting
import SynthesisHoles.Samples

/-!
# The variables of a function

Three parts of the library say which variables a function has: its record, the scope at the end of its
body, and resolution, which walks the body with scopes of its own and never opens one for the body as a
whole. Each of them is compared with one list of bindings: the parameters, and then what stands directly
in the body. The last binding of a name counts, so a parameter that is repeated or declared again has one
type in all three.

The main statement says that the three agree, and how many frames the scope at the end has.
-/

namespace SynthesisHoles

/-- The parameters, and then what the statements of the body declare. -/
def FunctionDefinition.declared (definition : FunctionDefinition) : Layer :=
  definition.parameters ++ declaredIn definition.body.statements

/-! ## The record -/

/-- Putting bindings into the map of a layer makes the map of the longer layer. -/
theorem insertBindings_bindings
    (layer : Layer)
    (bindings : List Binding) :
    insertBindings layer.bindings bindings = Layer.bindings (layer ++ bindings) := by
  rw [insertBindings_eq, Layer.bindings, Layer.bindings, OrderedMap.ofList, OrderedMap.ofList,
    List.map_append, List.foldl_append]

/-- The record of a function binds what is declared in it. -/
theorem FunctionDefinition.declaredVariables_eq (definition : FunctionDefinition) :
    definition.declaredVariables = .ok definition.declared.bindings := by
  rw [declaredVariables, Block.addToRecord_eq]
  exact congrArg Except.ok (insertBindings_bindings definition.parameters _)

/-! ## The scope at the end -/

/-- The layers of a valid function: the parameters, the inner scope of the body, the declarations. -/
theorem FunctionDefinition.layers_of_valid
    {definition : FunctionDefinition}
    (valid : definition.body.validate = .ok ()) :
    definition.layers =
      definition.parameters :: [] ::
        (declaredIn definition.body.statements).map fun binding => [binding] := by
  rw [layers, definition.body.layers_eq, Block.validPart_of_valid valid]

/-- The layers of a valid function bind what is declared in it, in the same order. -/
theorem FunctionDefinition.flatten_layers
    {definition : FunctionDefinition}
    (valid : definition.body.validate = .ok ()) :
    definition.layers.flatten = definition.declared := by
  rw [layers_of_valid valid, List.flatten_cons, List.flatten_cons, List.nil_append, declared,
    ← List.flatMap_def, List.flatMap_singleton']

/-- The scope at the end of a valid function sees what the function declares in front of the rest. -/
theorem FunctionDefinition.innerScope_of_valid
    {definition : FunctionDefinition}
    (valid : definition.body.validate = .ok ())
    {arena : Arena}
    {scope : Handle}
    (live : arena.isLive scope = true) :
    ∃ last after,
      definition.innerScope scope arena = .ok (.ok last, after) ∧
        (∀ name,
          after.get? last name =
            (definition.declared.bindings.get? name).or (arena.get? scope name)) ∧
        after.depth last =
          arena.depth scope + 2 + (declaredIn definition.body.statements).length ∧
        after.chain scope = arena.chain scope := by
  refine
    ⟨(arena.nest scope definition.layers).1, (arena.nest scope definition.layers).2,
      ?_, ?_, ?_, Arena.chain_nest live scope definition.layers⟩
  · rw [definition.innerScope_eq live, valid]
    rfl
  · intro name
    rw [Arena.get?_nest, flatten_layers valid, Layer.get?_bindings]
  · have inside := Arena.length_chain (Arena.isLive_nest live definition.layers)
    have outside := Arena.length_chain live
    have layers :
        definition.layers.length = (declaredIn definition.body.statements).length + 2 := by
      rw [layers_of_valid valid, List.length_cons, List.length_cons, List.length_map]
    have frames := Arena.length_chain_nest arena scope definition.layers
    omega

/-! ## Resolution at the end of the body -/

/-- The function with one statement more at the end of its body. -/
def FunctionDefinition.append
    (definition : FunctionDefinition)
    (statement : Statement) :
    FunctionDefinition :=
  { definition with
    body := .mk definition.body.line (definition.body.statements ++ [statement]) }

/-- A statement puts what it declares in front of the environment. -/
theorem Statement.environmentAfter_eq
    (statement : Statement)
    (environment : Environment) :
    statement.environmentAfter environment = statement.declared?.toList ++ environment := by
  cases statement <;> rfl

/-- A statement behind others stands in the environment that their declarations leave. -/
theorem Statement.lexicalFindingsOfList_append
    (shadowing : Bool)
    (blockLine index : Nat)
    (statements : List Statement)
    (last : Statement)
    (environment : Environment) :
    Statement.lexicalFindingsOfList shadowing blockLine index (statements ++ [last]) environment =
      Statement.lexicalFindingsOfList shadowing blockLine index statements environment
        ++ last.lexicalFindings shadowing (some ⟨index + statements.length, blockLine⟩)
          ((declaredIn statements).reverse ++ environment) := by
  induction statements generalizing index environment with
  | nil => exact List.append_nil _
  | cons first rest hypothesis =>
      have environments :
          (declaredIn rest).reverse ++ first.environmentAfter environment =
            (declaredIn (first :: rest)).reverse ++ environment := by
        rw [first.environmentAfter_eq, declaredIn, declaredIn, List.filterMap_cons]
        cases first.declared? with
        | none => rfl
        | some binding => simp
      have position : index + 1 + rest.length = index + (first :: rest).length := by
        rw [List.length_cons]
        omega
      rw [List.cons_append, Statement.lexicalFindingsOfList, Statement.lexicalFindingsOfList,
        hypothesis, environments, position, List.append_assoc]

/-- A use of a variable at the end of a function is found unless the function declares the variable. -/
theorem FunctionDefinition.lexicalFindings_append_var
    (shadowing : Bool)
    (definition : FunctionDefinition)
    (line : Nat)
    (name : String) :
    (definition.append (.evaluate line (.var name))).lexicalFindings shadowing =
      definition.lexicalFindings shadowing
        ++ if name ∈ definition.declared.bindings.names then
            []
          else
            [(ProgramError.unresolvedName name line).report
              (some ⟨definition.body.statements.length, definition.body.line⟩)] := by
  have types :
      Environment.type?
          ((declaredIn definition.body.statements).reverse ++ definition.parameters.reverse) name =
        definition.declared.bindings.get? name := by
    rw [Layer.get?_bindings, Layer.type?, declared, List.reverse_append, Environment.type?]
  have atLast :
      (Statement.evaluate line (.var name)).lexicalFindings shadowing
          (some ⟨definition.body.statements.length, definition.body.line⟩)
          ((declaredIn definition.body.statements).reverse ++ definition.parameters.reverse) =
        if name ∈ definition.declared.bindings.names then
          []
        else
          [(ProgramError.unresolvedName name line).report
            (some ⟨definition.body.statements.length, definition.body.line⟩)] := by
    rw [Statement.lexicalFindings, Expression.atVariables, Environment.findingsAt, types]
    simp only [← OrderedMap.isSome_get?_iff]
    cases definition.declared.bindings.get? name <;> rfl
  rw [← atLast]
  rcases definition with ⟨_, parameters, _, ⟨blockLine, statements⟩, _⟩
  have whole :=
    Statement.lexicalFindingsOfList_append shadowing blockLine 0 statements
      (.evaluate line (.var name)) parameters.reverse
  rw [Nat.zero_add] at whole
  exact whole

/-! ## Agreement -/

/--
The record of a valid function, the scope at its end and resolution know the same variables. The scope
sees the types of the record, and for other names what is seen from around the function. It lies inside
of two scopes more than there are declarations. A use of a variable at the end of the body changes what
is found in the function exactly if the record lacks the variable, and then it is the only change.
-/
theorem FunctionDefinition.variables_agree
    (definition : FunctionDefinition)
    (valid : definition.body.validate = .ok ()) :
    ∃ record,
      definition.declaredVariables = .ok record ∧
        (∀ (arena : Arena) (scope : Handle),
          arena.isLive scope = true →
            ∃ last after,
              definition.innerScope scope arena = .ok (.ok last, after) ∧
                (∀ name, after.get? last name = (record.get? name).or (arena.get? scope name)) ∧
                after.depth last =
                  arena.depth scope + 2 + (declaredIn definition.body.statements).length ∧
                after.chain scope = arena.chain scope) ∧
        ∀ (shadowing : Bool) (line : Nat) (name : String),
          ∃ found,
            Program.resolve { functions := [definition] } shadowing = .ok found ∧
              Program.resolve
                  { functions := [definition.append (.evaluate line (.var name))] } shadowing =
                .ok
                  (found
                    ++ if name ∈ record.names then
                        []
                      else
                        [(ProgramError.unresolvedName name line).report
                          (some ⟨definition.body.statements.length, definition.body.line⟩)]) := by
  refine ⟨definition.declared.bindings, definition.declaredVariables_eq, ?_, ?_⟩
  · intro arena scope live
    exact FunctionDefinition.innerScope_of_valid valid live
  · intro shadowing line name
    refine ⟨definition.lexicalFindings shadowing, ?_, ?_⟩
    · rw [Program.resolve_eq_flatMap, List.flatMap_singleton]
    · rw [Program.resolve_eq_flatMap, List.flatMap_singleton, lexicalFindings_append_var]

namespace Samples

/-- One parameter is given twice and declared again, behind a block and a loop with declarations. -/
def redeclared : FunctionDefinition where
  name := "redeclared"
  parameters := [⟨"x", .int⟩, ⟨"y", .bit⟩, ⟨"x", .char⟩]
  body :=
    .mk 1
      [ blockAt 2 2 [declare 2 .int "z" (integer 0)],
        declare 3 .int "y" (.var "x"),
        .forLoop 4
          (some (declare 4 .int "i" (integer 0)))
          (some (binary (.var "i") "<" (.var "y")))
          none
          (some (blockAt 4 4 [declare 4 .int "x" (.var "i")])),
        declare 5 .string "x" (.var "y") ]

/-- The last types of the two parameters are seen at the end, and the variables inside are not. -/
theorem redeclared_variables_agree :
    redeclared.body.validate = .ok () ∧
      Arena.initial.isLive Arena.root = true ∧
        ∃ record,
          redeclared.declaredVariables = .ok record ∧
            record.entries = [("x", .string), ("y", .int)] ∧
            (∃ last after,
              redeclared.innerScope Arena.root Arena.initial = .ok (.ok last, after) ∧
                (∀ name, after.get? last name = record.get? name) ∧ after.depth last = 4) ∧
            ∃ found,
              Program.resolve { functions := [redeclared] } true = .ok found ∧
                Program.resolve
                    { functions := [redeclared.append (.evaluate 6 (.var "z"))] } true =
                  .ok (found ++ [(ProgramError.unresolvedName "z" 6).report (some ⟨4, 1⟩)]) := by
  have valid : redeclared.body.validate = .ok () := rfl
  have live : Arena.initial.isLive Arena.root = true := rfl
  rcases redeclared.variables_agree valid with ⟨record, declared, scopes, uses⟩
  have entries : record.entries = [("x", .string), ("y", .int)] := by
    rw [redeclared.declaredVariables_eq, Except.ok.injEq] at declared
    rw [← declared]
    rfl
  have foreign : "z" ∉ record.names := by
    rw [OrderedMap.names, entries]
    decide
  refine ⟨valid, live, record, declared, entries, ?_, ?_⟩
  · rcases scopes Arena.initial Arena.root live with ⟨last, after, built, types, depth, _⟩
    refine ⟨last, after, built, ?_, depth⟩
    intro name
    rw [types]
    exact Option.or_none
  · rcases uses true 6 "z" with ⟨found, without, within⟩
    rw [if_neg foreign] at within
    exact ⟨found, without, within⟩

end Samples

end SynthesisHoles
