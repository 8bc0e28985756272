import SynthesisHoles.Proofs.Scope.DeclaredVariables

/-!
# Records and functions by name

The functions of a program need not differ in their names, and two parts of the library choose one of them
by a name. A look-up takes the first function of the name. The records are a map that is filled function
after function, so under each name stands the record of the last one.

The main statement describes both choices by the functions that have a name, and says when they agree: there
is a record exactly if there is a function, and it is that of the function that a look-up finds exactly if the
first and the last function of the name have equal records. Two functions of one name with different
parameters are a case where it is not.
-/

namespace SynthesisHoles

/-! ## The functions of a name -/

/-- The functions that have a name, in order. -/
def Program.functionsNamed (program : Program) (name : String) : List FunctionDefinition :=
  program.functions.filter fun definition => definition.name = name

/-- A look-up finds the first function of the name. -/
theorem Program.function?_eq_head? (program : Program) (name : String) :
    program.function? name = (program.functionsNamed name).head? := by
  rw [Program.function?, Program.functionsNamed, List.head?_filter]

/-! ## The records -/

/-- The records are made without a fault, from the functions in order. -/
theorem Program.declaredVariables_eq (program : Program) :
    program.declaredVariables =
      .ok
        (.ofList
          (program.functions.map fun definition =>
            (definition.name, definition.declared.bindings))) := by
  simp only [Program.declaredVariables, FunctionDefinition.declaredVariables_eq, ok_bind,
    List.mapM_pure]
  rfl

/-- Under a name stands the record of the last function of the name. -/
theorem Program.get?_records (program : Program) (name : String) :
    (OrderedMap.ofList
        (program.functions.map fun definition =>
          (definition.name, definition.declared.bindings))).get? name =
      (program.functionsNamed name).getLast?.map fun definition =>
        definition.declared.bindings := by
  rw [OrderedMap.get?_ofList, ← List.map_reverse, List.find?_map, Option.map_map,
    Program.functionsNamed, ← List.head?_reverse, ← List.filter_reverse, List.head?_filter]
  rfl

/-- What stands under a name is the record of the function. -/
def FunctionDefinition.IsRecordedUnder
    (definition : FunctionDefinition)
    (name : String)
    (records : OrderedMap VariableRecord) :
    Prop :=
  ∃ record, definition.declaredVariables = .ok record ∧ records.get? name = some record

theorem FunctionDefinition.isRecordedUnder_iff
    {definition : FunctionDefinition}
    {name : String}
    {records : OrderedMap VariableRecord} :
    definition.IsRecordedUnder name records ↔
      records.get? name = some definition.declared.bindings := by
  rw [IsRecordedUnder, definition.declaredVariables_eq]
  simp

/--
The records of a program by name, which are always made without a fault, and the look-up by name. There is
a record under a name exactly if the look-up finds a function. The record is that of the last function of
the name. So it is that of the function that the look-up finds exactly if this function and the last one
have equal records, and in any case if no other function has the name.
-/
theorem Program.declaredVariables_byName (program : Program) :
    ∃ records,
      program.declaredVariables = .ok records ∧
        ∀ name,
          ((records.get? name).isSome = true ↔ (program.function? name).isSome = true) ∧
            (∀ last,
              (program.functionsNamed name).getLast? = some last →
                last.IsRecordedUnder name records) ∧
            (∀ first last,
              program.function? name = some first →
                (program.functionsNamed name).getLast? = some last →
                  (first.IsRecordedUnder name records ↔
                    first.declaredVariables = last.declaredVariables)) ∧
            ((program.functionsNamed name).length ≤ 1 →
              ∀ first,
                program.function? name = some first → first.IsRecordedUnder name records) := by
  refine ⟨_, program.declaredVariables_eq, ?_⟩
  intro name
  simp only [FunctionDefinition.isRecordedUnder_iff, FunctionDefinition.declaredVariables_eq,
    program.get?_records, program.function?_eq_head?]
  refine ⟨?_, ?_, ?_, ?_⟩
  · simp
  · intro last found
    rw [found, Option.map_some]
  · intro first last _ found
    rw [found, Option.map_some, Option.some.injEq, Except.ok.injEq, eq_comm]
  · intro single first found
    rcases List.head?_eq_some_iff.mp found with ⟨rest, parts⟩
    rw [parts, List.length_cons] at single
    have alone : rest = [] := List.length_eq_zero_iff.mp (by omega)
    rw [parts, alone, List.getLast?_singleton, Option.map_some]

namespace Samples

/-- Two functions of one name, with a parameter each. -/
def redefined : Program where
  functions :=
    [ { name := "f", parameters := [⟨"a", .int⟩], body := .mk 1 [] },
      { name := "f", parameters := [⟨"b", .bit⟩], body := .mk 2 [] } ]

/-- The look-up finds the function with one parameter, and the record has the other. -/
theorem redefined_records_disagree :
    ∃ records first record,
      redefined.declaredVariables = .ok records ∧
        redefined.function? "f" = some first ∧
        first.declaredVariables = .ok record ∧
        record.names = ["a"] ∧
        (records.get? "f").map OrderedMap.names = some ["b"] ∧
        ¬ first.IsRecordedUnder "f" records := by
  refine ⟨_, _, _, redefined.declaredVariables_eq, rfl, rfl, rfl, rfl, ?_⟩
  rintro ⟨record, declared, found⟩
  cases declared
  have names := congrArg (Option.map OrderedMap.names) found
  exact absurd names (by decide)

end Samples

end SynthesisHoles
