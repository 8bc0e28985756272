import SynthesisHoles.Proofs.Tree.Declarations

/-!
# The law of variable records

A record is an ordered map into which the declarations of a block are put one after the other. A name
gets its place when it comes first and its type when it comes last, so a block that declares a name more
than once passes through types that are not in the end there.

The main statement describes the record that a block makes from any other record: which names it has and
in which order, which types they have, that nothing but the declarations directly in the block counts, and
that a second time changes nothing.
-/

namespace SynthesisHoles

/-- New names follow those of the record, in the order in which they come first. -/
theorem names_insertBindings
    (record : VariableRecord)
    (bindings : List Binding) :
    (insertBindings record bindings).names =
      record.names
        ++ ((bindings.map Binding.name).filter fun name => name ∉ record.names).eraseDups := by
  rw [insertBindings_eq, OrderedMap.names_foldl_insert, List.map_map]
  rfl

/-- The names are those of the record and those of the bindings. -/
theorem mem_names_insertBindings
    (record : VariableRecord)
    (bindings : List Binding)
    (name : String) :
    name ∈ (insertBindings record bindings).names ↔
      name ∈ record.names ∨ name ∈ bindings.map Binding.name := by
  rw [names_insertBindings, List.mem_append, List.mem_eraseDups, List.mem_filter,
    decide_eq_true_iff]
  by_cases present : name ∈ record.names <;> simp [present]

/-- The type of a name is that of the last binding of the name, or the one in the record if there is none. -/
theorem get?_insertBindings
    (record : VariableRecord)
    (bindings : List Binding)
    (name : String) :
    (insertBindings record bindings).get? name =
      ((bindings.reverse.find? fun binding => binding.name = name).map Binding.type).or
        (record.get? name) := by
  rw [insertBindings_eq, OrderedMap.get?_foldl_insert, find?_map_toPair]

/-- No binding is found for a name that none of them has. -/
theorem find?_reverse_of_absent
    {bindings : List Binding}
    {name : String}
    (absent : name ∉ bindings.map Binding.name) :
    (bindings.reverse.find? fun binding => binding.name = name) = none := by
  rw [List.find?_eq_none]
  intro binding member same
  rw [List.mem_reverse] at member
  exact absent (of_decide_eq_true same ▸ List.mem_map_of_mem member)

/-- A binding counts if none of its name follows. -/
theorem get?_insertBindings_of_last
    (record : VariableRecord)
    (before : List Binding)
    (binding : Binding)
    {after : List Binding}
    (last : binding.name ∉ after.map Binding.name) :
    (insertBindings record (before ++ binding :: after)).get? binding.name = some binding.type := by
  rw [get?_insertBindings, List.reverse_append, List.reverse_cons, List.append_assoc,
    List.find?_append, find?_reverse_of_absent last]
  simp

/-- A name that no binding has keeps its type. -/
theorem get?_insertBindings_of_absent
    (record : VariableRecord)
    {bindings : List Binding}
    {name : String}
    (absent : name ∉ bindings.map Binding.name) :
    (insertBindings record bindings).get? name = record.get? name := by
  rw [get?_insertBindings, find?_reverse_of_absent absent]
  rfl

/-- Putting the same bindings in again changes nothing. -/
theorem insertBindings_insertBindings
    (record : VariableRecord)
    (bindings : List Binding) :
    insertBindings (insertBindings record bindings) bindings = insertBindings record bindings := by
  apply OrderedMap.ext_get?
  · have nothingNew :
        ((bindings.map Binding.name).filter fun name =>
          name ∉ (insertBindings record bindings).names) = [] := by
      rw [List.filter_eq_nil_iff]
      intro name declared
      rw [decide_eq_true_iff, mem_names_insertBindings]
      exact fun absent => absent (Or.inr declared)
    rw [names_insertBindings (insertBindings record bindings), nothingNew, List.eraseDups_nil,
      List.append_nil]
  · intro name
    rw [get?_insertBindings (insertBindings record bindings), get?_insertBindings]
    cases (bindings.reverse.find? fun binding => binding.name = name) <;> rfl

/--
The record that a block makes from another one, which it always does without a fault. The names that are
there come first, and then the names that are declared directly in the block, where each is declared
first. A declared name has the type of its last declaration, and any other name keeps its type. Another
block with the same declarations makes the same record, whatever else stands in it. From its own
record the block makes the same record again.
-/
theorem Block.addToRecord_law
    (block : Block)
    (seed : VariableRecord) :
    ∃ record,
      block.addToRecord seed = .ok record ∧
        record.names =
          seed.names
            ++ (((declaredIn block.statements).map Binding.name).filter fun name =>
                name ∉ seed.names).eraseDups ∧
        (∀ before binding after,
          declaredIn block.statements = before ++ binding :: after →
            binding.name ∉ after.map Binding.name →
              record.get? binding.name = some binding.type) ∧
        (∀ name,
          name ∉ (declaredIn block.statements).map Binding.name →
            record.get? name = seed.get? name) ∧
        (∀ other : Block,
          declaredIn other.statements = declaredIn block.statements →
            other.addToRecord seed = .ok record) ∧
        block.addToRecord record = .ok record := by
  refine
    ⟨insertBindings seed (declaredIn block.statements), block.addToRecord_eq seed,
      names_insertBindings seed _, ?_, ?_, ?_, ?_⟩
  · intro before binding after parts last
    rw [parts]
    exact get?_insertBindings_of_last seed before binding last
  · intro name absent
    exact get?_insertBindings_of_absent seed absent
  · intro other sameDeclarations
    rw [other.addToRecord_eq, sameDeclarations]
  · rw [block.addToRecord_eq, insertBindings_insertBindings]

/-- The seed keeps its place in front, the types are the last ones, and the nested block adds nothing. -/
example :
    ((Block.mk 1
        [ .declare 2 ⟨"x", .int⟩ none,
          .block 3 (.mk 3 [.declare 4 ⟨"x", .char⟩ none, .declare 5 ⟨"w", .int⟩ none]),
          .declare 6 ⟨"z", .bit⟩ none,
          .declare 7 ⟨"x", .string⟩ none ]).addToRecord
        (.ofList [("z", .array .char)])).map OrderedMap.entries =
      .ok [("z", .bit), ("x", .string)] :=
  rfl

end SynthesisHoles
