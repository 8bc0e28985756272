import SynthesisHoles.Tree.Statement

/-!
# Functions and programs

A program is a list of function definitions. Their names need not differ: a look-up by name finds
the first.
-/

namespace SynthesisHoles

/-- A function: its signature, its body, and the line of the signature. -/
structure FunctionDefinition where
  name : String := ""
  parameters : List Binding := []
  result : DataType := .void
  body : Block
  line : Nat := 0

/-- Size of a function: that of its body. -/
def FunctionDefinition.size (definition : FunctionDefinition) : Nat :=
  definition.body.size

/-- An ordered collection of functions. -/
structure Program where
  functions : List FunctionDefinition := []

namespace Program

instance : Inhabited Program :=
  ⟨{}⟩

/-- Sum of the sizes of the functions. -/
def size (program : Program) : Nat :=
  program.functions.foldr (fun definition total => definition.size + total) 0

/-- First function of a name. -/
def function? (program : Program) (name : String) : Option FunctionDefinition :=
  program.functions.find? fun definition => definition.name = name

end Program

end SynthesisHoles
