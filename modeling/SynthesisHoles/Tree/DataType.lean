/-!
# Data types

The types of variables, parameters, results and holes, and their printed form.
-/

namespace SynthesisHoles

/-- A type of the language. Structures are identified by their names. -/
inductive DataType
  | void
  | bit
  | int
  | char
  | double
  | string
  | array (item : DataType)
  | struct (name : String)
  deriving DecidableEq

namespace DataType

/-- The type of what returns nothing is the default. -/
instance : Inhabited DataType :=
  ⟨.void⟩

/-- Printed form: an array is its item type followed by brackets. -/
def text : DataType → String
  | .void => "void"
  | .bit => "bit"
  | .int => "int"
  | .char => "char"
  | .double => "double"
  | .string => "string"
  | .array item => item.text ++ "[]"
  | .struct name => name

end DataType

/-- A name together with its type: a declared variable or a parameter. -/
structure Binding where
  name : String
  type : DataType
  deriving DecidableEq

/-- Printed form: the type, then the name. -/
def Binding.text (binding : Binding) : String :=
  binding.type.text ++ " " ++ binding.name

/-- The name and the type as a pair. -/
def Binding.toPair (binding : Binding) : String × DataType :=
  (binding.name, binding.type)

end SynthesisHoles
