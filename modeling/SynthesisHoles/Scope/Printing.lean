import SynthesisHoles.Scope.Arena
import SynthesisHoles.Text.Quoted

/-!
# Printed arenas

An arena is printed for inspection as a map from slots to bound variables, oldest frame first. The
slot of the parent stands beside that of the frame, and types are printed by their constructors.
-/

namespace SynthesisHoles

/-- A type by its constructors. -/
def DataType.description : DataType → String
  | .void => "VoidT"
  | .bit => "BitT"
  | .int => "IntT"
  | .char => "CharT"
  | .double => "DoubleT"
  | .string => "StrT"
  | .array item => "ArrayT(" ++ item.description ++ ")"
  | .struct name => "StructT(" ++ Text.quoteString name ++ ")"

/-- Variables of a frame. -/
def bindingsDescription (bindings : OrderedMap DataType) : String :=
  "\x7b"
    ++ String.intercalate ", "
      (bindings.entries.map fun entry => entry.1 ++ ": " ++ entry.2.description)
    ++ "\x7d"

/-- Slot of the parent of a frame. -/
def parentDescription : Option Handle → String
  | none => "None"
  | some parent => "Some(" ++ toString parent.slot ++ ")"

/-- A frame with its slot. -/
def Frame.description (frame : Frame) (slot : Nat) : String :=
  "(" ++ toString slot ++ ", " ++ parentDescription frame.parent ++ "): "
    ++ bindingsDescription frame.bindings

/-- All the frames, from the oldest to the newest. -/
def Arena.description (arena : Arena) : String :=
  "\x7b" ++ String.intercalate ", " (arena.frames.reverse.mapIdx fun slot frame =>
    frame.description slot) ++ "\x7d"

end SynthesisHoles
