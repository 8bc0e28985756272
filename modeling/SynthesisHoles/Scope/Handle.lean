/-!
# Handles and marks

A handle names a frame of an arena by its slot and by the generation in which the frame was made, so
that a frame that takes a freed slot has another handle. A mark remembers how many frames there were.
-/

namespace SynthesisHoles

/-- Name of a frame. -/
structure Handle where
  slot : Nat
  generation : Nat
  deriving DecidableEq

namespace Handle

/-- Handles are ordered by slot, then by generation. -/
instance : Ord Handle :=
  ⟨fun left right =>
    (compare left.slot right.slot).then (compare left.generation right.generation)⟩

/-- Short form: slot and generation. -/
def text (handle : Handle) : String :=
  toString handle.slot ++ ":" ++ toString handle.generation

/-- Long form, for messages. -/
def description (handle : Handle) : String :=
  "ScopeId \x7b index: " ++ toString handle.slot
    ++ ", generation: " ++ toString handle.generation ++ " \x7d"

end Handle

/-- A state of an arena to return to, known by its number of frames. -/
structure Mark where
  length : Nat
  deriving DecidableEq

/-- Printed form of a mark. -/
def Mark.text (mark : Mark) : String :=
  "Mark(" ++ toString mark.length ++ ")"

end SynthesisHoles
