import SynthesisHoles.Scope.Handle

/-!
# What can go wrong

A program error says that a tree or a table of holes is not acceptable; it is an answer, and becomes
a diagnostic. A fault says that an operation was used outside its contract: an index that does not
fit a machine word, a scope that was discarded, a statement that is not in its block.
-/

namespace SynthesisHoles

/-- A reason to reject a tree, a name or a run of holes. -/
inductive ProgramError
  /-- A node lacks a part, or has a part that does not belong there. -/
  | malformedTree (node reason : String) (line : Nat)
  /-- A run of holes starts at an index that was already given out. -/
  | duplicateIndex (expected found : Nat)
  /-- A run of holes leaves indices out. -/
  | indexGap (expected found : Nat)
  /-- No visible scope binds a name. -/
  | unresolvedName (name : String) (line : Nat)
  deriving DecidableEq

namespace ProgramError

/-- Code by which the error is known to users. -/
def code : ProgramError → String
  | .malformedTree .. => "E0001"
  | .duplicateIndex .. => "E0002"
  | .unresolvedName .. => "E0003"
  | .indexGap .. => "E0004"

/-- Text of the error. -/
def message : ProgramError → String
  | .malformedTree node reason line =>
      "malformed " ++ node ++ " at line " ++ toString line ++ ": " ++ reason
  | .duplicateIndex expected found =>
      "hole index " ++ toString found ++ " was already assigned (next free index is "
        ++ toString expected ++ ")"
  | .indexGap expected found =>
      "hole indices jump from " ++ toString expected ++ " to " ++ toString found
  | .unresolvedName name _ => "cannot find variable `" ++ name ++ "` in this scope"

/-- Line of the error, if it is about a node. -/
def line? : ProgramError → Option Nat
  | .malformedTree _ _ line => some line
  | .duplicateIndex .. => none
  | .indexGap .. => none
  | .unresolvedName _ line => some line

end ProgramError

/-- A use of an operation outside its contract. -/
inductive Fault
  /-- An index does not fit a machine word. -/
  | indexOverflow
  /-- A frame was to be made under a discarded scope. -/
  | danglingScope (handle : Handle)
  /-- A declaration was recorded at a position that its block does not have. -/
  | positionOutOfBlock (position size : Nat)
  deriving DecidableEq

/-- Text of the fault. -/
def Fault.message : Fault → String
  | .indexOverflow => "attempt to add with overflow"
  | .danglingScope handle => "dangling scope " ++ handle.description
  | .positionOutOfBlock position size =>
      "statement " ++ toString position ++ " out of a block of " ++ toString size ++ " statements"

/-- Either way in which an operation on trees can fail. -/
inductive Failure
  | rejected (error : ProgramError)
  | fault (fault : Fault)
  deriving DecidableEq

/-- A computation that can only meet a fault, seen as one that can also be rejected. -/
instance : MonadLift (Except Fault) (Except Failure) :=
  ⟨Except.mapError Failure.fault⟩

/-- A computation that can only be rejected, seen as one that can also meet a fault. -/
instance : MonadLift (Except ProgramError) (Except Failure) :=
  ⟨Except.mapError Failure.rejected⟩

end SynthesisHoles
