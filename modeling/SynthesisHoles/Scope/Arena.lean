import SynthesisHoles.Failure
import SynthesisHoles.OrderedMap
import SynthesisHoles.Tree.DataType

/-!
# The arena of scopes

A scope is a frame of an arena together with the frames it lies in. A frame is never changed: to
declare a variable makes a new frame inside the current one, so that a handle can be shared by the
statements that follow the same point. Frames are made and discarded at one end only. Discarding
starts a new generation, so that the handle of a discarded frame names nothing from then on, also
when its slot is taken again.

Frames are listed from the newest to the oldest, so the slot of a frame is the number of frames after
it in the list, and the frames that a look-up visits are a sublist.
-/

namespace SynthesisHoles

/-- A frame: when it was made, the frame it lies in, and the variables it binds. -/
structure Frame where
  generation : Nat
  parent : Option Handle
  bindings : OrderedMap DataType

/-- Frames from the newest to the oldest, and the current generation. -/
structure Arena where
  frames : List Frame
  generation : Nat

/-- Frame of a handle in a list of frames, of which the number is given. -/
def frameIn? : Nat → List Frame → Handle → Option Frame
  | _, [], _ => none
  | count, frame :: older, handle =>
      if handle.slot + 1 = count then
        if frame.generation = handle.generation then some frame else none
      else
        frameIn? (count - 1) older handle

theorem frameIn?_cons
    (frame : Frame)
    (older : List Frame)
    (handle : Handle) :
    frameIn? (frame :: older).length (frame :: older) handle =
      if handle.slot = older.length then
        if frame.generation = handle.generation then some frame else none
      else
        frameIn? older.length older handle := by
  simp [frameIn?]

/--
Frame of a handle and the frames it lies in, from the inside to the outside, in a list of frames of
which the number is given.
-/
def chainIn : Nat → List Frame → Handle → List Frame
  | _, [], _ => []
  | count, frame :: older, handle =>
      if handle.slot + 1 = count then
        if frame.generation = handle.generation then
          frame :: (match frame.parent with
            | none => []
            | some parent => chainIn (count - 1) older parent)
        else
          []
      else
        chainIn (count - 1) older handle

theorem chainIn_cons
    (frame : Frame)
    (older : List Frame)
    (handle : Handle) :
    chainIn (frame :: older).length (frame :: older) handle =
      if handle.slot = older.length then
        if frame.generation = handle.generation then
          frame :: (match frame.parent with
            | none => []
            | some parent => chainIn older.length older parent)
        else
          []
      else
        chainIn older.length older handle := by
  simp [chainIn]

namespace Arena

/-- The arena with nothing but an outermost frame that binds nothing. -/
def initial : Arena where
  frames := [⟨0, none, ∅⟩]
  generation := 0

instance : Inhabited Arena :=
  ⟨initial⟩

/-- Handle of the outermost frame. -/
def root : Handle :=
  ⟨0, 0⟩

/-- Number of frames. -/
def size (arena : Arena) : Nat :=
  arena.frames.length

/-- Frame of a handle, if it was not discarded. -/
def frame? (arena : Arena) (handle : Handle) : Option Frame :=
  frameIn? arena.size arena.frames handle

/-- Whether the frame of a handle was not discarded. -/
def isLive (arena : Arena) (handle : Handle) : Bool :=
  (arena.frame? handle).isSome

/-- Makes a frame inside a scope, which has to be live. -/
def push
    (arena : Arena)
    (parent : Handle)
    (bindings : OrderedMap DataType) :
    Except Fault (Handle × Arena) :=
  if arena.isLive parent then
    .ok
      (⟨arena.size, arena.generation⟩,
        { arena with frames := ⟨arena.generation, some parent, bindings⟩ :: arena.frames })
  else
    .error (.danglingScope parent)

/-- Opens a scope that binds nothing. -/
def child (arena : Arena) (parent : Handle) : Except Fault (Handle × Arena) :=
  arena.push parent ∅

/-- Opens a scope that binds one variable. -/
def declare
    (arena : Arena)
    (parent : Handle)
    (binding : Binding) :
    Except Fault (Handle × Arena) :=
  arena.push parent (.ofList [binding.toPair])

/-- Opens a scope that binds several variables, where a later one of a name replaces an earlier. -/
def extend
    (arena : Arena)
    (parent : Handle)
    (bindings : List Binding) :
    Except Fault (Handle × Arena) :=
  arena.push parent (.ofList (bindings.map Binding.toPair))

/-- Scope that a scope lies in; the outermost and the discarded ones lie in none. -/
def parent? (arena : Arena) (handle : Handle) : Option Handle :=
  (arena.frame? handle).bind Frame.parent

/-- Frames of a scope, from the inside to the outside; a discarded scope has none. -/
def chain (arena : Arena) (handle : Handle) : List Frame :=
  chainIn arena.size arena.frames handle

/-- Type of a variable that is visible from a scope. -/
def get? (arena : Arena) (handle : Handle) (name : String) : Option DataType :=
  (arena.chain handle).findSome? fun frame => frame.bindings.get? name

/-- Type of a variable that is looked up from a scope for a statement at a line. -/
def resolve
    (arena : Arena)
    (handle : Handle)
    (name : String)
    (line : Nat) :
    Except ProgramError DataType :=
  match arena.get? handle name with
  | some type => .ok type
  | none => .error (.unresolvedName name line)

/-- Names that are visible from a scope. -/
def names (arena : Arena) (handle : Handle) : NameSet :=
  .ofList ((arena.chain handle).flatMap fun frame => frame.bindings.names)

/-- Number of frames between a scope and the outermost one. -/
def depth (arena : Arena) (handle : Handle) : Nat :=
  (arena.chain handle).length - 1

/-- Mark of the current number of frames. -/
def mark (arena : Arena) : Mark :=
  ⟨arena.size⟩

/--
Discards the frames beyond a mark. If there are any, a new generation starts; otherwise nothing
changes.
-/
def rewind (arena : Arena) (mark : Mark) : Arena :=
  if mark.length < arena.size then
    { frames := arena.frames.drop (arena.size - mark.length)
      generation := arena.generation + 1 }
  else
    arena

end Arena

end SynthesisHoles
