import SynthesisHoles.Scope.Arena

/-!
# Look-ups beside new and discarded frames

A frame that is made goes on top of the others, so a scope that was live keeps its frames, and the new
scope sees its own frame before those of its parent. Discarding the frames beyond a mark brings back
the frames of the moment of the mark, whatever was put on top of them since.

What a handle names is decided by its slot and the generation there, counted from the oldest frame. This
says at once what becomes of all the handles when a frame is made and when frames are discarded.
-/

namespace SynthesisHoles

/-! ## Frames of one handle -/

/-- A handle that names a frame has a slot among the frames. -/
theorem slot_lt_of_frameIn?
    {frames : List Frame}
    {handle : Handle}
    (live : (frameIn? frames.length frames handle).isSome = true) :
    handle.slot < frames.length := by
  induction frames with
  | nil => simp [frameIn?] at live
  | cons frame older hypothesis =>
      rw [frameIn?_cons] at live
      rw [List.length_cons]
      by_cases top : handle.slot = older.length
      · omega
      · rw [if_neg top] at live
        exact Nat.lt_succ_of_lt (hypothesis live)

/-- A handle names the frame at its slot, counted from the oldest, if that has its generation. -/
theorem frameIn?_eq_getElem?
    (frames : List Frame)
    (handle : Handle) :
    frameIn? frames.length frames handle =
      frames.reverse[handle.slot]?.filter fun frame => frame.generation = handle.generation := by
  induction frames with
  | nil => rfl
  | cons frame older hypothesis =>
      rw [frameIn?_cons, List.reverse_cons, hypothesis]
      by_cases top : handle.slot = older.length
      · rw [if_pos top, List.getElem?_append_right (by simp [top])]
        by_cases same : frame.generation = handle.generation <;>
          simp [top, same, Option.filter]
      · rw [if_neg top]
        by_cases below : handle.slot < older.length
        · rw [List.getElem?_append_left (by simpa using below)]
        · rw [List.getElem?_eq_none (by simp; omega), List.getElem?_eq_none (by simp; omega)]

/-! ## The chain of one handle -/

/-- A handle that names no frame has no chain. -/
theorem chainIn_eq_nil
    {frames : List Frame}
    {handle : Handle}
    (dead : frameIn? frames.length frames handle = none) :
    chainIn frames.length frames handle = [] := by
  induction frames with
  | nil => rfl
  | cons frame older hypothesis =>
      rw [frameIn?_cons] at dead
      rw [chainIn_cons]
      by_cases top : handle.slot = older.length
      · rw [if_pos top] at dead ⊢
        split at dead
        next => cases dead
        next other => rw [if_neg other]
      · rw [if_neg top] at dead ⊢
        exact hypothesis dead

/-- A handle that names a frame has at least this frame in its chain. -/
theorem chainIn_ne_nil
    {frames : List Frame}
    {handle : Handle}
    (live : (frameIn? frames.length frames handle).isSome = true) :
    chainIn frames.length frames handle ≠ [] := by
  induction frames with
  | nil => cases live
  | cons frame older hypothesis =>
      rw [frameIn?_cons] at live
      rw [chainIn_cons]
      by_cases top : handle.slot = older.length
      · rw [if_pos top] at live ⊢
        split at live
        next same =>
          rw [if_pos same]
          exact List.cons_ne_nil _ _
        next => cases live
      · rw [if_neg top] at live ⊢
        exact hypothesis live

/-- The chain of a frame without parent is the frame. -/
theorem chainIn_of_outermost
    {frames : List Frame}
    {handle : Handle}
    {frame : Frame}
    (named : frameIn? frames.length frames handle = some frame)
    (last : frame.parent = none) :
    chainIn frames.length frames handle = [frame] := by
  induction frames with
  | nil => cases named
  | cons newest older hypothesis =>
      rw [frameIn?_cons] at named
      rw [chainIn_cons]
      by_cases top : handle.slot = older.length
      · rw [if_pos top] at named ⊢
        split at named
        next same =>
          cases named
          rw [if_pos same, last]
        next => cases named
      · rw [if_neg top] at named ⊢
        exact hypothesis named

/-- The chain of a frame goes on with that of its parent, if the parent is older. -/
theorem chainIn_of_inside
    {frames : List Frame}
    {handle parent : Handle}
    {frame : Frame}
    (named : frameIn? frames.length frames handle = some frame)
    (inside : frame.parent = some parent)
    (older : parent.slot < handle.slot) :
    chainIn frames.length frames handle = frame :: chainIn frames.length frames parent := by
  induction frames with
  | nil => cases named
  | cons newest rest hypothesis =>
      have below : handle.slot < (newest :: rest).length :=
        slot_lt_of_frameIn? (by rw [named]; rfl)
      have parentBelow : parent.slot ≠ rest.length := by
        rw [List.length_cons] at below
        omega
      rw [frameIn?_cons] at named
      rw [chainIn_cons, chainIn_cons newest rest parent, if_neg parentBelow]
      by_cases top : handle.slot = rest.length
      · rw [if_pos top] at named ⊢
        split at named
        next same =>
          cases named
          rw [if_pos same, inside]
        next => cases named
      · rw [if_neg top] at named ⊢
        exact hypothesis named

namespace Arena

theorem frame?_eq_getElem?
    (arena : Arena)
    (handle : Handle) :
    arena.frame? handle =
      arena.frames.reverse[handle.slot]?.filter fun frame =>
        frame.generation = handle.generation :=
  frameIn?_eq_getElem? arena.frames handle

theorem slot_lt_size
    {arena : Arena}
    {handle : Handle}
    (live : arena.isLive handle = true) :
    handle.slot < arena.size :=
  slot_lt_of_frameIn? live

theorem frame?_eq_none
    {arena : Arena}
    {handle : Handle}
    (above : arena.size ≤ handle.slot) :
    arena.frame? handle = none := by
  cases named : arena.frame? handle with
  | none => rfl
  | some frame =>
      have live : arena.isLive handle = true := by
        rw [isLive, named, Option.isSome_some]
      exact absurd (slot_lt_size live) (Nat.not_lt.mpr above)

/-- Each slot below the number of frames is that of a live scope. -/
theorem exists_isLive_of_lt_size
    {arena : Arena}
    {slot : Nat}
    (below : slot < arena.size) :
    ∃ handle : Handle, handle.slot = slot ∧ arena.isLive handle = true := by
  have inside : slot < arena.frames.reverse.length := by
    rw [List.length_reverse]
    exact below
  refine ⟨⟨slot, arena.frames.reverse[slot].generation⟩, rfl, ?_⟩
  rw [isLive, frame?_eq_getElem?, List.getElem?_eq_getElem inside]
  simp

/-- Only the outermost scope is live at the start. -/
theorem isLive_initial_iff {handle : Handle} :
    initial.isLive handle = true ↔ handle = root := by
  rcases handle with ⟨slot, generation⟩
  by_cases top : slot = 0
  · by_cases first : 0 = generation
    · simp [isLive, frame?, size, initial, root, frameIn?, top, ← first]
    · simp [isLive, frame?, size, initial, root, frameIn?, top, first, Ne.symm first]
  · simp [isLive, frame?, size, initial, root, frameIn?, top]

/-- A discarded scope has no frames. -/
theorem chain_eq_nil
    {arena : Arena}
    {handle : Handle}
    (dead : arena.frame? handle = none) :
    arena.chain handle = [] :=
  chainIn_eq_nil dead

/-- A live scope has at least its own frame. -/
theorem chain_ne_nil
    {arena : Arena}
    {handle : Handle}
    (live : arena.isLive handle = true) :
    arena.chain handle ≠ [] :=
  chainIn_ne_nil live

/-- A live scope has one frame more than there are between it and the outermost one. -/
theorem length_chain
    {arena : Arena}
    {handle : Handle}
    (live : arena.isLive handle = true) :
    (arena.chain handle).length = arena.depth handle + 1 := by
  have some : 0 < (arena.chain handle).length :=
    List.length_pos_iff.mpr (chain_ne_nil live)
  rw [depth]
  omega

/-- The outermost scope has its own frame only. -/
theorem chain_of_outermost
    {arena : Arena}
    {handle : Handle}
    {frame : Frame}
    (named : arena.frame? handle = some frame)
    (last : frame.parent = none) :
    arena.chain handle = [frame] :=
  chainIn_of_outermost named last

/-- A scope that lies in an older one has its own frame in front of those of the older one. -/
theorem chain_of_inside
    {arena : Arena}
    {handle parent : Handle}
    {frame : Frame}
    (named : arena.frame? handle = some frame)
    (inside : frame.parent = some parent)
    (older : parent.slot < handle.slot) :
    arena.chain handle = frame :: arena.chain parent :=
  chainIn_of_inside named inside older

/-- The visible names are those for which a look-up finds a type. -/
theorem mem_names_iff
    (arena : Arena)
    (handle : Handle)
    (name : String) :
    name ∈ (arena.names handle).names ↔ (arena.get? handle name).isSome = true := by
  rw [names, NameSet.mem_ofList, List.mem_flatMap, get?, List.findSome?_isSome_iff]
  simp only [OrderedMap.isSome_get?_iff]

/-- Which handles are live depends on the frames only, not on the generation. -/
theorem isLive_congr
    {left right : Arena}
    (same : left.frames = right.frames)
    (handle : Handle) :
    left.isLive handle = right.isLive handle := by
  rw [isLive, isLive, frame?, frame?, size, size, same]

/-- The chain of a handle depends on the frames only, not on the generation. -/
theorem chain_congr
    {left right : Arena}
    (same : left.frames = right.frames)
    (handle : Handle) :
    left.chain handle = right.chain handle := by
  rw [chain, chain, size, size, same]

theorem get?_congr
    {left right : Arena}
    (same : left.frames = right.frames)
    (handle : Handle)
    (name : String) :
    left.get? handle name = right.get? handle name := by
  rw [get?, get?, chain_congr same]

/-! ## Making a frame -/

/-- The arena with a frame more, made inside a scope. -/
def pushed
    (arena : Arena)
    (parent : Handle)
    (bindings : OrderedMap DataType) :
    Arena :=
  { arena with frames := ⟨arena.generation, some parent, bindings⟩ :: arena.frames }

/-- Handle of the next frame that is made. -/
def nextHandle (arena : Arena) : Handle :=
  ⟨arena.size, arena.generation⟩

theorem push_eq
    {arena : Arena}
    {parent : Handle}
    (live : arena.isLive parent = true)
    (bindings : OrderedMap DataType) :
    arena.push parent bindings = .ok (arena.nextHandle, arena.pushed parent bindings) := by
  rw [push, if_pos live]
  rfl

@[simp]
theorem frames_pushed
    (arena : Arena)
    (parent : Handle)
    (bindings : OrderedMap DataType) :
    (arena.pushed parent bindings).frames =
      ⟨arena.generation, some parent, bindings⟩ :: arena.frames :=
  rfl

/-- The new handle names the new frame, and every other one what it named before. -/
theorem frame?_pushed
    (arena : Arena)
    (parent : Handle)
    (bindings : OrderedMap DataType)
    (handle : Handle) :
    (arena.pushed parent bindings).frame? handle =
      if handle = arena.nextHandle then
        some ⟨arena.generation, some parent, bindings⟩
      else
        arena.frame? handle := by
  rw [frame?, size, frames_pushed, frameIn?_cons]
  by_cases top : handle.slot = arena.frames.length
  · have same_iff : handle = arena.nextHandle ↔ arena.generation = handle.generation := by
      constructor
      · intro same
        rw [same, nextHandle]
      · intro same
        rw [nextHandle, same, size, ← top]
    rw [if_pos top, frame?_eq_none (Nat.le_of_eq top.symm)]
    simp only [same_iff]
  · have other : handle ≠ arena.nextHandle := fun same => top (same ▸ rfl)
    rw [if_neg top, if_neg other]
    rfl

theorem isLive_pushed_iff
    (arena : Arena)
    (parent : Handle)
    (bindings : OrderedMap DataType)
    (handle : Handle) :
    (arena.pushed parent bindings).isLive handle = true ↔
      handle = arena.nextHandle ∨ arena.isLive handle = true := by
  rw [isLive, frame?_pushed]
  split
  next new => simp [new]
  next old => simp [old, isLive]

/-- A live scope stays live when a frame is made. -/
theorem isLive_pushed
    {arena : Arena}
    {handle : Handle}
    (live : arena.isLive handle = true)
    (parent : Handle)
    (bindings : OrderedMap DataType) :
    (arena.pushed parent bindings).isLive handle = true :=
  (isLive_pushed_iff arena parent bindings handle).mpr (Or.inr live)

theorem isLive_nextHandle
    (arena : Arena)
    (parent : Handle)
    (bindings : OrderedMap DataType) :
    (arena.pushed parent bindings).isLive arena.nextHandle = true :=
  (isLive_pushed_iff arena parent bindings arena.nextHandle).mpr (Or.inl rfl)

/-- The new scope has its own frame in front of those of its parent. -/
theorem chain_nextHandle
    (arena : Arena)
    (parent : Handle)
    (bindings : OrderedMap DataType) :
    (arena.pushed parent bindings).chain arena.nextHandle =
      ⟨arena.generation, some parent, bindings⟩ :: arena.chain parent := by
  rw [chain, size, frames_pushed, chainIn_cons]
  simp [nextHandle, size, chain]

/-- A live scope keeps its frames when one is made. -/
theorem chain_pushed
    {arena : Arena}
    {handle : Handle}
    (live : arena.isLive handle = true)
    (parent : Handle)
    (bindings : OrderedMap DataType) :
    (arena.pushed parent bindings).chain handle = arena.chain handle := by
  have below : handle.slot ≠ arena.frames.length :=
    Nat.ne_of_lt (slot_lt_size live)
  rw [chain, size, frames_pushed, chainIn_cons, if_neg below]
  rfl

/-- The new scope sees what it binds, and all else as its parent sees it. -/
theorem get?_nextHandle
    (arena : Arena)
    (parent : Handle)
    (bindings : OrderedMap DataType)
    (name : String) :
    (arena.pushed parent bindings).get? arena.nextHandle name =
      (bindings.get? name).or (arena.get? parent name) := by
  rw [get?, chain_nextHandle, List.findSome?_cons, get?]
  cases bindings.get? name <;> rfl

/-! ## Discarding frames -/

/-- Going back to a mark brings back the frames that there were when it was taken. -/
theorem frames_rewind_mark
    {before after : Arena}
    (kept : before.frames <:+ after.frames) :
    (after.rewind before.mark).frames = before.frames := by
  rcases kept with ⟨newer, frames⟩
  rw [rewind, mark, size, size, ← frames]
  split
  next => simp
  next nothing =>
    have none : newer = [] := by
      simpa using nothing
    rw [← frames, none, List.nil_append]

/-- Discarding frames leaves the older ones. -/
theorem frames_rewind_suffix
    (arena : Arena)
    (mark : Mark) :
    (arena.rewind mark).frames <:+ arena.frames := by
  rw [rewind]
  split
  next => exact List.drop_suffix _ _
  next => exact List.suffix_refl _

/-- No more frames are left than there were when the mark was taken, and none is made. -/
theorem size_rewind
    (arena : Arena)
    (mark : Mark) :
    (arena.rewind mark).size = min mark.length arena.size := by
  rw [rewind]
  split
  next discards =>
    rw [size, List.length_drop, ← size]
    omega
  next => omega

/-- A new generation starts exactly if a frame is discarded. -/
theorem generation_rewind_iff
    (arena : Arena)
    (mark : Mark) :
    (arena.rewind mark).generation = arena.generation + 1 ↔
      (arena.rewind mark).size < arena.size := by
  rw [size_rewind, rewind]
  split
  next discards =>
    constructor
    · intro _
      omega
    · intro _
      rfl
  next nothing =>
    constructor
    · intro later
      exact absurd later (by omega)
    · intro fewer
      exact absurd fewer (by omega)

/-- If no frame is discarded then nothing changes. -/
theorem rewind_eq_self
    {arena : Arena}
    {mark : Mark}
    (nothing : (arena.rewind mark).size = arena.size) :
    arena.rewind mark = arena := by
  rw [size_rewind] at nothing
  exact if_neg (by omega)

/-- After discarding, a handle names what it named if its slot is before the mark, and nothing if not. -/
theorem frame?_rewind
    (arena : Arena)
    (mark : Mark)
    (handle : Handle) :
    (arena.rewind mark).frame? handle =
      if handle.slot < mark.length then arena.frame? handle else none := by
  rw [rewind]
  by_cases discards : mark.length < arena.size
  · have kept : arena.size - (arena.size - mark.length) = mark.length := by
      omega
    rw [if_pos discards, frame?_eq_getElem?, frame?_eq_getElem?, List.reverse_drop,
      List.getElem?_take, ← size, kept]
    split
    next => rfl
    next => rfl
  · rw [if_neg discards]
    split
    next => rfl
    next beyond => exact frame?_eq_none (by omega)

theorem isLive_rewind_iff
    (arena : Arena)
    (mark : Mark)
    (handle : Handle) :
    (arena.rewind mark).isLive handle = true ↔
      handle.slot < mark.length ∧ arena.isLive handle = true := by
  rw [isLive, frame?_rewind]
  split
  next before => simp [before, isLive]
  next beyond => simp [beyond]

end Arena

end SynthesisHoles
