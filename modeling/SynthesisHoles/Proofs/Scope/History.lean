import Mathlib.Data.List.Nodup
import Mathlib.Logic.Relation
import SynthesisHoles.Proofs.Scope.Nesting

/-!
# Histories of an arena

A history is an arena with all that was obtained from it: a record of each scope that was made, also of
those that were discarded since, and the marks that were taken. A step is a call that makes scopes inside
of a live one, a mark, or a return to one of the marks, in any order and as often as one likes.

What holds after each step is one statement about the records and the frames. A frame is what the record
of its handle says, and the frame it lies in is there too and has a smaller slot. A handle of the current
generation is live, since only a return that discards starts a new generation; so the next handle is none
that was ever given out.
-/

namespace SynthesisHoles

/-! ## Calls -/

/-- A call that is made with a scope and answers a scope. -/
inductive ScopeCall
  | child
  | declare (binding : Binding)
  | extend (bindings : List Binding)
  | parameters (definition : FunctionDefinition)
  | afterStatement (statement : Statement)
  | afterBlock (block : Block)
  | insideBlock (block : Block)
  | insideFunction (definition : FunctionDefinition)

namespace ScopeCall

/-- Answer of the call, and the arena afterwards. -/
def perform (call : ScopeCall) (scope : Handle) (arena : Arena) : ScopeResult :=
  match call with
  | .child => do
      let (inner, arena) ← arena.child scope
      return (.ok inner, arena)
  | .declare binding => do
      let (inner, arena) ← arena.declare scope binding
      return (.ok inner, arena)
  | .extend bindings => do
      let (inner, arena) ← arena.extend scope bindings
      return (.ok inner, arena)
  | .parameters definition => do
      let (inner, arena) ← definition.parameterScope scope arena
      return (.ok inner, arena)
  | .afterStatement statement => statement.scopeAfter scope arena
  | .afterBlock block => block.scopeAfter scope arena
  | .insideBlock block => block.innerScope scope arena
  | .insideFunction definition => definition.innerScope scope arena

/-- Layers of the scopes that the call makes, from the outside to the inside. -/
def layers : ScopeCall → List Layer
  | .child => [[]]
  | .declare binding => [[binding]]
  | .extend bindings => [bindings]
  | .parameters definition => [definition.parameters]
  | .afterStatement statement => statement.layers
  | .afterBlock _ => []
  | .insideBlock block => block.layers
  | .insideFunction definition => definition.layers

/-- Whether the call answers a scope: it does not if its tree is not valid. -/
def verdict : ScopeCall → Except ProgramError Unit
  | .child => .ok ()
  | .declare _ => .ok ()
  | .extend _ => .ok ()
  | .parameters _ => .ok ()
  | .afterStatement statement => statement.validate
  | .afterBlock block => block.validate
  | .insideBlock block => block.validate
  | .insideFunction definition => definition.body.validate

/-- A call with a live scope meets no fault, and does no more than to make its layers. -/
theorem perform_eq
    (call : ScopeCall)
    {scope : Handle}
    {arena : Arena}
    (live : arena.isLive scope = true) :
    call.perform scope arena =
      .ok
        (call.verdict.map fun _ => (arena.nest scope call.layers).1,
          (arena.nest scope call.layers).2) := by
  cases call with
  | child =>
      rw [perform, Arena.child, Arena.push_eq live]
      rfl
  | declare binding =>
      rw [perform, Arena.declare, Arena.push_eq live]
      rfl
  | extend bindings =>
      rw [perform, Arena.extend, Arena.push_eq live]
      rfl
  | parameters definition =>
      rw [perform, definition.parameterScope_eq live]
      rfl
  | afterStatement statement => exact statement.scopeAfter_eq live
  | afterBlock block => exact block.scopeAfter_eq
  | insideBlock block => exact block.innerScope_eq live
  | insideFunction definition => exact definition.innerScope_eq live

end ScopeCall

/-! ## Records of scopes -/

/-- Handle of the frame that is made next, if nothing is discarded in between. -/
def Handle.next (handle : Handle) : Handle :=
  ⟨handle.slot + 1, handle.generation⟩

/-- A scope that was made: its handle, the scope it was made in, and its layers, the innermost first. -/
structure ScopeRecord where
  handle : Handle
  parent : Option Handle
  layers : List Layer

namespace ScopeRecord

/-- The outermost scope has one layer, which is empty. -/
def outermost : ScopeRecord :=
  ⟨Arena.root, none, [[]]⟩

/-- A scope that was made inside of another one. -/
def opened (outer : ScopeRecord) (handle : Handle) (layer : Layer) : ScopeRecord :=
  ⟨handle, some outer.handle, layer :: outer.layers⟩

/-- Scopes that were made one inside the other, from a handle on; the last one comes first. -/
def nested : ScopeRecord → Handle → List Layer → List ScopeRecord
  | _, _, [] => []
  | outer, handle, layer :: inner =>
      (outer.opened handle layer).nested handle.next inner ++ [outer.opened handle layer]

/-- The innermost of scopes that were made one inside the other. -/
def innermost : ScopeRecord → Handle → List Layer → ScopeRecord
  | outer, _, [] => outer
  | outer, handle, layer :: inner => (outer.opened handle layer).innermost handle.next inner

/-- The frame of the scope. -/
def frame (record : ScopeRecord) : Frame where
  generation := record.handle.generation
  parent := record.parent
  bindings := Layer.bindings (record.layers.headD [])

/-- The innermost scope has the new layers in front of those of the scope it was made in. -/
theorem layers_innermost
    (outer : ScopeRecord)
    (handle : Handle)
    (layers : List Layer) :
    (outer.innermost handle layers).layers = layers.reverse ++ outer.layers := by
  induction layers generalizing outer handle with
  | nil => rfl
  | cons layer inner hypothesis =>
      rw [innermost, hypothesis, List.reverse_cons, List.append_assoc]
      rfl

/-- The innermost scope is the last one that was made, or the one before if there is none. -/
theorem innermost_mem
    {outer : ScopeRecord}
    {made : List ScopeRecord}
    (given : outer ∈ made)
    (handle : Handle)
    (layers : List Layer) :
    outer.innermost handle layers ∈ outer.nested handle layers ++ made := by
  induction layers generalizing outer made handle with
  | nil => exact given
  | cons layer inner hypothesis =>
      have opened : outer.opened handle layer ∈ outer.opened handle layer :: made :=
        List.mem_cons_self
      rw [nested, List.append_assoc, List.singleton_append]
      exact hypothesis opened handle.next

/-- The innermost scope is the one that the arena answers. -/
theorem handle_innermost
    (outer : ScopeRecord)
    (arena : Arena)
    (layers : List Layer) :
    (outer.innermost arena.nextHandle layers).handle = (arena.nest outer.handle layers).1 := by
  induction layers generalizing outer arena with
  | nil => rfl
  | cons layer inner hypothesis =>
      exact hypothesis (outer.opened arena.nextHandle layer)
        (arena.pushed outer.handle layer.bindings)

/-- Scopes that are made one inside the other have slots from the first one on. -/
theorem slot_le_of_mem_nested
    {outer record : ScopeRecord}
    {handle : Handle}
    {layers : List Layer}
    (member : record ∈ outer.nested handle layers) :
    handle.slot ≤ record.handle.slot := by
  induction layers generalizing outer handle with
  | nil => cases member
  | cons layer inner hypothesis =>
      rcases List.mem_append.mp member with later | first
      · exact Nat.le_of_succ_le (hypothesis later)
      · rw [List.mem_singleton.mp first]
        exact Nat.le_refl _

end ScopeRecord

/-! ## Histories -/

/-- An arena, the scopes that were made in it, the newest first, and the marks that were taken. -/
structure ScopeHistory where
  arena : Arena
  made : List ScopeRecord
  marks : List Mark

namespace ScopeHistory

/-- The history in which nothing has happened. -/
def initial : ScopeHistory :=
  ⟨.initial, [.outermost], []⟩

/-- One step of a history. -/
inductive Step : ScopeHistory → ScopeHistory → Prop
  /-- A call with a live scope makes the scopes of its layers, whatever it answers. -/
  | call
      {history : ScopeHistory}
      {outer : ScopeRecord}
      {answer : Except ProgramError Handle}
      {arena : Arena}
      (call : ScopeCall)
      (given : outer ∈ history.made)
      (live : history.arena.isLive outer.handle = true)
      (performed : call.perform outer.handle history.arena = .ok (answer, arena)) :
      Step history
        { history with
          arena
          made := outer.nested history.arena.nextHandle call.layers ++ history.made }
  /-- A mark is taken. -/
  | mark (history : ScopeHistory) :
      Step history { history with marks := history.arena.mark :: history.marks }
  /-- The frames beyond a mark are discarded, whenever it was taken. -/
  | rewind
      {history : ScopeHistory}
      {mark : Mark}
      (taken : mark ∈ history.marks) :
      Step history { history with arena := history.arena.rewind mark }

/-- A history becomes another one by some steps. -/
abbrev Leads : ScopeHistory → ScopeHistory → Prop :=
  Relation.ReflTransGen Step

/-! ## What holds after each step -/

/-- The records of a history and the frames of its arena fit together. -/
structure Sound (history : ScopeHistory) : Prop where
  /-- Each scope but the outermost was made inside of an older one, which has a smaller slot. -/
  grounded :
    ∀ record ∈ history.made,
      record = .outermost ∨
        ∃ outer ∈ history.made, ∃ handle layer,
          record = outer.opened handle layer ∧ outer.handle.slot < handle.slot
  /-- The frame of a live scope is what its record says. -/
  framed :
    ∀ record ∈ history.made,
      history.arena.isLive record.handle = true →
        history.arena.frame? record.handle = some record.frame
  /-- The scope that a live one was made in is live. -/
  enclosed :
    ∀ record ∈ history.made,
      history.arena.isLive record.handle = true →
        ∀ parent, record.parent = some parent → history.arena.isLive parent = true
  /-- There is a record of each live scope. -/
  recorded :
    ∀ handle, history.arena.isLive handle = true → ∃ record ∈ history.made, record.handle = handle
  /-- A scope of the current generation is live, and there is none of a later generation. -/
  recent :
    ∀ record ∈ history.made,
      record.handle.generation < history.arena.generation ∨
        record.handle.generation = history.arena.generation ∧
          history.arena.isLive record.handle = true
  distinct : (history.made.map ScopeRecord.handle).Nodup
  started : .outermost ∈ history.made
  kept : history.arena.isLive Arena.root = true
  /-- The outermost frame is before each mark. -/
  marked : ∀ mark ∈ history.marks, 0 < mark.length

theorem sound_initial : initial.Sound where
  grounded record member := Or.inl (List.mem_singleton.mp member)
  framed record member live := by
    rw [List.mem_singleton.mp member]
    rfl
  enclosed record member live parent inside := by
    rw [List.mem_singleton.mp member] at inside
    cases inside
  recorded handle live :=
    ⟨.outermost, List.mem_singleton_self _, (Arena.isLive_initial_iff.mp live).symm⟩
  recent record member := by
    rw [List.mem_singleton.mp member]
    exact Or.inr ⟨rfl, rfl⟩
  distinct := List.nodup_singleton _
  started := List.mem_singleton_self _
  kept := rfl
  marked mark taken := by cases taken

/-- The next handle is none that was given out. -/
theorem Sound.fresh
    {history : ScopeHistory}
    (sound : history.Sound)
    {record : ScopeRecord}
    (member : record ∈ history.made) :
    record.handle ≠ history.arena.nextHandle := by
  intro same
  rcases sound.recent record member with older | ⟨_, live⟩
  · rw [same] at older
    exact Nat.lt_irrefl _ older
  · have below := Arena.slot_lt_size live
    rw [same] at below
    exact Nat.lt_irrefl _ below

/--
What holds of the outermost scope, and of each live scope if it holds of the scope around it, holds of all
the live scopes. The induction is on the layers of a scope, since the scope around it has fewer.
-/
@[elab_as_elim]
theorem Sound.induction_of_live
    {history : ScopeHistory}
    (sound : history.Sound)
    {motive : ScopeRecord → Prop}
    (outermost : motive .outermost)
    (opened :
      ∀ (outer : ScopeRecord) (handle : Handle) (layer : Layer),
        outer.opened handle layer ∈ history.made →
          history.arena.isLive handle = true →
            outer.handle.slot < handle.slot →
              motive outer → motive (outer.opened handle layer))
    {record : ScopeRecord}
    (member : record ∈ history.made)
    (live : history.arena.isLive record.handle = true) :
    motive record := by
  induction layers : record.layers generalizing record with
  | nil =>
      rcases sound.grounded record member with rfl | ⟨outer, _, handle, layer, rfl, _⟩
      · cases layers
      · cases layers
  | cons layer inner hypothesis =>
      rcases sound.grounded record member with rfl | ⟨outer, given, handle, own, rfl, older⟩
      · exact outermost
      · cases layers
        have outerLive := sound.enclosed _ member live outer.handle rfl
        exact opened outer handle layer member live older (hypothesis given outerLive rfl)

/-- The records of a history are kept, and no scope of them comes back to life. -/
structure Continues (earlier later : ScopeHistory) : Prop where
  kept : ∀ record ∈ earlier.made, record ∈ later.made
  live :
    ∀ record ∈ earlier.made,
      later.arena.isLive record.handle = true → earlier.arena.isLive record.handle = true

theorem Continues.refl (history : ScopeHistory) : history.Continues history where
  kept _ member := member
  live _ _ live := live

theorem Continues.trans
    {first second third : ScopeHistory}
    (left : first.Continues second)
    (right : second.Continues third) :
    first.Continues third where
  kept record member := right.kept record (left.kept record member)
  live record member live :=
    left.live record member (right.live record (left.kept record member) live)

/-! ### Making a scope -/

/-- The history in which one scope more was made. -/
def opened (history : ScopeHistory) (outer : ScopeRecord) (layer : Layer) : ScopeHistory where
  arena := history.arena.pushed outer.handle layer.bindings
  made := outer.opened history.arena.nextHandle layer :: history.made
  marks := history.marks

section Opened

variable {history : ScopeHistory} {outer : ScopeRecord}

theorem Sound.continues_opened
    (sound : history.Sound)
    (outer : ScopeRecord)
    (layer : Layer) :
    history.Continues (history.opened outer layer) where
  kept _ member := List.mem_cons_of_mem _ member
  live _ member live :=
    ((Arena.isLive_pushed_iff _ _ _ _).mp live).resolve_left (sound.fresh member)

theorem Sound.opened
    (sound : history.Sound)
    (given : outer ∈ history.made)
    (live : history.arena.isLive outer.handle = true)
    (layer : Layer) :
    (history.opened outer layer).Sound where
  grounded := by
    intro record member
    rcases List.mem_cons.mp member with rfl | old
    · exact
        Or.inr
          ⟨outer, List.mem_cons_of_mem _ given, _, layer, rfl, Arena.slot_lt_size live⟩
    · rcases sound.grounded record old with first | ⟨around, aroundGiven, shape⟩
      · exact Or.inl first
      · exact Or.inr ⟨around, List.mem_cons_of_mem _ aroundGiven, shape⟩
  framed := by
    intro record member recordLive
    rw [ScopeHistory.opened, Arena.frame?_pushed]
    rcases List.mem_cons.mp member with rfl | old
    · exact if_pos rfl
    · rw [if_neg (sound.fresh old)]
      exact sound.framed record old ((sound.continues_opened outer layer).live record old recordLive)
  enclosed := by
    intro record member recordLive parent inside
    rcases List.mem_cons.mp member with rfl | old
    · cases inside
      exact Arena.isLive_pushed live _ _
    · have oldLive := (sound.continues_opened outer layer).live record old recordLive
      exact Arena.isLive_pushed (sound.enclosed record old oldLive parent inside) _ _
  recorded := by
    intro handle handleLive
    rcases (Arena.isLive_pushed_iff _ _ _ _).mp handleLive with rfl | oldLive
    · exact ⟨_, List.mem_cons_self, rfl⟩
    · rcases sound.recorded handle oldLive with ⟨record, member, same⟩
      exact ⟨record, List.mem_cons_of_mem _ member, same⟩
  recent := by
    intro record member
    rcases List.mem_cons.mp member with rfl | old
    · exact Or.inr ⟨rfl, Arena.isLive_nextHandle _ _ _⟩
    · rcases sound.recent record old with older | ⟨same, oldLive⟩
      · exact Or.inl older
      · exact Or.inr ⟨same, Arena.isLive_pushed oldLive _ _⟩
  distinct := by
    refine List.nodup_cons.mpr ⟨?_, sound.distinct⟩
    intro member
    rcases List.mem_map.mp member with ⟨record, old, same⟩
    exact sound.fresh old same
  started := List.mem_cons_of_mem _ sound.started
  kept := Arena.isLive_pushed sound.kept _ _
  marked := sound.marked

/-- The history in which scopes were made one inside the other. -/
def nested (history : ScopeHistory) (outer : ScopeRecord) (layers : List Layer) : ScopeHistory where
  arena := (history.arena.nest outer.handle layers).2
  made := outer.nested history.arena.nextHandle layers ++ history.made
  marks := history.marks

theorem nested_cons
    (history : ScopeHistory)
    (outer : ScopeRecord)
    (layer : Layer)
    (inner : List Layer) :
    history.nested outer (layer :: inner) =
      (history.opened outer layer).nested (outer.opened history.arena.nextHandle layer) inner := by
  rw [nested, nested, ScopeRecord.nested, List.append_assoc]
  rfl

theorem Sound.nested
    (sound : history.Sound)
    (given : outer ∈ history.made)
    (live : history.arena.isLive outer.handle = true)
    (layers : List Layer) :
    (history.nested outer layers).Sound ∧ history.Continues (history.nested outer layers) := by
  induction layers generalizing history outer with
  | nil => exact ⟨sound, .refl history⟩
  | cons layer inner hypothesis =>
      have innerLive := Arena.isLive_nextHandle history.arena outer.handle layer.bindings
      rcases hypothesis (sound.opened given live layer) List.mem_cons_self innerLive with
        ⟨after, continued⟩
      rw [nested_cons]
      exact ⟨after, (sound.continues_opened outer layer).trans continued⟩

end Opened

/-! ### Discarding scopes -/

theorem Sound.marking
    {history : ScopeHistory}
    (sound : history.Sound) :
    Sound { history with marks := history.arena.mark :: history.marks } where
  grounded := sound.grounded
  framed := sound.framed
  enclosed := sound.enclosed
  recorded := sound.recorded
  recent := sound.recent
  distinct := sound.distinct
  started := sound.started
  kept := sound.kept
  marked := by
    intro mark taken
    rcases List.mem_cons.mp taken with rfl | old
    · exact Arena.slot_lt_size sound.kept
    · exact sound.marked mark old

/-- The history in which the frames beyond a mark were discarded. -/
def rewound (history : ScopeHistory) (mark : Mark) : ScopeHistory :=
  { history with arena := history.arena.rewind mark }

section Rewound

variable {history : ScopeHistory} {mark : Mark}

theorem continues_rewound : history.Continues (history.rewound mark) where
  kept _ member := member
  live _ _ live := ((Arena.isLive_rewind_iff _ _ _).mp live).2

theorem Sound.rewound
    (sound : history.Sound)
    (taken : mark ∈ history.marks) :
    (history.rewound mark).Sound where
  grounded := sound.grounded
  framed := by
    intro record member live
    rcases (Arena.isLive_rewind_iff _ _ _).mp live with ⟨before, oldLive⟩
    rw [ScopeHistory.rewound, Arena.frame?_rewind, if_pos before]
    exact sound.framed record member oldLive
  enclosed := by
    intro record member live parent inside
    rcases (Arena.isLive_rewind_iff _ _ _).mp live with ⟨before, oldLive⟩
    refine (Arena.isLive_rewind_iff _ _ _).mpr
      ⟨?_, sound.enclosed record member oldLive parent inside⟩
    rcases sound.grounded record member with rfl | ⟨outer, _, handle, layer, rfl, older⟩
    · cases inside
    · cases inside
      exact Nat.lt_trans older before
  recorded := by
    intro handle live
    exact sound.recorded handle ((Arena.isLive_rewind_iff _ _ _).mp live).2
  recent := by
    intro record member
    by_cases discards : mark.length < history.arena.size
    · have later : (history.arena.rewind mark).generation = history.arena.generation + 1 := by
        rw [Arena.rewind, if_pos discards]
      refine Or.inl ?_
      rw [ScopeHistory.rewound, later]
      rcases sound.recent record member with older | ⟨same, _⟩
      · exact Nat.lt_succ_of_lt older
      · exact Nat.lt_succ_of_le (Nat.le_of_eq same)
    · have nothing : history.arena.rewind mark = history.arena := by
        rw [Arena.rewind, if_neg discards]
      rw [ScopeHistory.rewound, nothing]
      exact sound.recent record member
  distinct := sound.distinct
  started := sound.started
  kept := (Arena.isLive_rewind_iff _ _ _).mpr ⟨sound.marked mark taken, sound.kept⟩
  marked := sound.marked

end Rewound

/-! ### Runs -/

theorem Step.sound
    {before after : ScopeHistory}
    (step : before.Step after)
    (sound : before.Sound) :
    after.Sound ∧ before.Continues after := by
  cases step with
  | call call given live performed =>
      rw [call.perform_eq live] at performed
      cases performed
      exact sound.nested given live call.layers
  | mark => exact ⟨sound.marking, ⟨fun _ member => member, fun _ _ live => live⟩⟩
  | rewind taken => exact ⟨sound.rewound taken, continues_rewound⟩

theorem Leads.sound
    {before after : ScopeHistory}
    (leads : before.Leads after)
    (sound : before.Sound) :
    after.Sound ∧ before.Continues after := by
  induction leads with
  | refl => exact ⟨sound, .refl before⟩
  | tail _ step hypothesis =>
      rcases step.sound hypothesis.1 with ⟨afterSound, continued⟩
      exact ⟨afterSound, hypothesis.2.trans continued⟩

end ScopeHistory

end SynthesisHoles
