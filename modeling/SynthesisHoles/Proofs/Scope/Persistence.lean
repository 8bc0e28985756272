import Mathlib.Data.List.Forall2
import SynthesisHoles.Proofs.Scope.History

/-!
# Scopes are persistent environments

A scope stands for the layers from which it was built, and for nothing else: what it answers can be read
off its record. The main statement says this of each scope that is still live after any number of steps,
so no step changes what a live scope answers.
-/

namespace SynthesisHoles

/-- The frame binds what the layer says. -/
def Frame.Binds (frame : Frame) (layer : Layer) : Prop :=
  ∀ name, frame.bindings.get? name = layer.type? name

/-- Type of a variable in the first layer that has one. -/
def typeIn? (layers : List Layer) (name : String) : Option DataType :=
  layers.findSome? fun layer => layer.type? name

/-- Going from a scope to the one it lies in, until there is none, visits the frames. -/
inductive Arena.Visits (arena : Arena) : Handle → List Frame → Prop
  | outermost
      {handle : Handle}
      {frame : Frame}
      (named : arena.frame? handle = some frame)
      (last : frame.parent = none) :
      Arena.Visits arena handle [frame]
  | inside
      {handle parent : Handle}
      {frame : Frame}
      {frames : List Frame}
      (named : arena.frame? handle = some frame)
      (next : frame.parent = some parent)
      (rest : Arena.Visits arena parent frames) :
      Arena.Visits arena handle (frame :: frames)

theorem Arena.Visits.ne_nil
    {arena : Arena}
    {handle : Handle}
    {frames : List Frame}
    (visits : arena.Visits handle frames) :
    frames ≠ [] := by
  cases visits with
  | outermost named last => exact List.cons_ne_nil _ _
  | inside named next rest => exact List.cons_ne_nil _ _

/-- A scope answers what its record says. -/
structure Arena.Answers (arena : Arena) (record : ScopeRecord) : Prop where
  /-- The way outwards ends, and it visits the chain of the scope. -/
  visits : arena.Visits record.handle (arena.chain record.handle)
  /-- The chain has a frame for each layer. -/
  binds : List.Forall₂ Frame.Binds (arena.chain record.handle) record.layers
  types : ∀ name, arena.get? record.handle name = typeIn? record.layers name
  resolved :
    ∀ name line,
      arena.resolve record.handle name line =
        match typeIn? record.layers name with
        | some type => .ok type
        | none => .error (.unresolvedName name line)
  names :
    ∀ name,
      name ∈ (arena.names record.handle).names ↔
        (arena.get? record.handle name).isSome = true
  depth : arena.depth record.handle + 1 = record.layers.length
  parent : arena.parent? record.handle = record.parent
  enclosed : ∀ parent, record.parent = some parent → arena.isLive parent = true
  /-- Only the outermost scope lies in none. -/
  outermost : record.parent = none ↔ record.handle = Arena.root

/-- The first frame that binds a name is that of the first layer that has it. -/
theorem findSome?_of_binds
    {frames : List Frame}
    {layers : List Layer}
    (binds : List.Forall₂ Frame.Binds frames layers)
    (name : String) :
    (frames.findSome? fun frame => frame.bindings.get? name) = typeIn? layers name := by
  induction binds with
  | nil => rfl
  | cons first rest hypothesis =>
      rw [typeIn?, List.findSome?_cons, List.findSome?_cons, first name, hypothesis]
      rfl

namespace ScopeHistory

variable {history later : ScopeHistory} {record : ScopeRecord}

/-- The frame of a record binds what the first layer says. -/
theorem binds_frame
    (handle : Handle)
    (parent : Option Handle)
    (layer : Layer)
    (layers : List Layer) :
    (ScopeRecord.mk handle parent (layer :: layers)).frame.Binds layer := by
  intro name
  exact layer.get?_bindings name

/-- The way outwards from a live scope visits frames that bind its layers. -/
theorem Sound.visits
    (sound : history.Sound)
    (member : record ∈ history.made)
    (live : history.arena.isLive record.handle = true) :
    history.arena.Visits record.handle (history.arena.chain record.handle) ∧
      List.Forall₂ Frame.Binds (history.arena.chain record.handle) record.layers := by
  refine sound.induction_of_live ?_ ?_ member live
  · have named := sound.framed .outermost sound.started sound.kept
    rw [Arena.chain_of_outermost named rfl]
    exact ⟨.outermost named rfl, .cons (binds_frame _ _ _ _) .nil⟩
  · rintro outer handle layer openedMember openedLive older ⟨visits, binds⟩
    have named := sound.framed _ openedMember openedLive
    rw [Arena.chain_of_inside named rfl older]
    exact ⟨.inside named rfl visits, .cons (binds_frame _ _ _ _) binds⟩

theorem Sound.answers
    (sound : history.Sound)
    (member : record ∈ history.made)
    (live : history.arena.isLive record.handle = true) :
    history.arena.Answers record := by
  rcases sound.visits member live with ⟨visits, binds⟩
  have named := sound.framed record member live
  have types : ∀ name, history.arena.get? record.handle name = typeIn? record.layers name :=
    findSome?_of_binds binds
  refine
    { visits
      binds
      types
      resolved := ?_
      names := history.arena.mem_names_iff record.handle
      depth := ?_
      parent := ?_
      enclosed := sound.enclosed record member live
      outermost := ?_ }
  · intro name line
    have answer :
        history.arena.resolve record.handle name line =
          match history.arena.get? record.handle name with
          | some type => .ok type
          | none => .error (.unresolvedName name line) := rfl
    rw [answer, types]
  · have nonempty := List.length_pos_iff.mpr visits.ne_nil
    rw [Arena.depth, ← binds.length_eq]
    omega
  · rw [Arena.parent?, named]
    rfl
  · rcases sound.grounded record member with rfl | ⟨outer, _, handle, layer, rfl, older⟩
    · exact ⟨fun _ => rfl, fun _ => rfl⟩
    · constructor
      · intro last
        cases last
      · rintro rfl
        exact absurd older (Nat.not_lt_zero _)

/-- A scope that stays live keeps its chain. -/
theorem Continues.chain_eq
    (continued : history.Continues later)
    (sound : history.Sound)
    (laterSound : later.Sound)
    (member : record ∈ history.made)
    (live : later.arena.isLive record.handle = true) :
    later.arena.chain record.handle = history.arena.chain record.handle := by
  have wasLive := continued.live record member live
  revert live
  refine sound.induction_of_live ?_ ?_ member wasLive
  · intro _
    have named := sound.framed .outermost sound.started sound.kept
    have laterNamed := laterSound.framed .outermost laterSound.started laterSound.kept
    rw [Arena.chain_of_outermost named rfl, Arena.chain_of_outermost laterNamed rfl]
  · intro outer handle layer openedMember openedLive older hypothesis stillLive
    have laterMember := continued.kept _ openedMember
    have named := sound.framed _ openedMember openedLive
    have laterNamed := laterSound.framed _ laterMember stillLive
    have outerLive := laterSound.enclosed _ laterMember stillLive outer.handle rfl
    rw [Arena.chain_of_inside named rfl older, Arena.chain_of_inside laterNamed rfl older,
      hypothesis outerLive]

/-- What was obtained from an arena so far stands for fixed lists of layers. -/
structure IsPersistent (history : ScopeHistory) : Prop where
  /-- A call meets no fault. The scope that it answers has the layers of the call on top. -/
  calls :
    ∀ outer ∈ history.made,
      history.arena.isLive outer.handle = true →
        ∀ call : ScopeCall,
          ∃ record ∈ outer.nested history.arena.nextHandle call.layers ++ history.made,
            ∃ arena,
              call.perform outer.handle history.arena =
                  .ok (call.verdict.map fun _ => record.handle, arena) ∧
                record.layers = call.layers.reverse ++ outer.layers ∧
                arena.isLive record.handle = true
  /-- Each live scope was made by some call, or is the outermost. -/
  recorded :
    ∀ handle, history.arena.isLive handle = true → ∃ record ∈ history.made, record.handle = handle
  /-- After any further steps, a scope that is still live answers what its record says. -/
  answers :
    ∀ later, history.Leads later →
      ∀ record ∈ history.made,
        later.arena.isLive record.handle = true → later.arena.Answers record
  /-- These steps have not changed the frames that it sees. -/
  unchanged :
    ∀ later, history.Leads later →
      ∀ record ∈ history.made,
        later.arena.isLive record.handle = true →
          later.arena.chain record.handle = history.arena.chain record.handle

/--
Scopes are persistent environments. Whatever calls, marks and returns to marks an arena has gone through,
each live scope answers the layers from which it was built, now and as long as it stays live.
-/
theorem isPersistent_of_leads
    {history : ScopeHistory}
    (reached : initial.Leads history) :
    history.IsPersistent := by
  have sound := (Leads.sound reached sound_initial).1
  constructor
  · intro outer given live call
    refine
      ⟨outer.innermost history.arena.nextHandle call.layers, outer.innermost_mem given _ _,
        (history.arena.nest outer.handle call.layers).2, ?_, outer.layers_innermost _ _, ?_⟩
    · rw [call.perform_eq live, outer.handle_innermost]
    · rw [outer.handle_innermost]
      exact Arena.isLive_nest live call.layers
  · exact sound.recorded
  · intro later leads record member live
    rcases Leads.sound leads sound with ⟨laterSound, continued⟩
    exact laterSound.answers (continued.kept record member) live
  · intro later leads record member live
    rcases Leads.sound leads sound with ⟨laterSound, continued⟩
    exact continued.chain_eq sound laterSound member live

/--
Three scopes of a block are discarded, and a new scope takes the first of their slots. The block declares
a variable that its surroundings bind twice.
-/
theorem isPersistent_of_reusedSlot :
    ∃ history : ScopeHistory,
      initial.Leads history ∧
        history.made.map ScopeRecord.handle =
          [⟨2, 1⟩, ⟨4, 0⟩, ⟨3, 0⟩, ⟨2, 0⟩, ⟨1, 0⟩, ⟨0, 0⟩] ∧
        history.IsPersistent := by
  have opened : initial.Leads _ :=
    .single
      (.call (.extend [⟨"x", .int⟩, ⟨"y", .bit⟩, ⟨"x", .char⟩]) List.mem_cons_self rfl rfl)
  have marked := opened.tail (.mark _)
  have inside :=
    marked.tail
      (.call
        (.insideBlock
          (.mk 1
            [ .declare 2 ⟨"z", .int⟩ none,
              .empty 3,
              .declare 4 ⟨"x", .string⟩ (some (.var "x")) ]))
        List.mem_cons_self rfl rfl)
  have returned := inside.tail (.rewind List.mem_cons_self)
  have reused :=
    returned.tail
      (.call (.declare ⟨"z", .double⟩)
        (List.mem_cons_of_mem _
          (List.mem_cons_of_mem _ (List.mem_cons_of_mem _ List.mem_cons_self)))
        rfl rfl)
  exact ⟨_, reused, rfl, isPersistent_of_leads reused⟩

end ScopeHistory

end SynthesisHoles
