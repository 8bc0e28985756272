import SynthesisHoles.Proofs.Scope.History

/-!
# No handle is mistaken for another

A slot is used again after its frame was discarded, but the frame that takes it is of a later generation.
The main statement says that the handles given out by an arena all differ, and that a handle whose frame
was discarded names nothing ever after, however often its slot is used again. Generations are natural
numbers here, so there is always a later one.
-/

namespace SynthesisHoles

/-- A handle names nothing, and is answered accordingly. -/
structure Arena.Forgets (arena : Arena) (handle : Handle) : Prop where
  dead : arena.isLive handle = false
  types : ∀ name, arena.get? handle name = none
  parent : arena.parent? handle = none
  names : (arena.names handle).names = []
  depth : arena.depth handle = 0

theorem Arena.forgets_of_not_live
    {arena : Arena}
    {handle : Handle}
    (dead : arena.isLive handle = false) :
    arena.Forgets handle := by
  have unnamed : arena.frame? handle = none := by
    rw [isLive, Option.isSome_eq_false_iff] at dead
    exact Option.isNone_iff_eq_none.mp dead
  have alone : arena.chain handle = [] := chain_eq_nil unnamed
  constructor
  · exact dead
  · intro name
    rw [get?, alone, List.findSome?_nil]
  · rw [parent?, unnamed, Option.bind_none]
  · rw [names, alone]
    rfl
  · rw [depth, alone]
    rfl

/-- If there are layers, the innermost scope is one of those that were made for them. -/
theorem ScopeRecord.innermost_mem_nested
    (outer : ScopeRecord)
    (handle : Handle)
    {layers : List Layer}
    (some : layers ≠ []) :
    outer.innermost handle layers ∈ outer.nested handle layers := by
  cases layers with
  | nil => exact absurd rfl some
  | cons layer inner =>
      rw [nested]
      exact innermost_mem (List.mem_singleton_self _) handle.next inner

namespace ScopeHistory

/-- The handles of a history are told apart, now and after any further steps. -/
structure TellsApart (history : ScopeHistory) : Prop where
  /-- All the handles ever given out differ, that of the outermost scope included. -/
  distinct : (history.made.map ScopeRecord.handle).Nodup
  /-- A call that makes a frame answers a handle that was not given out before. -/
  fresh :
    ∀ outer ∈ history.made,
      history.arena.isLive outer.handle = true →
        ∀ (call : ScopeCall) (handle : Handle) (arena : Arena),
          call.perform outer.handle history.arena = .ok (.ok handle, arena) →
            history.arena.size < arena.size →
              handle ≠ Arena.root ∧ ∀ record ∈ history.made, handle ≠ record.handle
  /-- A handle that names nothing any more names nothing ever after. -/
  ended :
    ∀ record ∈ history.made,
      history.arena.isLive record.handle = false →
        ∀ later, history.Leads later → later.arena.Forgets record.handle
  /-- The outermost scope is live. -/
  kept : history.arena.isLive Arena.root = true

/-- The handle that a call answers for a new frame is not among those given out before. -/
theorem Sound.handle_fresh
    {history : ScopeHistory}
    {outer : ScopeRecord}
    {handle : Handle}
    {arena : Arena}
    (sound : history.Sound)
    (given : outer ∈ history.made)
    (live : history.arena.isLive outer.handle = true)
    (call : ScopeCall)
    (performed : call.perform outer.handle history.arena = .ok (.ok handle, arena))
    (grows : history.arena.size < arena.size) :
    ∀ record ∈ history.made, handle ≠ record.handle := by
  rw [call.perform_eq live] at performed
  cases verdict : call.verdict with
  | error error =>
      rw [verdict] at performed
      cases performed
  | ok _ =>
      rw [verdict] at performed
      cases performed
      have some : call.layers ≠ [] := by
        intro none
        rw [none] at grows
        exact Nat.lt_irrefl _ grows
      have new := outer.innermost_mem_nested history.arena.nextHandle some
      have distinct := (sound.nested given live call.layers).1.distinct
      rw [ScopeHistory.nested, List.map_append, List.nodup_append] at distinct
      intro record member
      rw [← outer.handle_innermost]
      exact
        distinct.2.2 _ (List.mem_map_of_mem new) record.handle (List.mem_map_of_mem member)

/--
No handle is mistaken for another, whatever calls, marks and returns to marks an arena has gone through,
and in whatever order the marks were used.
-/
theorem tellsApart_of_leads
    {history : ScopeHistory}
    (reached : initial.Leads history) :
    history.TellsApart := by
  have sound := (Leads.sound reached sound_initial).1
  constructor
  · exact sound.distinct
  · intro outer given live call handle arena performed grows
    have unlike := sound.handle_fresh given live call performed grows
    exact ⟨unlike .outermost sound.started, unlike⟩
  · intro record member dead later leads
    have continued := (Leads.sound leads sound).2
    apply Arena.forgets_of_not_live
    rw [← Bool.not_eq_true] at dead ⊢
    exact fun live => dead (continued.live record member live)
  · exact sound.kept

/-- A frame is discarded by going back to a mark from before it, and its slot is used again at once. -/
theorem tellsApart_of_reusedSlot :
    ∃ history : ScopeHistory,
      initial.Leads history ∧
        history.made.map ScopeRecord.handle = [⟨1, 1⟩, ⟨1, 0⟩, ⟨0, 0⟩] ∧
        history.TellsApart := by
  have marked : initial.Leads _ := .single (.mark initial)
  have declared :=
    marked.tail (.call (.declare ⟨"x", .int⟩) List.mem_cons_self rfl rfl)
  have returned := declared.tail (.rewind List.mem_cons_self)
  have reused :=
    returned.tail (.call .child (List.mem_cons_of_mem _ List.mem_cons_self) rfl rfl)
  exact ⟨_, reused, rfl, tellsApart_of_leads reused⟩

end ScopeHistory

end SynthesisHoles
