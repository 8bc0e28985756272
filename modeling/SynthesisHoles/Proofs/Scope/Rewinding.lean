import SynthesisHoles.Proofs.Scope.History

/-!
# Going back to a mark

A mark is a number of frames. As long as no fewer frames were left since it was taken, the frames below it
are those of that moment, and going back to it restores them exactly, whatever was made and discarded on
top. This is the first main statement.

If fewer frames were left in between then slots below the mark were used again, and the mark does not tell
the frames that took them from those of its moment. The second main statement says which scopes survive in
general: what decides is the lowest number of frames since the mark was taken.
-/

namespace SynthesisHoles

/-! ## Arenas that answer alike -/

/-- The same handles are live in two arenas, and they are answered in the same way. -/
structure Arena.AnswersAs (left right : Arena) : Prop where
  live : ∀ handle, left.isLive handle = right.isLive handle
  types : ∀ handle name, left.get? handle name = right.get? handle name
  names : ∀ handle, left.names handle = right.names handle
  depth : ∀ handle, left.depth handle = right.depth handle
  parent : ∀ handle, left.parent? handle = right.parent? handle

theorem Arena.answersAs_of_frames
    {left right : Arena}
    (same : left.frames = right.frames) :
    left.AnswersAs right where
  live := isLive_congr same
  types := get?_congr same
  names handle := by
    rw [Arena.names, Arena.names, chain_congr same]
  depth handle := by
    rw [Arena.depth, Arena.depth, chain_congr same]
  parent handle := by
    rw [parent?, parent?, frame?, frame?, size, size, same]

namespace ScopeHistory

/-! ## What one step does to the frames -/

/-- The history in which a mark was taken. -/
def marked (history : ScopeHistory) : ScopeHistory :=
  { history with marks := history.arena.mark :: history.marks }

/-- A step puts frames on top, or it discards frames from the top. -/
theorem Step.frames
    {before after : ScopeHistory}
    (step : before.Step after) :
    before.arena.frames <:+ after.arena.frames ∨ after.arena.frames <:+ before.arena.frames := by
  cases step with
  | call call given live performed =>
      rw [call.perform_eq live, Arena.nest_eq] at performed
      cases performed
      exact Or.inl (List.suffix_append _ _)
  | mark => exact Or.inl (List.suffix_refl _)
  | rewind taken => exact Or.inr (before.arena.frames_rewind_suffix _)

/-! ## Runs that stay above a mark -/

/-- A step that leaves at least some number of frames, if it discards any. -/
def StepAbove (floor : Nat) (before after : ScopeHistory) : Prop :=
  before.Step after ∧ (after.arena.size < before.arena.size → floor ≤ after.arena.size)

/-- A history becomes another one by steps of which none leaves fewer than some number of frames. -/
abbrev LeadsAbove (floor : Nat) : ScopeHistory → ScopeHistory → Prop :=
  Relation.ReflTransGen (StepAbove floor)

/-- Old frames stay under the others in a step that does not reach down to them. -/
theorem StepAbove.suffix
    {floor : Nat}
    {before after : ScopeHistory}
    (step : StepAbove floor before after)
    {frames : List Frame}
    (number : frames.length = floor)
    (under : frames <:+ before.arena.frames) :
    frames <:+ after.arena.frames := by
  rcases step.1.frames with grown | discarded
  · exact under.trans grown
  · have enough : frames.length ≤ after.arena.frames.length := by
      by_cases fewer : after.arena.size < before.arena.size
      · exact number ▸ step.2 fewer
      · exact Nat.le_trans under.length_le (Nat.le_of_not_lt fewer)
    exact List.suffix_of_suffix_length_le under discarded enough

/-- Old frames stay under the others in a run that does not reach down to them. -/
theorem LeadsAbove.suffix
    {floor : Nat}
    {before after : ScopeHistory}
    (run : LeadsAbove floor before after)
    {frames : List Frame}
    (number : frames.length = floor)
    (under : frames <:+ before.arena.frames) :
    frames <:+ after.arena.frames := by
  induction run with
  | refl => exact under
  | tail _ step hypothesis => exact step.suffix number hypothesis

/--
Going back to a mark restores the frames of the moment in which it was taken, if no fewer frames were left
since. Whatever else was made, marked and discarded, each handle is live and answered as it was. A new
generation starts exactly if a frame is discarded, and otherwise nothing changes.
-/
theorem rewind_of_leadsAbove
    {history later : ScopeHistory}
    (run : LeadsAbove history.arena.size history.marked later) :
    (later.arena.rewind history.arena.mark).frames = history.arena.frames ∧
      (later.arena.rewind history.arena.mark).AnswersAs history.arena ∧
      ((later.arena.rewind history.arena.mark).generation = later.arena.generation + 1 ↔
        (later.arena.rewind history.arena.mark).size < later.arena.size) ∧
      ((later.arena.rewind history.arena.mark).size = later.arena.size →
        later.arena.rewind history.arena.mark = later.arena) := by
  have under : history.arena.frames <:+ later.arena.frames :=
    run.suffix rfl (List.suffix_refl _)
  have restored := Arena.frames_rewind_mark under
  exact
    ⟨restored, Arena.answersAs_of_frames restored, later.arena.generation_rewind_iff _,
      Arena.rewind_eq_self⟩

/-- Opening a scope inside of a live one is a step. -/
theorem Step.child
    {history : ScopeHistory}
    {outer : ScopeRecord}
    (given : outer ∈ history.made)
    (live : history.arena.isLive outer.handle = true) :
    history.Step (history.opened outer []) :=
  .call .child given live (ScopeCall.perform_eq .child live)

/-- A scope that was opened after a mark. -/
def oneScope : ScopeHistory :=
  initial.marked.opened .outermost []

/-- On top of the scope another one is opened, discarded, and opened again in the same slot. -/
def reusedSlot : ScopeHistory :=
  ((oneScope.marked.opened .outermost []).rewound ⟨2⟩).opened .outermost []

theorem leads_oneScope : initial.Leads oneScope :=
  (Relation.ReflTransGen.single (.mark initial)).tail (.child List.mem_cons_self rfl)

/-- The three steps from the mark to the scope that is opened again. -/
theorem steps_reusedSlot :
    oneScope.marked.Step (oneScope.marked.opened .outermost []) ∧
      (oneScope.marked.opened .outermost []).Step
        ((oneScope.marked.opened .outermost []).rewound ⟨2⟩) ∧
      ((oneScope.marked.opened .outermost []).rewound ⟨2⟩).Step reusedSlot := by
  have first : .outermost ∈ oneScope.made := List.mem_cons_of_mem _ List.mem_cons_self
  have second : .outermost ∈ (oneScope.marked.opened .outermost []).made :=
    List.mem_cons_of_mem _ first
  exact ⟨.child first rfl, .rewind List.mem_cons_self, .child second rfl⟩

/-- Two generations took the slot above the mark, and the third is that of going back. -/
theorem rewind_of_reusedSlot :
    LeadsAbove oneScope.arena.size oneScope.marked reusedSlot ∧
      (reusedSlot.arena.rewind oneScope.arena.mark).frames = oneScope.arena.frames ∧
      (reusedSlot.arena.rewind oneScope.arena.mark).generation = 2 ∧
      (reusedSlot.arena.rewind oneScope.arena.mark).isLive ⟨2, 1⟩ = false ∧
      (reusedSlot.arena.rewind oneScope.arena.mark).isLive ⟨1, 0⟩ = true := by
  rcases steps_reusedSlot with ⟨opened, returned, again⟩
  have run : LeadsAbove oneScope.arena.size oneScope.marked reusedSlot :=
    ((Relation.ReflTransGen.single ⟨opened, by decide⟩).tail ⟨returned, by decide⟩).tail
      ⟨again, by decide⟩
  rcases rewind_of_leadsAbove run with ⟨restored, alike, later, _⟩
  exact ⟨run, restored, later.mpr (by decide), alike.live ⟨2, 1⟩, alike.live ⟨1, 0⟩⟩

/-! ## The lowest number of frames of a run -/

/--
A history becomes another one by some steps. The number is the lowest number of frames on the way, at the
start and at the end included.
-/
inductive LeadsThrough (start : ScopeHistory) : ScopeHistory → Nat → Prop
  | refl : LeadsThrough start start start.arena.size
  | tail
      {before after : ScopeHistory}
      {lowest : Nat}
      (run : LeadsThrough start before lowest)
      (step : before.Step after) :
      LeadsThrough start after (min lowest after.arena.size)

/-- Each run has a lowest number of frames. -/
theorem Leads.through
    {start later : ScopeHistory}
    (run : start.Leads later) :
    ∃ lowest, start.LeadsThrough later lowest := by
  induction run with
  | refl => exact ⟨_, .refl⟩
  | tail _ step hypothesis =>
      rcases hypothesis with ⟨lowest, run⟩
      exact ⟨_, run.tail step⟩

/--
The slots below a number are still taken by scopes of the earlier history, and all the others by scopes
that were made since.
-/
structure SplitsAt (earlier later : ScopeHistory) (lowest : Nat) : Prop where
  before : lowest ≤ earlier.arena.size
  after : lowest ≤ later.arena.size
  kept : ∀ record ∈ earlier.made, record ∈ later.made
  split :
    ∀ record ∈ later.made,
      later.arena.isLive record.handle = true →
        (record ∈ earlier.made ↔ record.handle.slot < lowest)

/-- When the mark is taken all the scopes are earlier ones. -/
theorem splitsAt_marked (history : ScopeHistory) :
    history.SplitsAt history.marked history.arena.size where
  before := Nat.le_refl _
  after := Nat.le_refl _
  kept _ member := member
  split _ member live := ⟨fun _ => Arena.slot_lt_size live, fun _ => member⟩

/-- A scope that a step has made lies above all the frames that were there before. -/
theorem Step.size_le_of_new
    {before after : ScopeHistory}
    (step : before.Step after)
    {record : ScopeRecord}
    (member : record ∈ after.made)
    (new : record ∉ before.made) :
    before.arena.size ≤ record.handle.slot := by
  cases step with
  | call call given outerLive performed =>
      exact ScopeRecord.slot_le_of_mem_nested ((List.mem_append.mp member).resolve_right new)
  | mark => exact absurd member new
  | rewind taken => exact absurd member new

/-- A step moves the split down to the number of frames that it leaves, if that is lower. -/
theorem SplitsAt.step
    {earlier before after : ScopeHistory}
    {lowest : Nat}
    (splits : earlier.SplitsAt before lowest)
    (sound : before.Sound)
    (step : before.Step after) :
    earlier.SplitsAt after (min lowest after.arena.size) := by
  have continued := (step.sound sound).2
  refine
    ⟨Nat.le_trans (Nat.min_le_left _ _) splits.before, Nat.min_le_right _ _,
      fun record member => continued.kept record (splits.kept record member), ?_⟩
  intro record member live
  have inside := Arena.slot_lt_size live
  by_cases old : record ∈ before.made
  · rw [splits.split record old (continued.live record old live)]
    omega
  · have above := step.size_le_of_new member old
    have atLeast := splits.after
    constructor
    · intro given
      exact absurd (splits.kept record given) old
    · intro below
      omega

/-- A run moves the split down to the lowest number of frames on the way. -/
theorem LeadsThrough.splitsAt
    {earlier start later : ScopeHistory}
    {lowest : Nat}
    (run : start.LeadsThrough later lowest)
    (sound : start.Sound)
    (splits : earlier.SplitsAt start start.arena.size) :
    later.Sound ∧ earlier.SplitsAt later lowest := by
  induction run with
  | refl => exact ⟨sound, splits⟩
  | tail _ step hypothesis =>
      rcases hypothesis with ⟨beforeSound, before⟩
      exact ⟨(step.sound beforeSound).1, before.step beforeSound step⟩

/-! ## Scopes that survive -/

/-- Going back to the mark of a history discards all the scopes that were made since. -/
def NoneSurvives (history later : ScopeHistory) : Prop :=
  ∀ record ∈ later.made,
    record ∉ history.made →
      (later.arena.rewind history.arena.mark).isLive record.handle = false

/-- What going back to the mark of a history leaves, by the lowest number of frames since. -/
structure Leaves (history later : ScopeHistory) (lowest : Nat) : Prop where
  /-- A scope that is left was made after the mark exactly if its slot is not below this number. -/
  made :
    ∀ record ∈ later.made,
      (later.arena.rewind history.arena.mark).isLive record.handle = true →
        (record ∉ history.made ↔ lowest ≤ record.handle.slot)
  /-- All the scopes made after the mark are discarded exactly if no more frames are left than this. -/
  none :
    history.NoneSurvives later ↔ (later.arena.rewind history.arena.mark).size = lowest

/--
The slots tell the scopes that were made since from the earlier ones. If more frames are left than the lowest
number, the one in this slot was made since.
-/
theorem SplitsAt.leaves
    {history later : ScopeHistory}
    {lowest : Nat}
    (splits : history.SplitsAt later lowest)
    (sound : later.Sound) :
    history.Leaves later lowest := by
  have made :
      ∀ record ∈ later.made,
        (later.arena.rewind history.arena.mark).isLive record.handle = true →
          (record ∉ history.made ↔ lowest ≤ record.handle.slot) := by
    intro record member live
    have wasLive := ((Arena.isLive_rewind_iff _ _ _).mp live).2
    rw [splits.split record member wasLive, Nat.not_lt]
  have low : lowest ≤ (later.arena.rewind history.arena.mark).size := by
    rw [Arena.size_rewind]
    exact Nat.le_min.mpr ⟨splits.before, splits.after⟩
  refine ⟨made, ?_⟩
  constructor
  · intro discarded
    by_contra more
    have inside : lowest < (later.arena.rewind history.arena.mark).size :=
      Nat.lt_of_le_of_ne low (Ne.symm more)
    rcases Arena.exists_isLive_of_lt_size inside with ⟨handle, slot, live⟩
    have wasLive := ((Arena.isLive_rewind_iff _ _ _).mp live).2
    rcases sound.recorded handle wasLive with ⟨record, member, rfl⟩
    have new := (made record member live).mpr (Nat.le_of_eq slot.symm)
    rw [discarded record member new] at live
    cases live
  · intro size record member new
    rw [← Bool.not_eq_true]
    intro live
    have above := (made record member live).mp new
    have below := Arena.slot_lt_size live
    omega

/--
Which scopes are left when an arena goes back to a mark, whatever happened since the mark was taken. The
scopes that were made since are all discarded exactly if no more frames are left than there were at some
moment in between. If more are left then the slots from that number on are taken by scopes that were made
since.
-/
theorem leaves_of_leads
    {history later : ScopeHistory}
    (reached : initial.Leads history)
    (run : history.marked.Leads later) :
    (∃ lowest, history.marked.LeadsThrough later lowest) ∧
      ∀ lowest, history.marked.LeadsThrough later lowest → history.Leaves later lowest := by
  have sound := (Leads.sound reached sound_initial).1
  refine ⟨run.through, ?_⟩
  intro lowest through
  rcases through.splitsAt sound.marking history.splitsAt_marked with ⟨laterSound, splits⟩
  exact splits.leaves laterSound

/-- No fewer than the two frames of the mark were left, so neither scope that was opened since survives. -/
theorem leaves_of_reusedSlot :
    initial.Leads oneScope ∧
      oneScope.marked.Leads reusedSlot ∧
      oneScope.marked.LeadsThrough reusedSlot 2 ∧
      oneScope.NoneSurvives reusedSlot := by
  rcases steps_reusedSlot with ⟨opened, returned, again⟩
  have run : oneScope.marked.Leads reusedSlot :=
    ((Relation.ReflTransGen.single opened).tail returned).tail again
  have through : oneScope.marked.LeadsThrough reusedSlot 2 :=
    ((LeadsThrough.refl.tail opened).tail returned).tail again
  have left := (leaves_of_leads leads_oneScope run).2 2 through
  exact ⟨leads_oneScope, run, through, left.none.mpr rfl⟩

/-- The scope is discarded, and another one is opened in its slot. -/
def replacedScope : ScopeHistory :=
  (oneScope.marked.rewound ⟨1⟩).opened .outermost []

/-- A mark from before the scope was replaced does not discard the new one, which was opened after it. -/
theorem survives_of_staleMark :
    initial.Leads oneScope ∧
      oneScope.marked.Leads replacedScope ∧
      oneScope.arena.mark = ⟨2⟩ ∧
      replacedScope.made.map ScopeRecord.handle = [⟨1, 1⟩, ⟨1, 0⟩, ⟨0, 0⟩] ∧
      (replacedScope.arena.rewind oneScope.arena.mark).isLive ⟨1, 1⟩ = true ∧
      ¬ oneScope.NoneSurvives replacedScope := by
  have returned : oneScope.marked.Step (oneScope.marked.rewound ⟨1⟩) :=
    .rewind (List.mem_cons_of_mem _ List.mem_cons_self)
  have again : (oneScope.marked.rewound ⟨1⟩).Step replacedScope :=
    .child (List.mem_cons_of_mem _ List.mem_cons_self) rfl
  refine
    ⟨leads_oneScope, (Relation.ReflTransGen.single returned).tail again, rfl, rfl, rfl, ?_⟩
  intro discarded
  have new : ScopeRecord.outermost.opened ⟨1, 1⟩ [] ∉ oneScope.made := by
    intro given
    have handles : (⟨1, 1⟩ : Handle) ∈ oneScope.made.map ScopeRecord.handle :=
      List.mem_map_of_mem given
    exact absurd handles (by decide)
  have dead := discarded _ List.mem_cons_self new
  exact absurd dead (by decide)

end ScopeHistory

end SynthesisHoles
