import SynthesisHoles.Proofs.Scope.Nesting
import SynthesisHoles.Proofs.Scope.Walk
import SynthesisHoles.Samples

/-!
# Each visit of the resolver is balanced

The main statement says that the walk of the resolver meets no fault and finds what resolution finds, and
that all its visits are balanced: at the start the frames of the arena are those of the current scope and no
others, and at the end the frames and the position are those of the start. So there is a frame wherever a
mark is taken. No visit is missing, since everything outside of malformed loops is recorded.

The proof walks along with resolution, statement by statement, and shows of each part of the walk that it
hands back the frames, or that it leaves its own on top of them. The former is what a caller relies on, and
the latter what it needs to discard them.
-/

namespace SynthesisHoles

/-! ## Balanced visits -/

/-- What resolution does with a subject in a scope, from a state. -/
def ResolverState.resolve
    (shadowing : Bool)
    (state : ResolverState)
    (subject : Subject)
    (scope : Handle) :
    Findings :=
  match subject with
  | .function definition => definition.resolve shadowing state.arena
  | .block body =>
      (Statement.block body.line body).resolve shadowing state.position scope state.arena
  | .statement statement => statement.resolve shadowing state.position scope state.arena
  | .expression line expression =>
      .ok (state.arena.unresolved state.position scope line expression.variableNames, state.arena)
  | .place line place =>
      .ok (state.arena.unresolved state.position scope line place.variableNames, state.arena)

/-- The frames of the arena are those of a live scope, from the inside to the outside. -/
structure Arena.IsStackOf (arena : Arena) (scope : Handle) : Prop where
  live : arena.isLive scope = true
  chain : arena.chain scope = arena.frames

/-- A visit in a scope that the arena is made of, which hands back the frames and the position. -/
structure Visit.IsBalanced (shadowing : Bool) (visit : Visit) : Prop where
  stack : visit.before.arena.IsStackOf visit.scope
  size : visit.before.arena.size = visit.before.arena.depth visit.scope + 1
  frames : visit.after.arena.frames = visit.before.arena.frames
  position : visit.after.position = visit.before.position
  /-- The visit does to the arena what resolution does. -/
  resolved :
    ∃ found,
      visit.before.resolve shadowing visit.subject visit.scope = .ok (found, visit.after.arena)
  /-- Nothing but the outermost frame is there after a function. -/
  outermost :
    ∀ definition,
      visit.subject = .function definition → visit.after.arena.frames = Arena.initial.frames

namespace Arena.IsStackOf

variable {arena left right : Arena} {scope : Handle}

theorem of_frames_eq
    (stack : left.IsStackOf scope)
    (same : right.frames = left.frames) :
    right.IsStackOf scope where
  live := by
    rw [isLive_congr same]
    exact stack.live
  chain := by
    rw [chain_congr same, same]
    exact stack.chain

/-- A frame that is made in the current scope goes on top of the others. -/
theorem pushed
    (stack : arena.IsStackOf scope)
    (bindings : OrderedMap DataType) :
    (arena.pushed scope bindings).IsStackOf arena.nextHandle where
  live := isLive_nextHandle arena scope bindings
  chain := by
    rw [chain_nextHandle, frames_pushed, stack.chain]

theorem child_eq (stack : arena.IsStackOf scope) :
    arena.child scope = .ok (arena.nextHandle, arena.pushed scope ∅) :=
  push_eq stack.live ∅

theorem size_eq (stack : arena.IsStackOf scope) : arena.size = arena.depth scope + 1 := by
  rw [← length_chain stack.live, stack.chain, size]

/-- The arena without other frames is made of the outermost scope. -/
theorem of_bare (bare : arena.frames = initial.frames) : arena.IsStackOf root := by
  have initially : initial.IsStackOf root := ⟨rfl, rfl⟩
  exact initially.of_frames_eq bare

end Arena.IsStackOf

namespace Resolver

/-- The work from one resolver to another finds some diagnostics, and all its visits are balanced. -/
structure Continues
    (shadowing : Bool)
    (before after : Resolver)
    (found : List Diagnostic) :
    Prop where
  found : after.found = before.found ++ found
  visits :
    ∃ added,
      after.visits = before.visits ++ added ∧ ∀ visit ∈ added, visit.IsBalanced shadowing
  fallbacks : after.fallbacks = before.fallbacks

/-- The work from one resolver to another hands back the frames and the position. -/
structure Restores
    (shadowing : Bool)
    (before after : Resolver)
    (found : List Diagnostic) :
    Prop extends before.Continues shadowing after found where
  frames : after.arena.frames = before.arena.frames
  position : after.position = before.position

/-- The work from one resolver to another puts frames on top and hands back the position. -/
structure Builds
    (shadowing : Bool)
    (before after : Resolver)
    (found : List Diagnostic) :
    Prop extends before.Continues shadowing after found where
  frames : before.arena.frames <:+ after.arena.frames
  position : after.position = before.position

/-- A walk ends as resolution does, and hands back the frames and the position. -/
def EndsAs
    (shadowing : Bool)
    (before : Resolver)
    (walked : Except Fault Resolver)
    (resolution : Findings) :
    Prop :=
  ∃ after found,
    walked = .ok after ∧
      resolution = .ok (found, after.arena) ∧ before.Restores shadowing after found

variable {shadowing : Bool} {before middle after : Resolver} {found left right : List Diagnostic}

theorem Continues.refl (resolver : Resolver) : resolver.Continues shadowing resolver [] where
  found := (List.append_nil _).symm
  visits := ⟨[], (List.append_nil _).symm, fun _ none => absurd none List.not_mem_nil⟩
  fallbacks := rfl

theorem Continues.trans
    (first : before.Continues shadowing middle left)
    (second : middle.Continues shadowing after right) :
    before.Continues shadowing after (left ++ right) where
  found := by
    rw [second.found, first.found, List.append_assoc]
  visits := by
    rcases first.visits with ⟨earlier, fromBefore, earlierBalanced⟩
    rcases second.visits with ⟨later, fromMiddle, laterBalanced⟩
    refine ⟨earlier ++ later, ?_, ?_⟩
    · rw [fromMiddle, fromBefore, List.append_assoc]
    · intro visit member
      rcases List.mem_append.mp member with here | there
      · exact earlierBalanced visit here
      · exact laterBalanced visit there
  fallbacks := second.fallbacks.trans first.fallbacks

/-- Neither the frames nor the position matter for what is found and recorded. -/
theorem Continues.of_states
    (continues : before.Continues shadowing after found)
    (start finish : ResolverState) :
    Continues shadowing
      { before with toResolverState := start } { after with toResolverState := finish } found where
  found := continues.found
  visits := continues.visits
  fallbacks := continues.fallbacks

/-- A balanced visit may be recorded. -/
theorem Continues.record
    (continues : before.Continues shadowing after found)
    {visit : Visit}
    (balanced : visit.IsBalanced shadowing) :
    before.Continues shadowing (after.record visit) found where
  found := continues.found
  visits := by
    rcases continues.visits with ⟨added, recorded, addedBalanced⟩
    refine ⟨added ++ [visit], ?_, ?_⟩
    · rw [Resolver.record, recorded, List.append_assoc]
    · intro other member
      rcases List.mem_append.mp member with here | there
      · exact addedBalanced other here
      · rw [List.mem_singleton.mp there]
        exact balanced
  fallbacks := continues.fallbacks

theorem Restores.refl (resolver : Resolver) : resolver.Restores shadowing resolver [] where
  toContinues := .refl resolver
  frames := rfl
  position := rfl

theorem Restores.trans
    (first : before.Restores shadowing middle left)
    (second : middle.Restores shadowing after right) :
    before.Restores shadowing after (left ++ right) where
  toContinues := first.toContinues.trans second.toContinues
  frames := second.frames.trans first.frames
  position := second.position.trans first.position

/-- The arena is still made of the same scope if the frames are handed back. -/
theorem Restores.stack
    (restores : before.Restores shadowing after found)
    {scope : Handle}
    (stack : before.arena.IsStackOf scope) :
    after.arena.IsStackOf scope :=
  stack.of_frames_eq restores.frames

theorem Builds.refl (resolver : Resolver) : resolver.Builds shadowing resolver [] where
  toContinues := .refl resolver
  frames := List.suffix_refl _
  position := rfl

theorem Builds.trans
    (first : before.Builds shadowing middle left)
    (second : middle.Builds shadowing after right) :
    before.Builds shadowing after (left ++ right) where
  toContinues := first.toContinues.trans second.toContinues
  frames := first.frames.trans second.frames
  position := second.position.trans first.position

/-- Handing back the frames is putting none on top of them. -/
theorem Restores.builds (restores : before.Restores shadowing after found) :
    before.Builds shadowing after found where
  toContinues := restores.toContinues
  frames := restores.frames ▸ List.suffix_refl _
  position := restores.position

end Resolver

/-! ## Parts of the walk -/

variable {shadowing : Bool} {resolver : Resolver} {scope : Handle}

namespace Walk

/-- A walk that is recorded ends as before, if it starts with the frames of its scope. -/
theorem visiting_endsAs
    {walk : Walk}
    {subject : Subject}
    (stack : resolver.arena.IsStackOf scope)
    (bare :
      ∀ definition,
        subject = .function definition → resolver.arena.frames = Arena.initial.frames)
    (ends :
      resolver.EndsAs shadowing (walk resolver) (resolver.resolve shadowing subject scope)) :
    resolver.EndsAs shadowing (visiting subject scope walk resolver)
      (resolver.resolve shadowing subject scope) := by
  rcases ends with ⟨after, found, walked, resolved, restores⟩
  have balanced :
      Visit.IsBalanced shadowing
        ⟨subject, scope, resolver.toResolverState, after.toResolverState⟩ := {
    stack := stack
    size := stack.size_eq
    frames := restores.frames
    position := restores.position
    resolved := ⟨found, resolved⟩
    outermost := fun definition same => restores.frames.trans (bare definition same) }
  refine ⟨after.record _, found, ?_, resolved, restores.record balanced, ?_, ?_⟩
  · rw [visiting, walked]
    rfl
  · exact restores.frames
  · exact restores.position

/-- Finding something changes nothing else. -/
theorem finding_restores
    (shadowing : Bool)
    (resolver : Resolver)
    (diagnostics : ResolverState → List Diagnostic) :
    ∃ after,
      finding diagnostics resolver = .ok after ∧
        after.toResolverState = resolver.toResolverState ∧
          resolver.Restores shadowing after (diagnostics resolver.toResolverState) := by
  refine ⟨_, rfl, rfl, ⟨rfl, ?_, rfl⟩, rfl, rfl⟩
  exact (Resolver.Continues.refl resolver).visits

/-- A walk in a new scope hands back the frames if it only puts others on top of them. -/
theorem inside_endsAs
    {opening : Arena → Except Fault (Handle × Arena)}
    {walk : Handle → Walk}
    {bindings : OrderedMap DataType}
    {resolution : Findings}
    (made :
      opening resolver.arena =
        .ok (resolver.arena.nextHandle, resolver.arena.pushed scope bindings))
    (walked :
      ∃ after found,
        walk resolver.arena.nextHandle (resolver.opened scope bindings) = .ok after ∧
          resolution = .ok (found, after.arena.rewind resolver.arena.mark) ∧
          (resolver.opened scope bindings).Builds shadowing after found) :
    resolver.EndsAs shadowing (inside opening walk resolver) resolution := by
  rcases walked with ⟨after, found, walked, resolved, builds⟩
  have below : resolver.arena.frames <:+ after.arena.frames :=
    (List.suffix_cons _ _).trans builds.frames
  rw [Resolver.opened] at walked
  refine
    ⟨{ after with arena := after.arena.rewind resolver.arena.mark }, found, ?_, resolved,
      builds.of_states _ _, Arena.frames_rewind_mark below, builds.position⟩
  simp only [inside, made, ok_bind, walked, pure_eq_ok]

/-- Looking for variables is a visit that finds those that are not visible, and keeps the arena. -/
theorem unresolved_restores
    {subject : Subject}
    {line : Nat}
    {names : List String}
    (stack : resolver.arena.IsStackOf scope)
    (bare :
      ∀ definition,
        subject = .function definition → resolver.arena.frames = Arena.initial.frames)
    (resolved :
      resolver.resolve shadowing subject scope =
        .ok (resolver.arena.unresolved resolver.position scope line names, resolver.arena)) :
    ∃ after,
      visiting subject scope
            (finding fun state => state.arena.unresolved state.position scope line names)
            resolver =
          .ok after ∧
        after.arena = resolver.arena ∧
          resolver.Restores shadowing after
            (resolver.arena.unresolved resolver.position scope line names) := by
  have ends :
      resolver.EndsAs shadowing
        (finding (fun state => state.arena.unresolved state.position scope line names) resolver)
        (resolver.resolve shadowing subject scope) := by
    rcases
        finding_restores shadowing resolver fun state =>
          state.arena.unresolved state.position scope line names with
      ⟨after, walked, same, restores⟩
    refine ⟨after, _, walked, ?_, restores⟩
    rw [resolved, same]
  rcases visiting_endsAs stack bare ends with ⟨after, found, walked, answer, restores⟩
  rw [resolved, Except.ok.injEq, Prod.mk.injEq] at answer
  rcases answer with ⟨rfl, same⟩
  exact ⟨after, walked, same.symm, restores⟩

end Walk

theorem Expression.visit_restores
    (shadowing : Bool)
    (line : Nat)
    (expression : Expression)
    (stack : resolver.arena.IsStackOf scope) :
    ∃ after,
      expression.visit line scope resolver = .ok after ∧
        after.arena = resolver.arena ∧
          resolver.Restores shadowing after
            (resolver.arena.unresolved resolver.position scope line expression.variableNames) :=
  Walk.unresolved_restores stack nofun rfl

theorem Place.visit_restores
    (shadowing : Bool)
    (line : Nat)
    (place : Place)
    (stack : resolver.arena.IsStackOf scope) :
    ∃ after,
      place.visit line scope resolver = .ok after ∧
        after.arena = resolver.arena ∧
          resolver.Restores shadowing after
            (resolver.arena.unresolved resolver.position scope line place.variableNames) :=
  Walk.unresolved_restores stack nofun rfl

theorem Expression.visitOption_restores
    (shadowing : Bool)
    (line : Nat)
    (expression : Option Expression)
    (stack : resolver.arena.IsStackOf scope) :
    ∃ after,
      Expression.visitOption line expression scope resolver = .ok after ∧
        after.arena = resolver.arena ∧
          resolver.Restores shadowing after
            (resolver.arena.unresolved resolver.position scope line
              (variableNamesOfOption expression)) := by
  cases expression with
  | none => exact ⟨resolver, rfl, rfl, .refl resolver⟩
  | some expression => exact expression.visit_restores shadowing line stack

/-- The scope after a statement is one that the arena is made of, and no declaration fails to give it. -/
theorem Statement.goPast_builds
    (shadowing : Bool)
    (statement : Statement)
    (stack : resolver.arena.IsStackOf scope) :
    ∃ next after,
      statement.goPast scope resolver = .ok (next, after) ∧
        statement.scopeAfterVisit scope resolver.arena = .ok (next, after.arena) ∧
        after.arena.IsStackOf next ∧
        resolver.Builds shadowing after [] := by
  cases statement with
  | declare line binding initial =>
      have made :
          (Statement.declare line binding initial).scopeAfter scope resolver.arena =
            .ok
              (.ok resolver.arena.nextHandle,
                resolver.arena.pushed scope (.ofList [binding.toPair])) :=
        Statement.scopeAfter_eq _ stack.live
      refine
        ⟨_, resolver.opened scope (.ofList [binding.toPair]), ?_, ?_, stack.pushed _,
          (Resolver.Continues.refl resolver).of_states _ _, List.suffix_cons _ _, rfl⟩
      · simp [Statement.goPast, Statement.asDeclaration?, made, Resolver.opened]
      · simp [Statement.scopeAfterVisit, Statement.asDeclaration?, made, Resolver.opened]
  | _ => exact ⟨scope, resolver, rfl, rfl, stack, .refl resolver⟩

/-! ## The whole walk -/

mutual

/--
A visit of a statement ends as its resolution, and hands back the frames and the position. The line of a
statement that is a block plays no part in this, so inside of it is the visit of the block.
-/
theorem Statement.visit_endsAs
    (shadowing : Bool)
    (statement : Statement)
    (resolver : Resolver)
    {scope : Handle}
    (stack : resolver.arena.IsStackOf scope) :
    resolver.EndsAs shadowing (statement.visit shadowing scope resolver)
      (statement.resolve shadowing resolver.position scope resolver.arena) := by
  rw [Statement.visit]
  refine Walk.visiting_endsAs stack (fun _ other => nomatch other) ?_
  match statement with
  | .block line body =>
      show
        resolver.EndsAs shadowing (Walk.visiting _ _ _ resolver)
          (resolver.resolve shadowing (.block body) scope)
      refine Walk.visiting_endsAs stack (fun _ other => nomatch other) ?_
      refine Walk.inside_endsAs stack.child_eq ?_
      rcases
          Block.visitInside_builds shadowing body (resolver.opened scope ∅) (stack.pushed ∅) with
        ⟨after, found, visited, resolved, builds⟩
      rw [Resolver.arena_opened] at resolved
      refine ⟨after, found, visited, ?_, builds⟩
      simp [ResolverState.resolve, Statement.resolve, stack.child_eq, resolved]
  | .declare line binding initial =>
      rcases Expression.visitOption_restores shadowing line initial stack with
        ⟨initialized, inInitial, still, initialRestores⟩
      rcases
          Walk.finding_restores shadowing initialized fun state =>
            state.arena.shadowed shadowing state.position scope line binding.name with
        ⟨after, warned, same, warningRestores⟩
      refine ⟨after, _, ?_, ?_, initialRestores.trans warningRestores⟩
      · simp [inInitial, warned]
      · simp [ResolverState.resolve, Statement.resolve, same, still, initialRestores.position]
  | .assign line place value =>
      rcases place.visit_restores shadowing line stack with
        ⟨placed, inPlace, still, placeRestores⟩
      have stackPlaced := placeRestores.stack stack
      rcases value.visit_restores shadowing line stackPlaced with
        ⟨after, inValue, same, valueRestores⟩
      refine ⟨after, _, ?_, ?_, placeRestores.trans valueRestores⟩
      · simp [inPlace, inValue]
      · simp [ResolverState.resolve, Statement.resolve, same, still, placeRestores.position]
  | .evaluate line expression =>
      rcases expression.visit_restores shadowing line stack with ⟨after, visited, same, restores⟩
      refine ⟨after, _, visited, ?_, restores⟩
      simp [ResolverState.resolve, Statement.resolve, same]
  | .branch line condition consequent alternative =>
      rcases condition.visit_restores shadowing line stack with
        ⟨tested, inCondition, still, conditionRestores⟩
      have stackTested := conditionRestores.stack stack
      rcases Statement.visit_endsAs shadowing consequent tested stackTested with
        ⟨chosen, _, inConsequent, consequentResolved, consequentRestores⟩
      have stackChosen := consequentRestores.stack stackTested
      rcases Statement.visitOption_endsAs shadowing alternative chosen stackChosen with
        ⟨after, _, inAlternative, alternativeResolved, alternativeRestores⟩
      rw [consequentRestores.position, conditionRestores.position] at alternativeResolved
      rw [conditionRestores.position, still] at consequentResolved
      refine
        ⟨after, _, ?_, ?_, conditionRestores.trans (consequentRestores.trans alternativeRestores)⟩
      · simp [inCondition, inConsequent, inAlternative]
      · simp [ResolverState.resolve, Statement.resolve, consequentResolved, alternativeResolved]
  | .whileLoop line condition body =>
      rcases condition.visit_restores shadowing line stack with
        ⟨tested, inCondition, still, conditionRestores⟩
      have stackTested := conditionRestores.stack stack
      rcases Statement.visitOption_endsAs shadowing body tested stackTested with
        ⟨after, _, inBody, bodyResolved, bodyRestores⟩
      rw [conditionRestores.position, still] at bodyResolved
      refine ⟨after, _, ?_, ?_, conditionRestores.trans bodyRestores⟩
      · simp [inCondition, inBody]
      · simp [ResolverState.resolve, Statement.resolve, bodyResolved]
  | .doWhile line body condition =>
      rcases Statement.visitOption_endsAs shadowing body resolver stack with
        ⟨turned, _, inBody, bodyResolved, bodyRestores⟩
      have stackTurned := bodyRestores.stack stack
      rcases condition.visit_restores shadowing line stackTurned with
        ⟨after, inCondition, same, conditionRestores⟩
      refine ⟨after, _, ?_, ?_, bodyRestores.trans conditionRestores⟩
      · simp [inBody, inCondition]
      · simp [ResolverState.resolve, Statement.resolve, bodyResolved, same, bodyRestores.position]
  | .forLoop line initial condition update body =>
      cases header : checkHeader line initial condition update with
      | error error =>
          rcases
              Walk.finding_restores shadowing resolver fun state =>
                [error.report state.position] with
            ⟨after, reported, same, restores⟩
          refine ⟨after, _, ?_, ?_, restores⟩
          · simp [header, reported]
          · simp [ResolverState.resolve, Statement.resolve, header, same]
      | ok _ =>
          simp only [header]
          refine Walk.inside_endsAs stack.child_eq ?_
          rcases
              Statement.visitInitial_builds shadowing initial (resolver.opened scope ∅)
                (stack.pushed ∅) with
            ⟨next, started, _, inInitial, initialResolved, stackStarted, builds⟩
          rcases Expression.visitOption_restores shadowing line condition stackStarted with
            ⟨tested, inCondition, still, conditionRestores⟩
          have stackTested := conditionRestores.stack stackStarted
          rcases Statement.visitOption_endsAs shadowing update tested stackTested with
            ⟨updated, _, inUpdate, updateResolved, updateRestores⟩
          have stackUpdated := updateRestores.stack stackTested
          rcases Statement.visitOption_endsAs shadowing body updated stackUpdated with
            ⟨after, _, inBody, bodyResolved, bodyRestores⟩
          have position := builds.position
          rw [Resolver.position_opened] at position
          rw [Resolver.arena_opened, Resolver.position_opened] at initialResolved
          rw [updateRestores.position, conditionRestores.position, position] at bodyResolved
          rw [conditionRestores.position, position, still] at updateResolved
          have rest := conditionRestores.trans (updateRestores.trans bodyRestores)
          refine ⟨after, _, ?_, ?_, builds.trans rest.builds⟩
          · simp [inInitial, inCondition, inUpdate, inBody]
          · simp [ResolverState.resolve, Statement.resolve, header, stack.child_eq, initialResolved,
              updateResolved, bodyResolved, position]
  | .returnWith line value =>
      rcases Expression.visitOption_restores shadowing line value stack with
        ⟨after, visited, same, restores⟩
      refine ⟨after, _, visited, ?_, restores⟩
      simp [ResolverState.resolve, Statement.resolve, same]
  | .assertion line condition =>
      rcases condition.visit_restores shadowing line stack with ⟨after, visited, same, restores⟩
      refine ⟨after, _, visited, ?_, restores⟩
      simp [ResolverState.resolve, Statement.resolve, same]
  | .breakLoop line => exact ⟨resolver, [], rfl, rfl, .refl resolver⟩
  | .continueLoop line => exact ⟨resolver, [], rfl, rfl, .refl resolver⟩
  | .empty line => exact ⟨resolver, [], rfl, rfl, .refl resolver⟩

/-- A visit of the statements of a block leaves frames for its declarations on top of the others. -/
theorem Block.visitInside_builds
    (shadowing : Bool)
    (block : Block)
    (resolver : Resolver)
    {scope : Handle}
    (stack : resolver.arena.IsStackOf scope) :
    ∃ after found,
      block.visitInside shadowing scope resolver = .ok after ∧
        block.resolveInside shadowing scope resolver.arena = .ok (found, after.arena) ∧
        resolver.Builds shadowing after found := by
  match block with
  | .mk line statements =>
      rcases Statement.visitList_continues shadowing line 0 statements resolver stack with
        ⟨after, found, visited, resolved, kept, continues⟩
      refine
        ⟨{ after with position := resolver.position }, found, ?_, resolved,
          continues.of_states _ _, kept, rfl⟩
      simp [Block.visitInside, visited]

theorem Statement.visitOption_endsAs
    (shadowing : Bool)
    (statement : Option Statement)
    (resolver : Resolver)
    {scope : Handle}
    (stack : resolver.arena.IsStackOf scope) :
    resolver.EndsAs shadowing (Statement.visitOption shadowing statement scope resolver)
      (Statement.resolveOption shadowing resolver.position statement scope resolver.arena) := by
  match statement with
  | none => exact ⟨resolver, [], rfl, rfl, .refl resolver⟩
  | some statement =>
      exact Statement.visit_endsAs shadowing statement resolver stack

/-- The rest of a loop is walked in the scope that its initializer leaves. -/
theorem Statement.visitInitial_builds
    (shadowing : Bool)
    (statement : Option Statement)
    (resolver : Resolver)
    {scope : Handle}
    (stack : resolver.arena.IsStackOf scope) :
    ∃ next after found,
      Statement.visitInitial shadowing statement scope resolver = .ok (next, after) ∧
        Statement.resolveInitial shadowing resolver.position statement scope resolver.arena =
          .ok (found, next, after.arena) ∧
        after.arena.IsStackOf next ∧
        resolver.Builds shadowing after found := by
  match statement with
  | none => exact ⟨scope, resolver, [], rfl, rfl, stack, .refl resolver⟩
  | some statement =>
      rcases Statement.visit_endsAs shadowing statement resolver stack with
        ⟨middle, found, visited, resolved, restores⟩
      have stackMiddle := restores.stack stack
      rcases statement.goPast_builds shadowing stackMiddle with
        ⟨next, after, gone, stepped, stackNext, builds⟩
      refine ⟨next, after, found ++ [], ?_, ?_, stackNext, restores.builds.trans builds⟩
      · simp [Statement.visitInitial, visited, gone]
      · simp [Statement.resolveInitial, resolved, stepped]

/-- Each statement of a block is visited at its position, and the last position stays. -/
theorem Statement.visitList_continues
    (shadowing : Bool)
    (blockLine index : Nat)
    (statements : List Statement)
    (resolver : Resolver)
    {scope : Handle}
    (stack : resolver.arena.IsStackOf scope) :
    ∃ after found,
      Statement.visitList shadowing blockLine index statements scope resolver = .ok after ∧
        Statement.resolveList shadowing blockLine index statements scope resolver.arena =
          .ok (found, after.arena) ∧
        resolver.arena.frames <:+ after.arena.frames ∧
        resolver.Continues shadowing after found := by
  match statements with
  | [] => exact ⟨resolver, [], rfl, rfl, List.suffix_refl _, .refl resolver⟩
  | first :: rest =>
      rcases
          Statement.visit_endsAs shadowing first
            { resolver with position := some ⟨index, blockLine⟩ } stack with
        ⟨visited, inFirst, visiting, firstResolved, restores⟩
      have stackVisited := restores.stack stack
      rcases first.goPast_builds shadowing stackVisited with
        ⟨next, gone, going, stepped, stackNext, builds⟩
      rcases Statement.visitList_continues shadowing blockLine (index + 1) rest gone stackNext with
        ⟨after, inRest, visitingRest, restResolved, kept, continues⟩
      have first := restores.builds.trans builds
      refine ⟨after, inFirst ++ [] ++ inRest, ?_, ?_, first.frames.trans kept, ?_⟩
      · simp [Statement.visitList, visiting, going, visitingRest]
      · simp [Statement.resolveList, firstResolved, stepped, restResolved]
      · exact (first.of_states _ _).trans continues

end

/-- A visit of a function starts and ends with nothing but the outermost frame. -/
theorem FunctionDefinition.visit_endsAs
    (shadowing : Bool)
    (definition : FunctionDefinition)
    {resolver : Resolver}
    (bare : resolver.arena.frames = Arena.initial.frames) :
    resolver.EndsAs shadowing (definition.visit shadowing resolver)
      (definition.resolve shadowing resolver.arena) := by
  have stack := Arena.IsStackOf.of_bare bare
  have made := definition.parameterScope_eq stack.live
  rw [FunctionDefinition.visit]
  refine Walk.visiting_endsAs stack (fun _ _ => bare) ?_
  refine Walk.inside_endsAs made ?_
  rcases
      Block.visitInside_builds shadowing definition.body
        (resolver.opened Arena.root (Layer.bindings definition.parameters)) (stack.pushed _) with
    ⟨after, found, visited, resolved, builds⟩
  rw [Resolver.arena_opened] at resolved
  refine ⟨after, found, visited, ?_, builds⟩
  simp [ResolverState.resolve, FunctionDefinition.resolve, made, resolved]

theorem FunctionDefinition.visitList_endsAs
    (shadowing : Bool)
    (definitions : List FunctionDefinition)
    {resolver : Resolver}
    (bare : resolver.arena.frames = Arena.initial.frames) :
    resolver.EndsAs shadowing (FunctionDefinition.visitList shadowing definitions resolver)
      (FunctionDefinition.resolveList shadowing definitions resolver.arena) := by
  induction definitions generalizing resolver with
  | nil => exact ⟨resolver, [], rfl, rfl, .refl resolver⟩
  | cons first rest hypothesis =>
      rcases first.visit_endsAs shadowing bare with
        ⟨middle, _, visited, firstResolved, firstRestores⟩
      rcases hypothesis (firstRestores.frames.trans bare) with
        ⟨after, _, visitedRest, restResolved, restRestores⟩
      refine ⟨after, _, ?_, ?_, firstRestores.trans restRestores⟩
      · simp [FunctionDefinition.visitList, visited, visitedRest]
      · simp [FunctionDefinition.resolveList, firstResolved, restResolved]

/--
The walk through a program meets no fault and finds what resolution finds. It visits the functions and all
that they are made of, except inside of malformed loops, and all of its visits are balanced. No declaration
fails to give a scope, and the outermost frame and no position is left at the end.
-/
theorem Program.visits_balanced
    (program : Program)
    (shadowing : Bool) :
    ∃ after,
      program.visit shadowing = .ok after ∧
        program.resolve shadowing = .ok after.found ∧
        after.arena.frames = Arena.initial.frames ∧
        after.position = none ∧
        after.fallbacks = 0 ∧
        after.subjects = program.subjects ∧
        ∀ visit ∈ after.visits, visit.IsBalanced shadowing := by
  have bare : Resolver.initial.arena.frames = Arena.initial.frames := rfl
  rcases FunctionDefinition.visitList_endsAs shadowing program.functions bare with
    ⟨after, found, visited, resolved, restores⟩
  rcases restores.visits with ⟨added, recorded, balanced⟩
  refine
    ⟨after, visited, ?_, restores.frames, restores.position, restores.fallbacks,
      Program.subjects_visit visited, ?_⟩
  · have resolvedInitially :
        FunctionDefinition.resolveList shadowing program.functions .initial =
          .ok (found, after.arena) := resolved
    rw [Program.resolve, resolvedInitially, restores.found]
    rfl
  · intro visit member
    rw [recorded] at member
    exact balanced visit member

/-- A statement in a block sees its own frame, that of the parameters and the outermost one. -/
example :
    let program := Samples.single "main" [] .void [Samples.blockAt 2 2 [.returnWith 3 none]]
    (program.visit false).map
        (fun after => after.visits.map fun visit => visit.before.arena.size) =
      .ok [3, 2, 2, 1] := by
  cbv

end SynthesisHoles
