import SynthesisHoles.Proofs.Scope.Nesting
import SynthesisHoles.Samples

/-!
# What is left behind by making scopes

Making the scopes of a tree only puts frames on top of the others, in a row in which each frame lies in
the one before it. A statement is checked as a whole before a frame is made for it, but a block makes its
frames statement by statement: when it meets a statement that is not valid, the frames of those before it
are there already, and they stay.

The main statement says, for statements, blocks and functions, which scope or error is answered and which
frames were added, also where no scope is answered.
-/

namespace SynthesisHoles

/-! ## Arenas that have grown -/

namespace Arena

/-- Afterwards an arena has one row of frames more, which stands inside of a scope. -/
structure GrowsBy (arena : Arena) (scope : Handle) (layers : List Layer) (after : Arena) : Prop where
  /-- The frames from before are below the new ones, as they were. -/
  frames : after.frames = (arena.frameRow scope layers).reverse ++ arena.frames
  /-- There is one new frame for each layer. -/
  size : after.size = arena.size + layers.length
  generation : after.generation = arena.generation
  /-- The way outwards from the last new frame goes through all of them, and then on from the scope. -/
  chain :
    after.chain (arena.scopeInRow scope layers.length) =
      (arena.frameRow scope layers).reverse ++ arena.chain scope
  /-- The handles from before name the frames that they named. -/
  kept :
    ∀ handle,
      arena.isLive handle = true →
        after.frame? handle = arena.frame? handle ∧ after.chain handle = arena.chain handle

theorem growsBy_grown
    (arena : Arena)
    (scope : Handle)
    (layers : List Layer) :
    arena.GrowsBy scope layers (arena.grown scope layers) := by
  have made : (arena.nest scope layers).2 = arena.grown scope layers := by
    rw [nest_eq]
  have innermost := arena.chain_innermost scope layers
  rw [nest_eq] at innermost
  refine ⟨rfl, ?_, rfl, innermost, ?_⟩
  · simp [Arena.size, grown, frameRow, Nat.add_comm]
  · intro handle live
    rw [← made]
    exact ⟨frame?_nest live scope layers, chain_nest live scope layers⟩

end Arena

/-! ## Effects -/

/--
What the construction of scopes does inside of one scope of an arena: what is answered, and which frames
are there afterwards.
-/
structure Arena.BuildsIn (arena : Arena) (scope : Handle) : Prop where
  /-- A statement that is not valid is refused with its error, and nothing is made. -/
  refused :
    ∀ (statement : Statement) (error : ProgramError),
      statement.validate = .error error →
        statement.scopeAfter scope arena = .ok (.error error, arena)
  /-- A declaration makes one frame, which is answered. -/
  declared :
    ∀ (statement : Statement) (binding : Binding),
      statement.declared? = some binding →
        ∃ after,
          statement.scopeAfter scope arena = .ok (.ok arena.nextHandle, after) ∧
            arena.GrowsBy scope [[binding]] after
  /-- Any other valid statement makes nothing, and the scope itself is answered. -/
  passed :
    ∀ statement : Statement,
      statement.validate = .ok () →
        statement.declared? = none →
          statement.scopeAfter scope arena = .ok (.ok scope, arena)
  /-- To go past a block makes nothing, whether the block is valid or not. -/
  afterBlock :
    ∀ block : Block,
      block.scopeAfter scope arena = .ok (block.validate.map fun _ => scope, arena)
  /-- All of a valid block is its valid part. -/
  wholeBlock : ∀ block : Block, block.validate = .ok () → block.validPart = block.statements
  /--
  To go into a block makes a frame, and one more for each declaration in its valid part. If the block
  is not valid then these frames stay, and the error of the block is answered.
  -/
  insideBlock :
    ∀ block : Block,
      ∃ after,
        block.innerScope scope arena =
            .ok
              (block.validate.map fun _ =>
                  arena.scopeInRow scope (1 + (declaredIn block.validPart).length),
                after) ∧
          arena.GrowsBy scope
            ([] :: (declaredIn block.validPart).map fun binding => [binding]) after
  /-- To go into a function makes one frame for the parameters, and in it the frames of the body. -/
  insideFunction :
    ∀ definition : FunctionDefinition,
      ∃ after,
        definition.innerScope scope arena =
            .ok
              (definition.body.validate.map fun _ =>
                  arena.scopeInRow scope (2 + (declaredIn definition.body.validPart).length),
                after) ∧
          arena.GrowsBy scope
            (definition.parameters :: [] ::
              (declaredIn definition.body.validPart).map fun binding => [binding])
            after

/-- A declaration is valid and has one layer. -/
theorem Statement.scopeAfter_of_declared
    {statement : Statement}
    {binding : Binding}
    (declared : statement.declared? = some binding)
    {arena : Arena}
    {scope : Handle}
    (live : arena.isLive scope = true) :
    statement.scopeAfter scope arena = .ok (.ok arena.nextHandle, arena.grown scope [[binding]]) := by
  have layers : statement.layers = [[binding]] := by
    rw [Statement.layers, declared]
    rfl
  have valid : statement.validate = .ok () := by
    cases statement with
    | declare line own initial => rfl
    | _ => cases declared
  rw [statement.scopeAfter_eq live, valid, layers, Arena.nest_eq]
  rfl

/--
The construction of scopes inside of a live scope puts frames on top in a row, and no more. It fails
exactly if the tree is not valid, with the error of the tree, and then the frames for what comes before
the first invalid statement of a block stay.
-/
theorem Arena.buildsIn_of_live
    {arena : Arena}
    {scope : Handle}
    (live : arena.isLive scope = true) :
    arena.BuildsIn scope where
  refused := by
    intro statement error invalid
    rw [statement.scopeAfter_eq live, invalid, Statement.layers_of_invalid invalid]
    rfl
  declared := by
    intro statement binding declared
    exact ⟨_, Statement.scopeAfter_of_declared declared live, arena.growsBy_grown scope _⟩
  passed := by
    intro statement valid other
    rw [statement.scopeAfter_eq live, valid, Statement.layers, other]
    rfl
  afterBlock block := block.scopeAfter_eq
  wholeBlock _ valid := Block.validPart_of_valid valid
  insideBlock := by
    intro block
    have made := block.innerScope_eq live
    rw [nest_eq, block.layers_eq, List.length_cons, List.length_map, Nat.add_comm] at made
    exact ⟨_, made, arena.growsBy_grown scope _⟩
  insideFunction := by
    intro definition
    have made := definition.innerScope_eq live
    rw [nest_eq, FunctionDefinition.layers, definition.body.layers_eq, List.length_cons,
      List.length_cons, List.length_map, Nat.add_assoc, Nat.add_comm] at made
    exact ⟨_, made, arena.growsBy_grown scope _⟩

namespace Samples

/-- Between two declarations stands a loop whose body is a loop without a condition. -/
def brokenInside : FunctionDefinition where
  name := "broken"
  parameters := [⟨"n", .int⟩]
  body :=
    .mk 1
      [ declare 2 .int "x" (.var "n"),
        .whileLoop 6 (.var "x") (some (.forLoop 7 none none none none)),
        declare 8 .int "y" (.var "x") ]

/-- The frames of the parameter, the body and the first declaration stay, and there is no fourth one. -/
theorem brokenInside_buildsIn :
    Arena.initial.isLive Arena.root = true ∧
      ∃ after,
        brokenInside.innerScope Arena.root Arena.initial =
            .ok (.error (.malformedTree "for-loop" "missing condition" 7), after) ∧
          after.size = 4 ∧ after.depth ⟨3, 0⟩ = 3 ∧ after.get? ⟨3, 0⟩ "x" = some .int := by
  have live : Arena.initial.isLive Arena.root = true := rfl
  rcases (Arena.buildsIn_of_live live).insideFunction brokenInside with ⟨after, made, grown⟩
  refine ⟨live, after, made, grown.size, ?_, ?_⟩
  · rw [Arena.depth]
    exact congrArg (List.length · - 1) grown.chain
  · exact congrArg (List.findSome? fun frame => frame.bindings.get? "x") grown.chain

end Samples

end SynthesisHoles
