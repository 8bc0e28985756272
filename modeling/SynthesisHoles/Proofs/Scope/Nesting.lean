import SynthesisHoles.Proofs.Scope.Lookup
import SynthesisHoles.Proofs.Tree.Declarations
import SynthesisHoles.Scope.Construction

/-!
# Scopes made one inside the other

All that a tree does to an arena is to make some scopes, each inside the one before it. The bindings of
their frames are the layers of the tree: a declaration has one layer, the inner scope of a block has an
empty layer and one for each declaration in it, and that of a function has a layer for the parameters
in front of these. Statements from the first invalid one on contribute no layers.
-/

namespace SynthesisHoles

/-! ## Layers -/

/-- Bindings from which a frame is made; the last one of a name counts. -/
abbrev Layer := List Binding

/-- Variables that a frame made from the layer binds. -/
def Layer.bindings (layer : Layer) : OrderedMap DataType :=
  .ofList (layer.map Binding.toPair)

/-- Type of a variable in the layer. -/
def Layer.type? (layer : Layer) (name : String) : Option DataType :=
  (layer.reverse.find? fun binding => binding.name = name).map Binding.type

/-- A frame made from a layer binds the variables of the layer. -/
theorem Layer.get?_bindings
    (layer : Layer)
    (name : String) :
    layer.bindings.get? name = layer.type? name := by
  rw [bindings, OrderedMap.get?_ofList, find?_map_toPair, type?]

/-- What is bound later hides what is bound earlier. -/
theorem Layer.type?_append
    (left right : Layer)
    (name : String) :
    Layer.type? (left ++ right) name = (right.type? name).or (left.type? name) := by
  rw [type?, type?, type?, List.reverse_append, List.find?_append, Option.map_or]

/-- Layers of the scope after a statement, on top of the scope before it. -/
def Statement.layers (statement : Statement) : List Layer :=
  statement.declared?.toList.map fun binding => [binding]

/-- Layers of the scope after several statements, as far as they are valid. -/
def Statement.layersOfList : List Statement → List Layer
  | [] => []
  | first :: rest =>
      match first.validate with
      | .ok () => first.layers ++ Statement.layersOfList rest
      | .error _ => []

/-- Layers of the scope at the end of a block. -/
def Block.layers (block : Block) : List Layer :=
  [] :: Statement.layersOfList block.statements

/-- Layers of the scope at the end of the body of a function. -/
def FunctionDefinition.layers (definition : FunctionDefinition) : List Layer :=
  definition.parameters :: definition.body.layers

/-! ## Statements before the first invalid one -/

/-- Statements of the block before the first one that is not valid. -/
def Block.validPart (block : Block) : List Statement :=
  block.statements.takeWhile fun statement => statement.validate.isOk

/-- A valid block has no part beyond its valid part. -/
theorem Block.validPart_of_valid
    {block : Block}
    (valid : block.validate = .ok ()) :
    block.validPart = block.statements := by
  rcases block with ⟨line, statements⟩
  rw [validate] at valid
  rw [validPart, Block.statements]
  induction statements with
  | nil => rfl
  | cons first rest hypothesis =>
      rw [Statement.validateList, bind_eq_ok_iff] at valid
      rcases valid with ⟨_, firstValid, restValid⟩
      rw [List.takeWhile_cons_of_pos (by rw [firstValid]; rfl), hypothesis restValid]

/-- A block has a layer of its own, and one for each declaration that stands in its valid part. -/
theorem Block.layers_eq (block : Block) :
    block.layers = [] :: (declaredIn block.validPart).map fun binding => [binding] := by
  rcases block with ⟨line, statements⟩
  rw [layers, validPart, Block.statements]
  congr 1
  induction statements with
  | nil => rfl
  | cons first rest hypothesis =>
      rw [Statement.layersOfList, List.takeWhile_cons]
      cases verdict : first.validate with
      | error error => rfl
      | ok _ =>
          simp only [Except.isOk, Except.toBool, if_true, hypothesis, Statement.layers, declaredIn,
            List.filterMap_cons]
          cases first.declared? <;> rfl

/-! ## Making several scopes -/

namespace Arena

/-- Makes a scope for each layer, one inside the other. -/
def nest : Arena → Handle → List Layer → Handle × Arena
  | arena, scope, [] => (scope, arena)
  | arena, scope, layer :: inner =>
      (arena.pushed scope layer.bindings).nest arena.nextHandle inner

theorem nest_append
    (arena : Arena)
    (scope : Handle)
    (left right : List Layer) :
    arena.nest scope (left ++ right) =
      (arena.nest scope left).2.nest (arena.nest scope left).1 right := by
  induction left generalizing arena scope with
  | nil => rfl
  | cons layer inner hypothesis => exact hypothesis _ _

/-- The innermost scope is live. -/
theorem isLive_nest
    {arena : Arena}
    {scope : Handle}
    (live : arena.isLive scope = true)
    (layers : List Layer) :
    (arena.nest scope layers).2.isLive (arena.nest scope layers).1 = true := by
  induction layers generalizing arena scope with
  | nil => exact live
  | cons layer inner hypothesis => exact hypothesis (isLive_nextHandle arena scope _)

/-- A live scope keeps its frames when others are made. -/
theorem chain_nest
    {arena : Arena}
    {handle : Handle}
    (live : arena.isLive handle = true)
    (scope : Handle)
    (layers : List Layer) :
    (arena.nest scope layers).2.chain handle = arena.chain handle := by
  induction layers generalizing arena scope with
  | nil => rfl
  | cons layer inner hypothesis =>
      rw [nest, hypothesis (isLive_pushed live scope _), chain_pushed live]

/-- A live scope keeps its own frame when others are made. -/
theorem frame?_nest
    {arena : Arena}
    {handle : Handle}
    (live : arena.isLive handle = true)
    (scope : Handle)
    (layers : List Layer) :
    (arena.nest scope layers).2.frame? handle = arena.frame? handle := by
  induction layers generalizing arena scope with
  | nil => rfl
  | cons layer inner hypothesis =>
      have old : handle ≠ arena.nextHandle := by
        rintro rfl
        exact Nat.lt_irrefl _ (slot_lt_size live)
      rw [nest, hypothesis (isLive_pushed live scope _), frame?_pushed, if_neg old]

/-- Scope that the next frame of a row lies in: the one around the row, or the frame made last. -/
def scopeInRow (arena : Arena) (scope : Handle) : Nat → Handle
  | 0 => scope
  | made + 1 => ⟨arena.size + made, arena.generation⟩

/-- Frames of the layers, the outermost first, each inside of the one before it. -/
def frameRow (arena : Arena) (scope : Handle) (layers : List Layer) : List Frame :=
  layers.mapIdx fun made layer =>
    ⟨arena.generation, some (arena.scopeInRow scope made), layer.bindings⟩

/-- The arena with the frames of the layers on top of its own. -/
def grown (arena : Arena) (scope : Handle) (layers : List Layer) : Arena :=
  { arena with frames := (arena.frameRow scope layers).reverse ++ arena.frames }

/-- The rest of a row is a row around which the first frame stands. -/
theorem scopeInRow_pushed
    (arena : Arena)
    (scope : Handle)
    (bindings : OrderedMap DataType)
    (made : Nat) :
    (arena.pushed scope bindings).scopeInRow arena.nextHandle made =
      arena.scopeInRow scope (made + 1) := by
  cases made with
  | zero => rfl
  | succ made =>
      have slots : arena.frames.length + 1 + made = arena.frames.length + (made + 1) := by
        omega
      simp only [scopeInRow, size, frames_pushed, List.length_cons, slots]
      rfl

theorem frameRow_cons
    (arena : Arena)
    (scope : Handle)
    (layer : Layer)
    (inner : List Layer) :
    arena.frameRow scope (layer :: inner) =
      ⟨arena.generation, some scope, layer.bindings⟩
        :: (arena.pushed scope layer.bindings).frameRow arena.nextHandle inner := by
  simp only [frameRow, List.mapIdx_cons, scopeInRow_pushed]
  rfl

/-- Scopes that are made one inside the other have their frames in a row. -/
theorem nest_eq
    (arena : Arena)
    (scope : Handle)
    (layers : List Layer) :
    arena.nest scope layers =
      (arena.scopeInRow scope layers.length, arena.grown scope layers) := by
  induction layers generalizing arena scope with
  | nil => rfl
  | cons layer inner hypothesis =>
      rw [nest, hypothesis, scopeInRow_pushed, grown, grown, frameRow_cons, List.reverse_cons,
        List.append_assoc]
      rfl

/-- The innermost scope has the new frames in front of those around it. -/
theorem chain_innermost
    (arena : Arena)
    (scope : Handle)
    (layers : List Layer) :
    (arena.nest scope layers).2.chain (arena.nest scope layers).1 =
      (arena.frameRow scope layers).reverse ++ arena.chain scope := by
  induction layers generalizing arena scope with
  | nil => rfl
  | cons layer inner hypothesis =>
      rw [nest, hypothesis, chain_nextHandle, frameRow_cons, List.reverse_cons, List.append_assoc]
      rfl

/-- The innermost scope has a frame for each layer. -/
theorem length_chain_nest
    (arena : Arena)
    (scope : Handle)
    (layers : List Layer) :
    ((arena.nest scope layers).2.chain (arena.nest scope layers).1).length =
      (arena.chain scope).length + layers.length := by
  rw [chain_innermost, List.length_append, List.length_reverse, frameRow, List.length_mapIdx,
    Nat.add_comm]

/-- The innermost scope sees what the layers bind, and all else as the scope around them. -/
theorem get?_nest
    (arena : Arena)
    (scope : Handle)
    (layers : List Layer)
    (name : String) :
    (arena.nest scope layers).2.get? (arena.nest scope layers).1 name =
      (Layer.type? layers.flatten name).or (arena.get? scope name) := by
  induction layers generalizing arena scope with
  | nil => rfl
  | cons layer inner hypothesis =>
      rw [nest, hypothesis, get?_nextHandle, Layer.get?_bindings, List.flatten_cons,
        Layer.type?_append, Option.or_assoc]

end Arena

/-! ## Scopes of trees -/

variable {arena : Arena} {scope : Handle}

/-- The scope after a valid statement has the layers of the statement. -/
theorem Statement.scopeAfter_eq
    (statement : Statement)
    (live : arena.isLive scope = true) :
    statement.scopeAfter scope arena =
      .ok
        (statement.validate.map fun _ => (arena.nest scope statement.layers).1,
          (arena.nest scope statement.layers).2) := by
  cases statement with
  | declare line binding initial =>
      have made :
          arena.declare scope binding =
            .ok (arena.nextHandle, arena.pushed scope (Layer.bindings [binding])) :=
        Arena.push_eq live _
      rw [Statement.scopeAfter, Statement.validate]
      simp only [Statement.asDeclaration?, made, ok_bind]
      rfl
  | _ =>
      rw [Statement.scopeAfter]
      split
      next invalid => rw [invalid]; rfl
      next valid => rw [valid]; rfl

/-- Only a declaration has a layer, and a declaration is valid. -/
theorem Statement.layers_of_invalid
    {statement : Statement}
    {error : ProgramError}
    (invalid : statement.validate = .error error) :
    statement.layers = [] := by
  cases statement with
  | declare line binding initial => cases invalid
  | _ => rfl

/-- The scope after several statements has the layers of those before the first invalid one. -/
theorem Statement.scopeAfterList_eq
    (statements : List Statement)
    (live : arena.isLive scope = true) :
    Statement.scopeAfterList statements scope arena =
      .ok
        ((Statement.validateList statements).map fun _ =>
            (arena.nest scope (Statement.layersOfList statements)).1,
          (arena.nest scope (Statement.layersOfList statements)).2) := by
  induction statements generalizing arena scope with
  | nil => rfl
  | cons first rest hypothesis =>
      rw [Statement.scopeAfterList, first.scopeAfter_eq live, Statement.validateList,
        Statement.layersOfList]
      cases verdict : first.validate with
      | error error =>
          rw [Statement.layers_of_invalid verdict]
          rfl
      | ok _ =>
          have inner := hypothesis (Arena.isLive_nest live first.layers)
          simp only [Except.map, ok_bind, inner, Arena.nest_append]

/-- A block keeps its declarations to itself. -/
theorem Block.scopeAfter_eq (block : Block) :
    block.scopeAfter scope arena = .ok (block.validate.map fun _ => scope, arena) := by
  rw [Block.scopeAfter]
  cases block.validate <;> rfl

/-- The scope at the end of a block has the layers of the block. -/
theorem Block.innerScope_eq
    (block : Block)
    (live : arena.isLive scope = true) :
    block.innerScope scope arena =
      .ok
        (block.validate.map fun _ => (arena.nest scope block.layers).1,
          (arena.nest scope block.layers).2) := by
  have opened :
      arena.child scope = .ok (arena.nextHandle, arena.pushed scope (Layer.bindings [])) :=
    Arena.push_eq live _
  have inside : (arena.pushed scope (Layer.bindings [])).isLive arena.nextHandle = true :=
    Arena.isLive_nextHandle arena scope _
  cases block with
  | mk line statements =>
      rw [Block.innerScope, opened, ok_bind]
      exact Statement.scopeAfterList_eq statements inside

theorem FunctionDefinition.parameterScope_eq
    (definition : FunctionDefinition)
    (live : arena.isLive scope = true) :
    definition.parameterScope scope arena =
      .ok (arena.nextHandle, arena.pushed scope (Layer.bindings definition.parameters)) :=
  Arena.push_eq live _

/-- The scope at the end of a function has the layers of the function. -/
theorem FunctionDefinition.innerScope_eq
    (definition : FunctionDefinition)
    (live : arena.isLive scope = true) :
    definition.innerScope scope arena =
      .ok
        (definition.body.validate.map fun _ => (arena.nest scope definition.layers).1,
          (arena.nest scope definition.layers).2) := by
  rw [FunctionDefinition.innerScope, definition.parameterScope_eq live, ok_bind]
  exact definition.body.innerScope_eq (Arena.isLive_nextHandle arena scope _)

end SynthesisHoles
