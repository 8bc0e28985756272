/-!
# Sets of names

A set is the list of its names, each once, in the order in which they came. Names are strings unless
another type is given, and all that is asked of them is whether two are the same. The main statement says
which names a set made from a list has.
-/

namespace SynthesisHoles

/-- A finite set of names, in the order in which they were inserted. -/
structure NameSet (Name : Type := String) where
  names : List Name
  distinct : names.Nodup

namespace NameSet

variable {Name : Type}

/-- The set of no name. -/
def empty : NameSet Name :=
  ⟨[], List.nodup_nil⟩

/-- Number of names in the set. -/
def size (set : NameSet Name) : Nat :=
  set.names.length

variable [DecidableEq Name]

/-- A set with one name more, which comes last if it is new. -/
def insert (set : NameSet Name) (name : Name) : NameSet Name :=
  if fresh : name ∈ set.names then
    set
  else
    { names := set.names ++ [name]
      distinct := by
        refine List.nodup_append.2 ⟨set.distinct, by simp, ?_⟩
        intro member memberOf other otherOf equality
        rw [List.mem_singleton.1 otherOf] at equality
        exact fresh (equality ▸ memberOf) }

/-- The set of the names of a list. -/
def ofList (names : List Name) : NameSet Name :=
  names.foldl insert empty

/-- Whether a name is in the set. -/
def contains (set : NameSet Name) (name : Name) : Bool :=
  decide (name ∈ set.names)

/-- Whether all the keys are in the set, and are as many as its names. -/
def matchesKeys (set : NameSet Name) (keys : List Name) : Bool :=
  keys.all set.contains && set.size == keys.length

@[simp]
theorem mem_insert
    (set : NameSet Name)
    (name other : Name) :
    other ∈ (set.insert name).names ↔ other ∈ set.names ∨ other = name := by
  unfold insert
  split
  next present =>
    constructor
    · exact Or.inl
    · rintro (member | rfl)
      · exact member
      · exact present
  next => simp

theorem mem_foldl_insert
    (names : List Name)
    (set : NameSet Name)
    (name : Name) :
    name ∈ (names.foldl insert set).names ↔ name ∈ set.names ∨ name ∈ names := by
  induction names generalizing set with
  | nil => simp
  | cons head tail hypothesis => simp [hypothesis, or_assoc]

@[simp]
theorem mem_ofList
    (names : List Name)
    (name : Name) :
    name ∈ (ofList names).names ↔ name ∈ names := by
  simp [ofList, mem_foldl_insert, empty]

end NameSet

end SynthesisHoles
