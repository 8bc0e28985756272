import SynthesisHoles.NameSet

/-!
# Ordered maps

A map from names to values that remembers the order of insertion. Inserting a name that is already
there keeps its position and replaces its value.
-/

namespace SynthesisHoles

/-- Puts a value under a name: in place if the name is there, at the end if not. -/
def assign
    {Value : Type}
    (name : String)
    (value : Value) :
    List (String × Value) → List (String × Value)
  | [] => [(name, value)]
  | entry :: rest =>
      if entry.1 = name then
        (name, value) :: rest
      else
        entry :: assign name value rest

theorem map_fst_assign
    {Value : Type}
    (name : String)
    (value : Value)
    (entries : List (String × Value)) :
    (assign name value entries).map Prod.fst =
      if name ∈ entries.map Prod.fst then
        entries.map Prod.fst
      else
        entries.map Prod.fst ++ [name] := by
  induction entries with
  | nil => simp [assign]
  | cons entry rest hypothesis =>
      by_cases same : entry.1 = name
      · simp [assign, same]
      · have different : ¬ name = entry.1 := fun equality => same equality.symm
        simp only [assign, if_neg same, List.map_cons, hypothesis, List.mem_cons, different,
          false_or]
        split <;> rfl

/-- A map from names to values, in the order of first insertion. -/
structure OrderedMap (Value : Type) where
  entries : List (String × Value)
  distinct : (entries.map Prod.fst).Nodup

namespace OrderedMap

variable {Value : Type}

/-- The map of no name. -/
def empty : OrderedMap Value :=
  ⟨[], List.nodup_nil⟩

instance : EmptyCollection (OrderedMap Value) :=
  ⟨empty⟩

/-- The map with a value under a name, which keeps its position if it has one. -/
def insert
    (map : OrderedMap Value)
    (name : String)
    (value : Value) :
    OrderedMap Value where
  entries := assign name value map.entries
  distinct := by
    rw [map_fst_assign]
    split
    next => exact map.distinct
    next fresh =>
      refine List.nodup_append.2 ⟨map.distinct, by simp, ?_⟩
      intro member memberOf other otherOf equality
      rw [List.mem_singleton.1 otherOf] at equality
      exact fresh (equality ▸ memberOf)

/-- The map of a list of pairs, where a later pair of a name replaces the value of an earlier. -/
def ofList (pairs : List (String × Value)) : OrderedMap Value :=
  pairs.foldl (fun map pair => map.insert pair.1 pair.2) empty

/-- Value under a name, if there is one. -/
def get? (map : OrderedMap Value) (name : String) : Option Value :=
  (map.entries.find? fun entry => entry.1 = name).map Prod.snd

/-- Names of the map, in order. -/
def names (map : OrderedMap Value) : List String :=
  map.entries.map Prod.fst

/-- Inserting adds a name at the end if it is new, and changes no name otherwise. -/
theorem names_insert
    (map : OrderedMap Value)
    (name : String)
    (value : Value) :
    (map.insert name value).names =
      if name ∈ map.names then map.names else map.names ++ [name] :=
  map_fst_assign name value map.entries

theorem find?_assign
    (name other : String)
    (value : Value)
    (entries : List (String × Value)) :
    ((assign name value entries).find? fun entry => entry.1 = other).map Prod.snd =
      if name = other then
        some value
      else
        (entries.find? fun entry => entry.1 = other).map Prod.snd := by
  induction entries with
  | nil => by_cases equality : name = other <;> simp [assign, equality]
  | cons entry rest hypothesis =>
      by_cases same : entry.1 = name
      · by_cases equality : name = other <;> simp [assign, same, equality]
      · by_cases found : entry.1 = other
        · have different : ¬ other = name := found ▸ same
          have unlike : ¬ name = other := fun equality => different equality.symm
          simp [assign, found, different, unlike]
        · simp [assign, same, found, hypothesis]

/-- The value under a name is the last one inserted there. -/
theorem get?_insert
    (map : OrderedMap Value)
    (name other : String)
    (value : Value) :
    (map.insert name value).get? other =
      if name = other then some value else map.get? other :=
  find?_assign name other value map.entries

/-- There is a value under exactly the names of the map. -/
theorem isSome_get?_iff
    (map : OrderedMap Value)
    (name : String) :
    (map.get? name).isSome = true ↔ name ∈ map.names := by
  simp [get?, names]

@[simp]
theorem get?_empty (name : String) :
    (∅ : OrderedMap Value).get? name = none :=
  rfl

theorem get?_foldl_insert
    (pairs : List (String × Value))
    (map : OrderedMap Value)
    (name : String) :
    (pairs.foldl (fun map pair => map.insert pair.1 pair.2) map).get? name =
      ((pairs.reverse.find? fun pair => pair.1 = name).map Prod.snd).or (map.get? name) := by
  induction pairs generalizing map with
  | nil => simp
  | cons pair rest hypothesis =>
      rw [List.foldl_cons, hypothesis, get?_insert, List.reverse_cons, List.find?_append]
      by_cases same : pair.1 = name
      · cases rest.reverse.find? fun pair => pair.1 = name <;> simp [same]
      · simp [same]

/--
Inserting pairs one after the other keeps the names that are there, and adds the others in the order in
which they come first.
-/
theorem names_foldl_insert
    (pairs : List (String × Value))
    (map : OrderedMap Value) :
    (pairs.foldl (fun map pair => map.insert pair.1 pair.2) map).names =
      map.names ++ ((pairs.map Prod.fst).filter fun name => name ∉ map.names).eraseDups := by
  induction pairs generalizing map with
  | nil => simp
  | cons pair rest hypothesis =>
      rw [List.foldl_cons, hypothesis, names_insert, List.map_cons, List.filter_cons]
      by_cases present : pair.1 ∈ map.names
      · simp [present]
      · have others :
            ((rest.map Prod.fst).filter fun name => name ∉ map.names ++ [pair.1]) =
              ((rest.map Prod.fst).filter fun name => name ∉ map.names).filter
                fun name => !name == pair.1 := by
          rw [List.filter_filter]
          apply List.filter_congr
          intro name _
          by_cases same : name = pair.1 <;> simp [same]
        rw [if_neg present, others, if_pos (by simpa using present), List.eraseDups_cons,
          List.append_assoc, List.singleton_append]

/-- An entry is found under its name, since no other one has the name. -/
theorem get?_of_mem
    (map : OrderedMap Value)
    {entry : String × Value}
    (member : entry ∈ map.entries) :
    map.get? entry.1 = some entry.2 := by
  rcases map with ⟨entries, distinct⟩
  rcases List.append_of_mem member with ⟨before, after, rfl⟩
  rw [List.map_append, List.map_cons, List.nodup_append] at distinct
  have others : ∀ other ∈ before, ¬ other.1 = entry.1 := by
    intro other otherMember
    exact distinct.2.2 other.1 (List.mem_map_of_mem otherMember) entry.1 List.mem_cons_self
  have nothing : before.find? (fun other => other.1 = entry.1) = none := by
    simpa using others
  simp [get?, List.find?_append, nothing]

/-- Maps that have the same names in the same order, and the same values, are the same. -/
theorem ext_get?
    {left right : OrderedMap Value}
    (sameNames : left.names = right.names)
    (sameValues : ∀ name, left.get? name = right.get? name) :
    left = right := by
  have sameLength : left.entries.length = right.entries.length := by
    simpa [names] using congrArg List.length sameNames
  have sameEntries : left.entries = right.entries := by
    refine List.ext_getElem sameLength ?_
    intro position inLeft inRight
    have sameName : left.entries[position].1 = right.entries[position].1 := by
      have named := congrArg (fun names => names[position]?) sameNames
      simpa [names, inLeft, inRight] using named
    have sameValue : left.entries[position].2 = right.entries[position].2 := by
      have found := left.get?_of_mem (List.getElem_mem inLeft)
      rw [sameName, sameValues, right.get?_of_mem (List.getElem_mem inRight)] at found
      exact (Option.some.inj found).symm
    exact Prod.ext sameName sameValue
  cases left
  cases right
  cases sameEntries
  rfl

/-- The value under a name is that of the last pair of the name. -/
theorem get?_ofList
    (pairs : List (String × Value))
    (name : String) :
    (ofList pairs).get? name =
      (pairs.reverse.find? fun pair => pair.1 = name).map Prod.snd := by
  rw [ofList, get?_foldl_insert]
  exact Option.or_none

end OrderedMap

end SynthesisHoles
