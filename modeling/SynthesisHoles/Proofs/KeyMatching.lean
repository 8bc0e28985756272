import Mathlib.Data.List.Dedup
import SynthesisHoles.NameSet

/-!
# Matching a set against keys

A list of keys lists a set if the keys are the names of the set, each of them once, in any order. The match
of a set against a list of keys looks each key up, and compares numbers instead of looking each name up. So
a key that comes again can stand for a name that does not come.

The main statement says that a match succeeds exactly if all the keys are names of the set and just as many
keys come again as names are missing, and hence what a match has to do with a listing. Two equal keys match
a set of two names, and do not list it.
-/

namespace SynthesisHoles

namespace NameSet

variable {Name : Type} [DecidableEq Name]

/-! ## Listings -/

/-- The keys are the names of the set, each of them once, in any order. -/
structure ListedBy (set : NameSet Name) (keys : List Name) : Prop where
  inside : ∀ key ∈ keys, key ∈ set.names
  covered : ∀ name ∈ set.names, name ∈ keys
  distinct : keys.Nodup

/-- Names of the set that are not among the keys. -/
def missing (set : NameSet Name) (keys : List Name) : List Name :=
  set.names.filter fun name => name ∉ keys

theorem missing_eq_nil_iff (set : NameSet Name) (keys : List Name) :
    set.missing keys = [] ↔ ∀ name ∈ set.names, name ∈ keys := by
  simp [missing]

/-! ## Counting -/

/-- Distinct keys from the set are the names of the set that are not missing. -/
theorem perm_dedup
    {set : NameSet Name}
    {keys : List Name}
    (inside : ∀ key ∈ keys, key ∈ set.names) :
    (set.names.filter fun name => name ∈ keys).Perm keys.dedup := by
  rw [List.perm_ext_iff_of_nodup (set.distinct.filter _) keys.nodup_dedup]
  intro name
  rw [List.mem_filter, decide_eq_true_iff, List.mem_dedup]
  constructor
  · rintro ⟨_, given⟩
    exact given
  · intro given
    exact ⟨inside name given, given⟩

/-- Each name of the set is a key or missing. -/
theorem size_eq
    {set : NameSet Name}
    {keys : List Name}
    (inside : ∀ key ∈ keys, key ∈ set.names) :
    set.size = keys.dedup.length + (set.missing keys).length := by
  have parts := set.names.length_eq_length_filter_add fun name => decide (name ∈ keys)
  rw [(perm_dedup inside).length_eq] at parts
  simpa [size, missing] using parts

/-! ## Matches -/

/-- What a match looks at. -/
theorem matchesKeys_eq_true_iff (set : NameSet Name) (keys : List Name) :
    set.matchesKeys keys = true ↔
      (∀ key ∈ keys, key ∈ set.names) ∧ set.size = keys.length := by
  simp [matchesKeys, contains]

/-- A match succeeds if the keys are from the set and as many come again as names are missing. -/
theorem matchesKeys_iff_missing (set : NameSet Name) (keys : List Name) :
    set.matchesKeys keys = true ↔
      (∀ key ∈ keys, key ∈ set.names) ∧
        keys.dedup.length + (set.missing keys).length = keys.length := by
  rw [matchesKeys_eq_true_iff]
  apply and_congr_right
  intro inside
  rw [size_eq inside]

/-- Keys list the set exactly if they match it and none of them comes again. -/
theorem listedBy_iff (set : NameSet Name) (keys : List Name) :
    set.ListedBy keys ↔ set.matchesKeys keys = true ∧ keys.Nodup := by
  rw [matchesKeys_iff_missing]
  constructor
  · intro listed
    have none : set.missing keys = [] := (set.missing_eq_nil_iff keys).mpr listed.covered
    refine ⟨⟨listed.inside, ?_⟩, listed.distinct⟩
    rw [listed.distinct.dedup, none, List.length_nil, Nat.add_zero]
  · rintro ⟨⟨inside, counted⟩, distinct⟩
    rw [distinct.dedup, Nat.add_eq_left, List.length_eq_zero_iff] at counted
    exact ⟨inside, (set.missing_eq_nil_iff keys).mp counted, distinct⟩

/--
What it means that a set matches some keys. It does exactly if all the keys are names of the set, and the
keys that come again are as many as the names that are missing: together with the distinct keys, the
missing names are as many as the keys. The keys list the set exactly if they match it and no key comes
again. So to match and to list the set come to the same exactly for keys that do not match, or of which none
comes again.
-/
theorem matchesKeys_law (set : NameSet Name) (keys : List Name) :
    (set.matchesKeys keys = true ↔
        (∀ key ∈ keys, key ∈ set.names) ∧
          keys.dedup.length + (set.missing keys).length = keys.length) ∧
      (set.ListedBy keys ↔ set.matchesKeys keys = true ∧ keys.Nodup) ∧
      ((set.matchesKeys keys = true ↔ set.ListedBy keys) ↔
        keys.Nodup ∨ set.matchesKeys keys = false) := by
  refine ⟨set.matchesKeys_iff_missing keys, set.listedBy_iff keys, ?_⟩
  rw [listedBy_iff]
  cases set.matchesKeys keys with
  | true => simp
  | false => simp

/-- A key that comes twice stands for the name that is missing. -/
theorem matchesKeys_of_repeated_key :
    (ofList ["a", "b"]).matchesKeys ["a", "a"] = true ∧
      ¬ (ofList ["a", "b"]).ListedBy ["a", "a"] := by
  refine ⟨rfl, ?_⟩
  intro listed
  exact absurd listed.distinct (by decide)

end NameSet

end SynthesisHoles
