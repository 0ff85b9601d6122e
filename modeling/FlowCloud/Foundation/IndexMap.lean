import Mathlib.Data.List.AList

/-! # Maps that keep the order of insertion

A map whose entries stand in the order in which their keys were first inserted: a
new key goes to the end, and a key that is present keeps its place and gets the new
value.  Filling a map with keys it does not have is appending to its entries.
-/

namespace FlowCloud.Foundation

structure IndexMap (Key Value : Type) where
  entries : List (Key × Value)
  nodup : (entries.map Prod.fst).Nodup

namespace IndexMap

variable {Key Value : Type}

def keys (map : IndexMap Key Value) : List Key := map.entries.map Prod.fst

def empty : IndexMap Key Value := ⟨[], List.nodup_nil⟩

@[simp] theorem entries_empty : (empty : IndexMap Key Value).entries = [] := rfl

variable [DecidableEq Key]

def get (map : IndexMap Key Value) (key : Key) : Option Value := map.entries.lookup key

/-- A lookup finds a value exactly where the entries hold it under the key. -/
theorem get_eq_some {map : IndexMap Key Value} {key : Key} {value : Value} :
    map.get key = some value ↔ (key, value) ∈ map.entries := by
  obtain ⟨entries, nodup⟩ := map
  show entries.lookup key = some value ↔ (key, value) ∈ entries
  induction entries with
  | nil => simp
  | cons head rest ih =>
    obtain ⟨first, held⟩ := head
    rw [List.map_cons, List.nodup_cons] at nodup
    by_cases same : key = first
    · subst same
      have absent : (key, value) ∉ rest := by
        intro present
        exact nodup.1 (List.mem_map.mpr ⟨(key, value), present, rfl⟩)
      rw [List.lookup_cons_self]
      simp [absent, eq_comm]
    · have missed : (key == first) = false := by simpa using same
      rw [List.lookup_cons, missed]
      simp [same, ih nodup.2]

/-- `insert`: a new key goes to the end, a present one keeps its place. -/
def insert (map : IndexMap Key Value) (key : Key) (value : Value) : IndexMap Key Value :=
  if present : key ∈ map.keys then
    ⟨map.entries.map fun entry => if entry.1 = key then (key, value) else entry, by
      have kept : Prod.fst ∘ (fun entry : Key × Value => if entry.1 = key then (key, value) else entry) = Prod.fst := by
        funext entry
        by_cases same : entry.1 = key <;> simp [same]
      rw [List.map_map, kept]
      exact map.nodup⟩
  else
    ⟨map.entries ++ [(key, value)], by
      rw [List.map_append, List.nodup_append]
      refine ⟨map.nodup, List.nodup_singleton key, ?_⟩
      intro held among added new same
      rw [same, List.mem_singleton.mp new] at among
      exact present among⟩

/-- `extend`: the other map's entries are inserted one by one. -/
def extend (map other : IndexMap Key Value) : IndexMap Key Value :=
  other.entries.foldl (fun map entry => map.insert entry.1 entry.2) map

theorem entries_insert {map : IndexMap Key Value} {key : Key} (absent : key ∉ map.keys) (value : Value) :
    (map.insert key value).entries = map.entries ++ [(key, value)] := by
  rw [insert, dif_neg absent]

/-- Extending with keys the map does not have appends the other map's entries. -/
theorem entries_extend {map other : IndexMap Key Value} (apart : ∀ key ∈ other.keys, key ∉ map.keys) :
    (map.extend other).entries = map.entries ++ other.entries := by
  obtain ⟨entries, nodup⟩ := other
  show (entries.foldl (fun map entry => map.insert entry.1 entry.2) map).entries = map.entries ++ entries
  replace apart : ∀ entry ∈ entries, entry.1 ∉ map.keys :=
    fun entry listed => apart entry.1 (List.mem_map_of_mem listed)
  induction entries generalizing map with
  | nil => simp
  | cons head rest ih =>
    rw [List.map_cons, List.nodup_cons] at nodup
    have first := entries_insert (apart head (by simp)) head.2
    rw [List.foldl_cons, ih nodup.2, first, List.append_assoc]
    · rfl
    · intro entry listed
      rw [keys, first, List.map_append, List.mem_append]
      intro held
      cases held with
      | inl held => exact apart entry (List.mem_cons_of_mem _ listed) held
      | inr same =>
        apply nodup.1
        rw [← List.mem_singleton.mp same]
        exact List.mem_map_of_mem listed

/-- `into_iter().collect()` into a map without an order. -/
def collect (map : IndexMap Key Value) : AList fun _ : Key => Value :=
  map.entries.foldl (fun collected entry => collected.insert entry.1 entry.2) ∅

@[simp] theorem lookup_collect (map : IndexMap Key Value) (key : Key) : map.collect.lookup key = map.get key := by
  obtain ⟨entries, nodup⟩ := map
  -- what is already collected under the key is read where the rest does not hold it
  have collected : ∀ start : AList fun _ : Key => Value,
      (entries.foldl (fun collected entry => collected.insert entry.1 entry.2) start).lookup key =
        (entries.lookup key).or (start.lookup key) := by
    induction entries with
    | nil => simp
    | cons head rest ih =>
      obtain ⟨first, value⟩ := head
      rw [List.map_cons, List.nodup_cons] at nodup
      intro start
      rw [List.foldl_cons, ih nodup.2]
      by_cases same : key = first
      · subst same
        have absent : rest.lookup key = none := by
          rw [List.lookup_eq_none_iff]
          intro entry listed
          have other : key ≠ entry.1 := by
            intro equal
            exact nodup.1 (List.mem_map.mpr ⟨entry, listed, equal.symm⟩)
          simpa using other
        simp [absent]
      · have missed : (key == first) = false := by simpa using same
        rw [List.lookup_cons, missed, AList.lookup_insert_ne same]
  rw [collect, collected ∅, AList.lookup_empty, Option.or_none]
  rfl

end IndexMap

end FlowCloud.Foundation
