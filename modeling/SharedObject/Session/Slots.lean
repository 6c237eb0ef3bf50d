/-!
# Slots

A slot holds a value under a key; a key has at most one value.  Sessions name
their slots and number their libraries.
-/

namespace SharedObject

/-- Values under keys that are distinct. -/
structure Slots (Key α : Type) where
  entries : List (Key × α) := []
  distinct : (entries.map (·.1)).Nodup := by simp

namespace Slots

section Basic

variable {Key α : Type} [DecidableEq Key]

def get? (slots : Slots Key α) (key : Key) : Option α :=
  slots.entries.lookup key

def erase (slots : Slots Key α) (key : Key) : Slots Key α where
  entries := slots.entries.filter (·.1 != key)
  distinct := slots.distinct.sublist (List.filter_sublist.map _)

/-- The slots with a value put under a key, in place of the one before. -/
def put (slots : Slots Key α) (key : Key) (value : α) : Slots Key α where
  entries := (key, value) :: (slots.erase key).entries
  distinct := by
    refine List.nodup_cons.mpr ⟨?_, (slots.erase key).distinct⟩
    simp [erase]

def keys (slots : Slots Key α) : List Key :=
  slots.entries.map (·.1)

def values (slots : Slots Key α) : List α :=
  slots.entries.map (·.2)

theorem get?_erase (slots : Slots Key α) (key other : Key) :
    (slots.erase key).get? other = if other = key then none else slots.get? other := by
  obtain ⟨entries, distinct⟩ := slots
  simp only [get?, erase]
  clear distinct
  induction entries with
  | nil => simp
  | cons entry entries ih =>
      obtain ⟨found, value⟩ := entry
      by_cases isErased : found = key
      · rw [List.filter_cons_of_neg (by simp [isErased]), ih]
        by_cases isFound : other = key
        · simp [isFound]
        · simp [isFound, isErased, List.lookup_cons, beq_eq_false_iff_ne.mpr isFound]
      · rw [List.filter_cons_of_pos (by simp [isErased])]
        by_cases isFound : other = found
        · simp [isFound, isErased]
        · simp [List.lookup_cons, beq_eq_false_iff_ne.mpr isFound, ih]

theorem get?_put (slots : Slots Key α) (key other : Key) (value : α) :
    (slots.put key value).get? other = if other = key then some value else slots.get? other := by
  by_cases isPut : other = key
  · simp [isPut, get?, put]
  · have erased := get?_erase slots key other
    rw [if_neg isPut] at erased ⊢
    rw [← erased]
    simp [get?, put, List.lookup_cons, beq_eq_false_iff_ne.mpr isPut]

@[simp]
theorem get?_put_self (slots : Slots Key α) (key : Key) (value : α) :
    (slots.put key value).get? key = some value := by
  simp [get?_put]

@[simp]
theorem put_put (slots : Slots Key α) (key : Key) (first second : α) :
    (slots.put key first).put key second = slots.put key second := by
  simp [put, erase, List.filter_filter]

theorem get?_eq_some_iff (slots : Slots Key α) (key : Key) (value : α) :
    slots.get? key = some value ↔ (key, value) ∈ slots.entries := by
  obtain ⟨entries, distinct⟩ := slots
  simp only [get?]
  induction entries with
  | nil => simp
  | cons entry entries ih =>
      obtain ⟨found, held⟩ := entry
      obtain ⟨absent, others⟩ := List.nodup_cons.mp distinct
      by_cases isFound : key = found
      · have elsewhere : (found, value) ∉ entries := fun member =>
          absent (List.mem_map.mpr ⟨(found, value), member, rfl⟩)
        simp [isFound, eq_comm, elsewhere]
      · simp [List.lookup_cons, beq_eq_false_iff_ne.mpr isFound, isFound, ih others]

theorem mem_values_iff (slots : Slots Key α) (value : α) :
    value ∈ slots.values ↔ ∃ key, slots.get? key = some value := by
  simp only [values, List.mem_map, get?_eq_some_iff]
  constructor
  · rintro ⟨⟨key, held⟩, member, rfl⟩
    exact ⟨key, member⟩
  · rintro ⟨key, member⟩
    exact ⟨(key, value), member, rfl⟩

theorem mem_keys_iff (slots : Slots Key α) (key : Key) :
    key ∈ slots.keys ↔ ∃ value, slots.get? key = some value := by
  simp only [keys, List.mem_map, get?_eq_some_iff]
  constructor
  · rintro ⟨⟨key, held⟩, member, rfl⟩
    exact ⟨held, member⟩
  · rintro ⟨value, member⟩
    exact ⟨(key, value), member, rfl⟩

end Basic

/-- The keys in ascending order. -/
def names {α : Type} (slots : Slots String α) : List String :=
  slots.keys.mergeSort fun first second => !decide (second < first)

@[simp]
theorem mem_names_iff {α : Type} (slots : Slots String α) (name : String) :
    name ∈ slots.names ↔ name ∈ slots.keys :=
  List.mem_mergeSort

theorem get?_of_notMem_names {α : Type} (slots : Slots String α) {name : String}
    (absent : name ∉ slots.names) : slots.get? name = none := by
  rw [mem_names_iff, mem_keys_iff] at absent
  exact Option.eq_none_iff_forall_not_mem.mpr fun value held => absent ⟨value, held⟩

end Slots

end SharedObject
