/-!
# Recency lists

Keyed values in the order of their last use, the most recent first. Every key
stands in the list at most once; a value is put in as the most recent one, and
what then exceeds the capacity falls out at the far end.
-/

namespace SpeciesBrowser.Cache

structure Recency (κ : Type) (α : Type) where
  entries : List (κ × α) := []
deriving DecidableEq, Repr

namespace Recency

variable {κ α : Type} [DecidableEq κ]

def keys (recency : Recency κ α) : List κ := recency.entries.map (·.1)

def size (recency : Recency κ α) : Nat := recency.entries.length

def get? (recency : Recency κ α) (key : κ) : Option α :=
  (recency.entries.find? (·.1 = key)).map (·.2)

/-- The list without a key. -/
def erase (recency : Recency κ α) (key : κ) : Recency κ α :=
  ⟨recency.entries.filter (·.1 ≠ key)⟩

def put (recency : Recency κ α) (capacity : Nat) (key : κ) (value : α) : Recency κ α :=
  ⟨((key, value) :: (recency.erase key).entries).take capacity⟩

/-- Read a value and make its key the most recent one. -/
def touch? (recency : Recency κ α) (key : κ) : Option (α × Recency κ α) :=
  (recency.get? key).map fun value => (value, ⟨(key, value) :: (recency.erase key).entries⟩)

theorem size_put_le (recency : Recency κ α) (capacity : Nat) (key : κ) (value : α) :
    (recency.put capacity key value).size ≤ capacity := by
  simp only [size, put, List.length_take]
  omega

theorem keys_erase (recency : Recency κ α) (key : κ) :
    (recency.erase key).keys = recency.keys.filter (· ≠ key) := by
  simp [keys, erase, List.filter_map, Function.comp_def]

theorem keys_put (recency : Recency κ α) (capacity : Nat) (key : κ) (value : α) :
    (recency.put capacity key value).keys =
      (key :: recency.keys.filter (· ≠ key)).take capacity := by
  rw [← keys_erase]
  simp [keys, put, List.map_take]

theorem keys_of_touch? {recency after : Recency κ α} {key : κ} {value : α}
    (h : recency.touch? key = some (value, after)) :
    after.keys = key :: recency.keys.filter (· ≠ key) := by
  simp only [touch?, Option.map_eq_some_iff] at h
  obtain ⟨found, -, equal⟩ := h
  cases equal
  rw [← keys_erase]
  simp [keys]

theorem get?_eq_none_iff (recency : Recency κ α) (key : κ) :
    recency.get? key = none ↔ key ∉ recency.keys := by
  simp only [get?, keys, Option.map_eq_none_iff, List.find?_eq_none, List.mem_map, not_exists,
    not_and, decide_eq_true_eq]

theorem touch?_eq_none_iff (recency : Recency κ α) (key : κ) :
    recency.touch? key = none ↔ key ∉ recency.keys := by
  rw [touch?, Option.map_eq_none_iff, get?_eq_none_iff]

theorem mem_entries_of_get? {recency : Recency κ α} {key : κ} {value : α}
    (found : recency.get? key = some value) : (key, value) ∈ recency.entries := by
  obtain ⟨⟨stored, held⟩, first, same⟩ := Option.map_eq_some_iff.mp found
  have equal : stored = key := by simpa using List.find?_some first
  cases equal
  cases same
  exact List.mem_of_find?_eq_some first

theorem mem_entries_put {recency : Recency κ α} {capacity : Nat} {key stored : κ} {value held : α}
    (member : (stored, held) ∈ (recency.put capacity key value).entries) :
    (stored = key ∧ held = value) ∨ (stored ≠ key ∧ (stored, held) ∈ recency.entries) := by
  rcases List.mem_cons.mp (List.mem_of_mem_take member) with same | old
  · cases same
    exact Or.inl ⟨rfl, rfl⟩
  · obtain ⟨old, other⟩ := List.mem_filter.mp old
    exact Or.inr ⟨of_decide_eq_true other, old⟩

theorem mem_entries_of_touch?_self {recency after : Recency κ α} {key : κ} {value : α}
    (touched : recency.touch? key = some (value, after)) : (key, value) ∈ recency.entries := by
  obtain ⟨found, got, equal⟩ := Option.map_eq_some_iff.mp touched
  cases equal
  exact mem_entries_of_get? got

/-- Touching a key moves its entry and changes none. -/
theorem mem_entries_of_touch? {recency after : Recency κ α} {key stored : κ} {value held : α}
    (touched : recency.touch? key = some (value, after))
    (member : (stored, held) ∈ after.entries) : (stored, held) ∈ recency.entries := by
  have self := mem_entries_of_touch?_self touched
  obtain ⟨found, -, equal⟩ := Option.map_eq_some_iff.mp touched
  cases equal
  rcases List.mem_cons.mp member with same | old
  · cases same
    exact self
  · exact (List.mem_filter.mp old).1

theorem nodup_keys_put {recency : Recency κ α} (distinct : recency.keys.Nodup) (capacity : Nat)
    (key : κ) (value : α) : (recency.put capacity key value).keys.Nodup := by
  rw [keys_put]
  refine (List.take_sublist _ _).nodup (List.nodup_cons.mpr ⟨?_, distinct.filter _⟩)
  simp

theorem nodup_keys_of_touch? {recency after : Recency κ α} {key : κ} {value : α}
    (distinct : recency.keys.Nodup) (touched : recency.touch? key = some (value, after)) :
    after.keys.Nodup := by
  rw [keys_of_touch? touched]
  refine List.nodup_cons.mpr ⟨?_, distinct.filter _⟩
  simp

theorem mem_keys_of_touch? {recency after : Recency κ α} {key : κ} {value : α}
    (touched : recency.touch? key = some (value, after)) : key ∈ recency.keys :=
  List.mem_map_of_mem (mem_entries_of_touch?_self touched)

theorem size_le_of_touch? {recency after : Recency κ α} {key : κ} {value : α}
    (touched : recency.touch? key = some (value, after)) : after.size ≤ recency.size := by
  have member := mem_entries_of_touch?_self touched
  obtain ⟨found, -, equal⟩ := Option.map_eq_some_iff.mp touched
  cases equal
  have shorter : (recency.erase key).entries.length < recency.entries.length :=
    List.length_filter_lt_length_iff_exists.mpr ⟨_, member, by simp⟩
  exact shorter

end Recency

end SpeciesBrowser.Cache
