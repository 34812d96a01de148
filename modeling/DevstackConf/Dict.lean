/-!
# Insertion-ordered dictionaries

A dictionary keeps its entries in the order their keys were first inserted. Inserting a key that
is already present replaces its value and keeps its place, so a key occurs at most once; the
structure carries that fact (`Dict.nodup`), and each operation that builds a dictionary proves it.
-/

namespace DevstackConf

/-- Entries keyed by strings, in first-insertion order, each key once. -/
structure Dict (α : Type) where
  /-- The entries in first-insertion order. -/
  entries : List (String × α) := []
  /-- No key has two entries. -/
  nodup : (entries.map (·.1)).Nodup := by simp

namespace Dict

variable {α : Type}

/-- The dictionary with no entries. -/
def empty : Dict α := {}

/-- Replacing the values of one key, in place, keeps the keys. -/
theorem map_fst_replace (l : List (String × α)) (k : String) (v : α) :
    (l.map fun e => if e.1 == k then (k, v) else e).map (·.1) = l.map (·.1) := by
  induction l with
  | nil => rfl
  | cons e l ih =>
    rw [List.map_cons, List.map_cons, ih, List.map_cons]
    -- a replaced entry has the key it replaces
    by_cases hk : e.1 = k <;> simp [hk]

/-- Appending a key that is not there yet keeps the keys distinct. -/
theorem nodup_append_new {l : List (String × α)} (hl : (l.map (·.1)).Nodup) {k : String}
    (hk : (l.any (·.1 == k)) = false) (v : α) : ((l ++ [(k, v)]).map (·.1)).Nodup := by
  rw [List.map_append, List.nodup_append]
  refine ⟨hl, List.nodup_cons.mpr ⟨List.not_mem_nil, List.nodup_nil⟩, ?_⟩
  intro a ha b hb hab
  obtain ⟨e, he, rfl⟩ := List.mem_map.mp ha
  have hb' : b = k := List.mem_singleton.mp hb
  rw [List.any_eq_false] at hk
  exact hk e he (by simp [hab, hb'])

/-- Replaces the value of `k` in place, or appends the entry if `k` is new. -/
def insert (d : Dict α) (k : String) (v : α) : Dict α :=
  if hk : d.entries.any (·.1 == k) then
    ⟨d.entries.map fun e => if e.1 == k then (k, v) else e,
      (map_fst_replace d.entries k v).symm ▸ d.nodup⟩
  else ⟨d.entries ++ [(k, v)], nodup_append_new d.nodup (Bool.eq_false_iff.mpr hk) v⟩

/-- The dictionary of a list of pairs inserted in order: a repeated key keeps its first place
and takes its last value. -/
def ofList (l : List (String × α)) : Dict α := l.foldl (fun d (k, v) => d.insert k v) empty

/-- The value of `k`. -/
def get? (d : Dict α) (k : String) : Option α := (d.entries.find? (·.1 == k)).map (·.2)

/-- Whether `k` has an entry. -/
def contains (d : Dict α) (k : String) : Bool := d.entries.any (·.1 == k)

/-- The dictionary without the entry of `k`. -/
def erase (d : Dict α) (k : String) : Dict α :=
  ⟨d.entries.filter (·.1 != k), d.nodup.sublist (List.filter_sublist.map _)⟩

/-- The keys in order. -/
def keys (d : Dict α) : List String := d.entries.map (·.1)

/-- Whether there are no entries. -/
def isEmpty (d : Dict α) : Bool := d.entries.isEmpty

/-- The number of entries. -/
def size (d : Dict α) : Nat := d.entries.length

/-- The dictionary with every value mapped. -/
def map {β : Type} (f : α → β) (d : Dict α) : Dict β :=
  ⟨d.entries.map fun (k, v) => (k, f v), by simpa [List.map_map, Function.comp_def] using d.nodup⟩

end Dict

end DevstackConf
