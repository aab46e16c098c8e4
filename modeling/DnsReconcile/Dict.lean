/-
# Dictionaries

A finite map whose keys are texts, kept as its entries in strictly increasing key
order. The order is part of the type, so two dictionaries with the same entries
are the same dictionary, and whatever lists one lists it by key.
-/

namespace DnsReconcile

universe u v

/-- A finite map from texts, listed by key. -/
structure Dict (α : Type u) where
  entries : List (String × α)
  sorted : entries.Pairwise fun first second => first.1 < second.1
deriving DecidableEq

namespace Dict

variable {α : Type u} {β : Type v}

/-- The map without entries. -/
def empty : Dict α := ⟨[], List.Pairwise.nil⟩

instance : EmptyCollection (Dict α) := ⟨empty⟩

instance : Inhabited (Dict α) := ⟨empty⟩

/-- Put an entry where its key belongs, in place of an entry with the same key. -/
def insertEntry (key : String) (value : α) : List (String × α) → List (String × α)
  | [] => [(key, value)]
  | entry :: rest =>
      if key < entry.1 then (key, value) :: entry :: rest
      else if key = entry.1 then (key, value) :: rest
      else entry :: insertEntry key value rest

/-- A key of the enlarged list is the new key or an old one. -/
theorem mem_insertEntry {key : String} {value : α} {entries : List (String × α)}
    {entry : String × α} (member : entry ∈ insertEntry key value entries) :
    entry = (key, value) ∨ entry ∈ entries := by
  induction entries with
  | nil => simpa [insertEntry] using member
  | cons head rest ih =>
      unfold insertEntry at member
      split at member
      · simpa using member
      · split at member <;> grind

theorem pairwise_insertEntry (key : String) (value : α) {entries : List (String × α)}
    (sorted : entries.Pairwise fun first second => first.1 < second.1) :
    (insertEntry key value entries).Pairwise fun first second => first.1 < second.1 := by
  induction entries with
  | nil => simp [insertEntry]
  | cons head rest ih =>
      have tail := List.pairwise_cons.1 sorted
      unfold insertEntry
      split
      · refine List.pairwise_cons.2 ⟨fun entry member => ?_, sorted⟩
        rcases List.mem_cons.1 member with rfl | later
        · assumption
        · exact String.lt_trans ‹_› (tail.1 entry later)
      · split
        · next same =>
          exact List.pairwise_cons.2 ⟨fun entry member => same ▸ tail.1 entry member, tail.2⟩
        · refine List.pairwise_cons.2 ⟨fun entry member => ?_, ih tail.2⟩
          rcases mem_insertEntry member with rfl | later
          · grind
          · exact tail.1 entry later

/-- The map with one entry added or replaced. -/
def insert (map : Dict α) (key : String) (value : α) : Dict α :=
  ⟨insertEntry key value map.entries, pairwise_insertEntry key value map.sorted⟩

/-- The value under a key. -/
def get? (map : Dict α) (key : String) : Option α :=
  map.entries.lookup key

/-- Whether the map has an entry under a key. -/
def contains (map : Dict α) (key : String) : Bool :=
  (map.get? key).isSome

/-- The map restricted to the entries that satisfy a condition. -/
def filter (keep : String → α → Bool) (map : Dict α) : Dict α :=
  ⟨map.entries.filter fun entry => keep entry.1 entry.2, map.sorted.filter _⟩

/-- The map without the entry under a key. -/
def erase (map : Dict α) (key : String) : Dict α :=
  map.filter fun other _ => other != key

/-- The map with every value replaced. -/
def mapValues (f : α → β) (map : Dict α) : Dict β :=
  ⟨map.entries.map fun entry => (entry.1, f entry.2),
    List.pairwise_map.2 map.sorted⟩

/-- The map that holds the listed entries; of several with one key the last. -/
def ofList (entries : List (String × α)) : Dict α :=
  entries.foldl (fun map entry => map.insert entry.1 entry.2) empty

/-- The keys in order. -/
def keys (map : Dict α) : List String :=
  map.entries.map (·.1)

/-- The values in key order. -/
def values (map : Dict α) : List α :=
  map.entries.map (·.2)

/-- Whether the map has no entries. -/
def isEmpty (map : Dict α) : Bool :=
  map.entries.isEmpty

@[simp] theorem insert_entries (map : Dict α) (key : String) (value : α) :
    (map.insert key value).entries = insertEntry key value map.entries := rfl

@[simp] theorem filter_entries (keep : String → α → Bool) (map : Dict α) :
    (map.filter keep).entries = map.entries.filter fun entry => keep entry.1 entry.2 := rfl

/-- The first entry answers for its key, the others for all other keys. -/
theorem lookup_cons_ite (key : String) (entry : String × α) (rest : List (String × α)) :
    (entry :: rest).lookup key = if key = entry.1 then some entry.2 else rest.lookup key := by
  obtain ⟨own, value⟩ := entry
  by_cases same : key = own
  · simp [same]
  · simp [List.lookup_cons, same, beq_false_of_ne same]

theorem lookup_insertEntry (key : String) (value : α) (entries : List (String × α))
    (other : String) :
    (insertEntry key value entries).lookup other =
      if other = key then some value else entries.lookup other := by
  induction entries with
  | nil => simp [insertEntry, lookup_cons_ite]
  | cons head rest ih =>
      unfold insertEntry
      split
      · simp [lookup_cons_ite]
      · split <;> simp only [lookup_cons_ite, ih] <;> grind

/-- Reading back after a change: the new value under its key, the old ones elsewhere. -/
@[simp] theorem get?_insert (map : Dict α) (key : String) (value : α) (other : String) :
    (map.insert key value).get? other = if other = key then some value else map.get? other :=
  lookup_insertEntry key value map.entries other

/-- Replacing the values of a list of entries replaces what is found. -/
theorem lookup_map_value (f : α → β) (entries : List (String × α)) (key : String) :
    (entries.map fun entry => (entry.1, f entry.2)).lookup key = (entries.lookup key).map f := by
  induction entries with
  | nil => rfl
  | cons entry rest ih =>
      rw [List.map_cons, lookup_cons_ite, lookup_cons_ite, ih]
      split <;> rfl

@[simp] theorem get?_mapValues (f : α → β) (map : Dict α) (key : String) :
    (map.mapValues f).get? key = (map.get? key).map f :=
  lookup_map_value f map.entries key

/-- Every entry is found under its key. -/
theorem get?_of_mem {map : Dict α} {entry : String × α} (member : entry ∈ map.entries) :
    map.get? entry.1 = some entry.2 := by
  obtain ⟨entries, sorted⟩ := map
  show entries.lookup entry.1 = some entry.2
  induction entries with
  | nil => exact absurd member List.not_mem_nil
  | cons head rest ih =>
      obtain ⟨behind, sorted'⟩ := List.pairwise_cons.1 sorted
      rw [lookup_cons_ite]
      rcases List.mem_cons.1 member with rfl | later
      · rw [if_pos rfl]
      · have apart : entry.1 ≠ head.1 := fun same =>
          String.lt_irrefl head.1 (same ▸ behind entry later)
        rw [if_neg apart]
        exact ih sorted' later

theorem lookup_filter_ne (key : String) (entries : List (String × α)) (other : String) :
    (entries.filter fun entry => entry.1 != key).lookup other =
      if other = key then none else entries.lookup other := by
  induction entries with
  | nil => simp
  | cons entry rest ih =>
      rw [List.filter_cons, lookup_cons_ite]
      by_cases own : entry.1 = key
      · rw [if_neg (by simp [own]), ih, own]
        by_cases same : other = key <;> simp [same]
      · rw [if_pos (by simp [own]), lookup_cons_ite, ih]
        by_cases same : other = key <;> grind

/-- Nothing is found under the key of an entry that was taken out. -/
@[simp] theorem get?_erase (map : Dict α) (key other : String) :
    (map.erase key).get? other = if other = key then none else map.get? other :=
  lookup_filter_ne key map.entries other

@[simp] theorem get?_empty (key : String) : (empty : Dict α).get? key = none := rfl

end Dict

end DnsReconcile
