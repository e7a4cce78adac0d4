/-!
Tables: finite maps from text keys, kept as lists of pairs in strictly increasing key order. A key
occurs at most once, and listing a table lists its keys in order of their code points.
-/
namespace ApiProbe

abbrev Table (α : Type) := List (String × α)

namespace Table
variable {α β : Type}

/-- Binds a key, replacing the value it had. -/
def insert (key : String) (value : α) : Table α → Table α
  | [] => [(key, value)]
  | (k, v) :: rest =>
    if key = k then (key, value) :: rest
    else if key < k then (key, value) :: (k, v) :: rest
    else (k, v) :: insert key value rest

def find? (table : Table α) (key : String) : Option α := table.lookup key

def contains (table : Table α) (key : String) : Bool := (table.lookup key).isSome

def erase (table : Table α) (key : String) : Table α := table.filter fun entry => entry.1 != key

def keys (table : Table α) : List String := table.map Prod.fst

def values (table : Table α) : List α := table.map Prod.snd

/-- Binds the pairs from left to right, so the last binding of a key stays. -/
def ofPairs (pairs : List (String × α)) : Table α :=
  pairs.foldl (fun table (key, value) => table.insert key value) []

/-- Adds the entries of the second table, which win over those of the first. -/
def union (first second : Table α) : Table α :=
  second.foldl (fun table (key, value) => table.insert key value) first

def mapValues (f : α → β) (table : Table α) : Table β := table.map fun (key, value) => (key, f value)

theorem find?_insert_self (key : String) (value : α) (table : Table α) :
    find? (table.insert key value) key = some value := by
  induction table with
  | nil => simp [insert, find?]
  | cons entry rest ih =>
    obtain ⟨k, v⟩ := entry
    unfold insert
    split
    · simp [find?]
    · split
      · simp [find?]
      · rename_i different _
        have apart : (key == k) = false := beq_eq_false_iff_ne.mpr different
        simpa only [find?, List.lookup_cons, apart] using ih

theorem find?_insert_of_ne {key other : String} (value : α) (table : Table α)
    (different : other ≠ key) : find? (table.insert key value) other = table.find? other := by
  have apart : (other == key) = false := beq_eq_false_iff_ne.mpr different
  induction table with
  | nil => simp [insert, find?, List.lookup_cons, apart]
  | cons entry rest ih =>
    obtain ⟨k, v⟩ := entry
    unfold insert
    split
    · rename_i same
      subst same
      simp [find?, List.lookup_cons, apart]
    · split
      · simp [find?, List.lookup_cons, apart]
      · simp only [find?, List.lookup_cons] at ih ⊢
        cases other == k <;> simp [ih]

theorem mem_values_of_find? {table : Table α} {key : String} {value : α}
    (found : table.find? key = some value) : value ∈ table.values := by
  induction table with
  | nil => exact absurd found (by simp [find?])
  | cons entry rest ih =>
    obtain ⟨k, v⟩ := entry
    simp only [find?, List.lookup_cons] at found ih
    cases same : key == k with
    | true =>
      rw [same] at found
      simp [values, Option.some.inj found]
    | false =>
      rw [same] at found
      exact List.mem_cons_of_mem v (ih found)

theorem mem_values_insert {table : Table α} {key : String} {value other : α}
    (member : other ∈ values (table.insert key value)) : other = value ∨ other ∈ table.values := by
  induction table with
  | nil => simpa [insert, values] using member
  | cons entry rest ih =>
    obtain ⟨k, v⟩ := entry
    simp only [insert, values, List.map_cons, List.mem_cons] at member ih ⊢
    split at member
    · rcases List.mem_cons.mp member with same | old
      · exact .inl same
      · exact .inr (.inr old)
    · split at member
      · simpa only [List.map_cons, List.mem_cons] using member
      · rcases List.mem_cons.mp member with first | later
        · exact .inr (.inl first)
        · rcases ih later with same | old
          · exact .inl same
          · exact .inr (.inr old)

theorem find?_mapValues (f : α → β) (table : Table α) (key : String) :
    (table.mapValues f).find? key = (table.find? key).map f := by
  induction table with
  | nil => rfl
  | cons entry rest ih =>
    obtain ⟨k, v⟩ := entry
    simp only [find?, mapValues, List.map_cons, List.lookup_cons] at ih ⊢
    cases key == k
    · exact ih
    · rfl

theorem mapValues_insert (f : α → β) (key : String) (value : α) (table : Table α) :
    mapValues f (table.insert key value) = (mapValues f table).insert key (f value) := by
  induction table with
  | nil => rfl
  | cons entry rest ih =>
    simp only [mapValues, insert, List.map_cons] at ih ⊢
    split
    · rfl
    · split
      · rfl
      · rw [List.map_cons, ih]

theorem mapValues_erase (f : α → β) (key : String) (table : Table α) :
    mapValues f (table.erase key) = (mapValues f table).erase key := by
  simp only [mapValues, erase, List.filter_map]
  rfl

end Table
end ApiProbe
