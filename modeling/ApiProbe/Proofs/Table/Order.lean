import ApiProbe.Table

/-!
Tables in key order. A table that is built up from nothing has its keys in strictly increasing order,
whatever is bound and erased in it, and the entries of such a table are what can be found in it.
-/
namespace ApiProbe.Table
variable {α : Type} {table : Table α} {key other : String} {value : α}

/-- Keys stand in strictly increasing order, so none of them stands there twice. -/
def Ordered (table : Table α) : Prop := table.Pairwise fun first second => first.1 < second.1

theorem ordered_nil : Ordered ([] : Table α) := .nil

theorem mem_insert {entry : String × α} (member : entry ∈ table.insert key value) :
    entry = (key, value) ∨ entry ∈ table := by
  induction table with
  | nil => simpa [insert] using member
  | cons first rest ih =>
    obtain ⟨k, v⟩ := first
    unfold insert at member
    split at member
    · rcases List.mem_cons.mp member with new | old
      · exact .inl new
      · exact .inr (List.mem_cons_of_mem _ old)
    · split at member
      · exact List.mem_cons.mp member
      · rcases List.mem_cons.mp member with same | later
        · exact .inr (by rw [same]; exact List.mem_cons_self)
        · rcases ih later with new | old
          · exact .inl new
          · exact .inr (List.mem_cons_of_mem _ old)

theorem ordered_insert (key : String) (value : α) (ordered : Ordered table) :
    Ordered (table.insert key value) := by
  induction table with
  | nil => exact List.pairwise_singleton _ _
  | cons first rest ih =>
    obtain ⟨k, v⟩ := first
    obtain ⟨below, later⟩ := List.pairwise_cons.mp ordered
    unfold insert
    split
    · rename_i same
      subst same
      exact List.pairwise_cons.mpr ⟨below, later⟩
    · rename_i different
      split
      · rename_i smaller
        refine List.pairwise_cons.mpr ⟨fun entry member => ?_, ordered⟩
        rcases List.mem_cons.mp member with same | inside
        · rw [same]
          exact smaller
        · exact String.lt_trans smaller (below entry inside)
      · rename_i notSmaller
        refine List.pairwise_cons.mpr ⟨fun entry member => ?_, ih later⟩
        rcases mem_insert member with new | inside
        · have greater : k < key := by
            by_cases above : key ≤ k
            · exact absurd (String.le_antisymm above (String.not_lt.mp notSmaller)) different
            · exact String.not_le.mp above
          rw [new]
          exact greater
        · exact below entry inside

theorem ordered_erase (key : String) (ordered : Ordered table) : Ordered (table.erase key) :=
  List.Pairwise.filter _ ordered

@[simp] theorem find?_erase_self (key : String) (table : Table α) :
    find? (table.erase key) key = none := by
  induction table with
  | nil => rfl
  | cons first rest ih =>
    obtain ⟨k, v⟩ := first
    simp only [find?, erase, List.filter_cons] at ih ⊢
    split
    · rename_i different
      have apart : (key == k) = false := by
        rw [beq_eq_false_iff_ne]
        exact fun same => by simp [same] at different
      simpa only [List.lookup_cons, apart] using ih
    · exact ih

theorem find?_erase_of_ne (table : Table α) (different : other ≠ key) :
    find? (table.erase key) other = table.find? other := by
  induction table with
  | nil => rfl
  | cons first rest ih =>
    obtain ⟨k, v⟩ := first
    simp only [find?, erase, List.filter_cons, List.lookup_cons] at ih ⊢
    split
    · rw [List.lookup_cons, ih]
    · rename_i same
      have apart : (other == k) = false := by
        rw [beq_eq_false_iff_ne]
        exact fun equal => different (equal.trans (by simpa using same))
      rw [apart]
      exact ih

theorem mem_of_find? (found : table.find? key = some value) : (key, value) ∈ table := by
  induction table with
  | nil => simp [find?] at found
  | cons first rest ih =>
    obtain ⟨k, v⟩ := first
    simp only [find?, List.lookup_cons] at found ih
    cases same : key == k with
    | true =>
      rw [same] at found
      obtain rfl : v = value := Option.some.inj found
      obtain rfl : key = k := eq_of_beq same
      exact List.mem_cons_self
    | false =>
      rw [same] at found
      exact List.mem_cons_of_mem _ (ih found)

/-- What stands in a table in key order is what is found there. -/
theorem find?_eq_some_iff (ordered : Ordered table) :
    table.find? key = some value ↔ (key, value) ∈ table := by
  refine ⟨mem_of_find?, fun member => ?_⟩
  induction table with
  | nil => cases member
  | cons first rest ih =>
    obtain ⟨k, v⟩ := first
    obtain ⟨below, later⟩ := List.pairwise_cons.mp ordered
    simp only [find?, List.lookup_cons] at ih ⊢
    rcases List.mem_cons.mp member with same | inside
    · cases same
      simp
    · have smaller : k < key := below (key, value) inside
      have apart : (key == k) = false := by
        rw [beq_eq_false_iff_ne]
        rintro rfl
        exact String.lt_irrefl key smaller
      rw [apart]
      exact ih later inside

theorem mem_keys_iff (ordered : Ordered table) :
    key ∈ table.keys ↔ ∃ value, table.find? key = some value := by
  simp only [find?_eq_some_iff ordered, keys, List.mem_map]
  constructor
  · rintro ⟨⟨k, value⟩, member, rfl⟩
    exact ⟨value, member⟩
  · rintro ⟨value, member⟩
    exact ⟨(key, value), member, rfl⟩

theorem mem_values_iff (ordered : Ordered table) :
    value ∈ table.values ↔ ∃ key, table.find? key = some value := by
  simp only [find?_eq_some_iff ordered, values, List.mem_map]
  constructor
  · rintro ⟨⟨key, v⟩, member, rfl⟩
    exact ⟨key, member⟩
  · rintro ⟨key, member⟩
    exact ⟨(key, value), member, rfl⟩

theorem mem_union {pairs : List (String × α)} {entry : String × α} (member : entry ∈ table.union pairs) :
    entry ∈ pairs ∨ entry ∈ table := by
  induction pairs generalizing table with
  | nil => exact .inr member
  | cons first rest ih =>
    rcases ih member with later | before
    · exact .inl (List.mem_cons_of_mem _ later)
    · rcases mem_insert before with same | old
      · exact .inl (same ▸ List.mem_cons_self)
      · exact .inr old

theorem ordered_union (ordered : Ordered table) (pairs : List (String × α)) :
    Ordered (table.union pairs) := by
  induction pairs generalizing table with
  | nil => exact ordered
  | cons pair rest ih => exact ih (ordered_insert pair.1 pair.2 ordered)

/-- Of pairs with different keys each can be found, in front of what was bound before. -/
theorem find?_union {pairs : List (String × α)} (distinct : (pairs.map Prod.fst).Nodup)
    (table : Table α) (key : String) :
    (table.union pairs).find? key = (pairs.lookup key).or (table.find? key) := by
  induction pairs generalizing table with
  | nil => rfl
  | cons first rest ih =>
    obtain ⟨k, v⟩ := first
    obtain ⟨new, distinct⟩ := List.nodup_cons.mp distinct
    change (Table.union (table.insert k v) rest).find? key = _
    rw [ih distinct, List.lookup_cons]
    cases same : key == k with
    | true =>
      obtain rfl : key = k := eq_of_beq same
      have gone : rest.lookup key = none := by
        rw [List.lookup_eq_none_iff]
        intro pair member
        rw [bne_iff_ne]
        exact fun same => new (List.mem_map.mpr ⟨pair, member, same.symm⟩)
      rw [gone, find?_insert_self]
      rfl
    | false => rw [find?_insert_of_ne v table (ne_of_beq_false same)]

/-- Pairs in any order make a table in key order. -/
theorem ordered_ofPairs (pairs : List (String × α)) : Ordered (ofPairs pairs) :=
  ordered_union ordered_nil pairs

theorem mem_ofPairs {pairs : List (String × α)} {entry : String × α}
    (member : entry ∈ ofPairs pairs) : entry ∈ pairs :=
  (mem_union member).resolve_right List.not_mem_nil

theorem find?_ofPairs {pairs : List (String × α)} (distinct : (pairs.map Prod.fst).Nodup)
    (key : String) : (ofPairs pairs).find? key = pairs.lookup key := by
  change (Table.union [] pairs).find? key = _
  rw [find?_union distinct]
  exact Option.or_none

/-- Pairs with other keys leave what is found under a key. -/
theorem find?_union_of_absent {pairs : List (String × α)} (absent : ∀ pair ∈ pairs, pair.1 ≠ key)
    (table : Table α) : (table.union pairs).find? key = table.find? key := by
  induction pairs generalizing table with
  | nil => rfl
  | cons first rest ih =>
    obtain ⟨other, later⟩ := List.forall_mem_cons.mp absent
    change (Table.union (table.insert first.1 first.2) rest).find? key = _
    rw [ih later, find?_insert_of_ne _ _ (Ne.symm other)]

/-- The last value that is bound to a key stays. -/
theorem find?_ofPairs_last {after : List (String × α)} (absent : ∀ pair ∈ after, pair.1 ≠ key)
    (before : List (String × α)) (value : α) :
    (ofPairs (before ++ (key, value) :: after)).find? key = some value := by
  rw [ofPairs, List.foldl_append]
  exact (find?_union_of_absent absent _).trans (find?_insert_self key value _)

theorem pairwise_keys (ordered : Ordered table) : table.keys.Pairwise (· < ·) :=
  List.pairwise_map.mpr ordered

end ApiProbe.Table
