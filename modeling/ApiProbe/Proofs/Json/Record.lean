import ApiProbe.Proofs.Attempt
import ApiProbe.Proofs.Table.Order
import ApiProbe.Json.Decode

/-!
Decoding of documents that were written. Where every member of a record is written under a key of
its own, each is found again, and the record is there if its members are.
-/
namespace ApiProbe.Json.Decode
open Attempt
variable {α : Type} {members : List Member} {present : Table Json} {pairs : List (String × Json)}
  {key : String} {document : Json} {value : α} {decode : Json → Except Failure α}

theorem under_eq_ok_iff {step : Step} {result : Except Failure α} :
    under step result = .ok value ↔ result = .ok value := by
  cases result <;> simp [under]

/-- A record knows a member and finds nothing wrong with it, or does not know it. -/
def Passes (members : List Member) (entry : String × Json) : Prop :=
  ∀ known, (members.find? fun other => other.key == entry.1) = some known →
    known.check entry.2 = .ok ()

/-- Members with different keys are tested one by one. -/
theorem checkMembers_of_distinct {before : List String} (distinct : (pairs.map Prod.fst).Nodup)
    (apart : ∀ pair ∈ pairs, pair.1 ∉ before) (passes : ∀ pair ∈ pairs, Passes members pair) :
    checkMembers members before pairs = .ok () := by
  induction pairs generalizing before with
  | nil => rfl
  | cons pair rest ih =>
    obtain ⟨key, document⟩ := pair
    obtain ⟨new, distinct⟩ := List.nodup_cons.mp distinct
    obtain ⟨away, apart⟩ := List.forall_mem_cons.mp apart
    obtain ⟨first, passes⟩ := List.forall_mem_cons.mp passes
    rw [checkMembers]
    split
    · rename_i known found
      have unseen : before.contains key = false := by simpa using away
      have later : ∀ pair ∈ rest, pair.1 ∉ key :: before := by
        intro pair member inside
        rcases List.mem_cons.mp inside with same | old
        · exact new (List.mem_map.mpr ⟨pair, member, same⟩)
        · exact apart pair member old
      rw [unseen, first known found]
      exact ih distinct later passes
    · exact ih distinct apart passes

theorem checkPresent_eq_ok_iff : checkPresent members present = .ok () ↔
    ∀ known ∈ members, known.required = true → present.contains known.key = true := by
  unfold checkPresent
  split
  · rename_i missing found
    refine ⟨nofun, fun all => ?_⟩
    have absent := List.find?_some found
    simp only [Bool.and_eq_true, Bool.not_eq_true'] at absent
    rw [all missing (List.mem_of_find?_eq_some found) absent.1] at absent
    cases absent.2
  · rename_i none
    simp only [true_iff]
    intro known member required
    simpa [required] using List.find?_eq_none.mp none known member

theorem lookup_isSome_iff : (pairs.lookup key).isSome = true ↔ key ∈ pairs.map Prod.fst := by
  rw [List.lookup_isSome_iff]
  simp

/-- A record is read from members with different keys, in any order. -/
theorem record_of_distinct (type : String) (distinct : (pairs.map Prod.fst).Nodup)
    (passes : ∀ pair ∈ pairs, Passes members pair)
    (complete : ∀ known ∈ members, known.required = true → known.key ∈ pairs.map Prod.fst) :
    record type members (.obj pairs) = .ok (Table.ofPairs pairs) := by
  have checked : checkMembers members [] pairs = .ok () :=
    checkMembers_of_distinct distinct (fun _ _ => List.not_mem_nil) passes
  have there : checkPresent members (Table.ofPairs pairs) = .ok () := by
    rw [checkPresent_eq_ok_iff]
    intro known member required
    have found := lookup_isSome_iff.mpr (complete known member required)
    rwa [← Table.find?_ofPairs distinct] at found
  simp only [record, checked, there, bind, Except.bind, pure, Except.pure]

section Alone
variable {before after : List (String × Json)}

/-- Members that a record does not know do not matter. -/
theorem checkMembers_unknown (unknown : ∀ pair ∈ before, ∀ known ∈ members, known.key ≠ pair.1)
    (seen : List String) (rest : List (String × Json)) :
    checkMembers members seen (before ++ rest) = checkMembers members seen rest := by
  induction before with
  | nil => rfl
  | cons pair more ih =>
    obtain ⟨first, later⟩ := List.forall_mem_cons.mp unknown
    have nobody : (members.find? fun other => other.key == pair.1) = none :=
      List.find?_eq_none.mpr fun known member => by simp [first known member]
    rw [List.cons_append, checkMembers, nobody]
    exact ih later

/-- A record with one member needs no other one. -/
theorem record_of_alone (type : String) (known : Member) (passes : known.check document = .ok ())
    (apart : ∀ pair ∈ before ++ after, pair.1 ≠ known.key) :
    record type [known] (.obj (before ++ (known.key, document) :: after)) =
      .ok (Table.ofPairs (before ++ (known.key, document) :: after)) := by
  obtain ⟨front, back⟩ := List.forall_mem_append.mp apart
  have unknown {pairs : List (String × Json)} (apart : ∀ pair ∈ pairs, pair.1 ≠ known.key) :
      ∀ pair ∈ pairs, ∀ other ∈ [known], other.key ≠ pair.1 := by
    rintro pair member other inside same
    obtain rfl := List.mem_singleton.mp inside
    exact apart pair member same.symm
  have rest : checkMembers [known] [known.key] after = .ok () := by
    have skipped := checkMembers_unknown (unknown back) [known.key] []
    rwa [List.append_nil] at skipped
  have checked : checkMembers [known] [] (before ++ (known.key, document) :: after) = .ok () := by
    rw [checkMembers_unknown (unknown front), checkMembers]
    simp only [List.find?_cons, beq_self_eq_true, List.contains_nil, Bool.false_eq_true, if_false,
      passes]
    exact rest
  have there : checkPresent [known] (Table.ofPairs (before ++ (known.key, document) :: after)) =
      .ok () := by
    rw [checkPresent_eq_ok_iff]
    intro other member _
    obtain rfl := List.mem_singleton.mp member
    have found := Table.find?_ofPairs_last back before document
    exact congrArg Option.isSome found
  simp only [record, checked, there, bind, Except.bind, pure, Except.pure]

end Alone

theorem get_ofPairs (distinct : (pairs.map Prod.fst).Nodup) (found : pairs.lookup key = some document)
    (decoded : decode document = .ok value) :
    get (Table.ofPairs pairs) key decode = .ok value := by
  rw [get, Table.find?_ofPairs distinct, found]
  exact under_eq_ok_iff.mpr decoded

theorem getOr_ofPairs (distinct : (pairs.map Prod.fst).Nodup)
    (found : pairs.lookup key = some document) (decoded : decode document = .ok value)
    {otherwise : α} : getOr (Table.ofPairs pairs) key decode otherwise = .ok value := by
  rw [getOr, Table.find?_ofPairs distinct, found]
  exact under_eq_ok_iff.mpr decoded

/-- A member that is only written if there is something to say. -/
theorem getOr_optional (distinct : (pairs.map Prod.fst).Nodup) {encode : α → Json} {value : Option α}
    (found : pairs.lookup key = value.map encode)
    (decoded : ∀ inner, optional decode (encode inner) = .ok (some inner)) :
    getOr (Table.ofPairs pairs) key (optional decode) none = .ok value := by
  rw [getOr, Table.find?_ofPairs distinct, found]
  cases value with
  | none => rfl
  | some inner => exact under_eq_ok_iff.mpr (decoded inner)

end ApiProbe.Json.Decode
