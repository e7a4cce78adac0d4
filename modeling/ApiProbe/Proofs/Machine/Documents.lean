import ApiProbe.Machine.Value
import ApiProbe.Proofs.Decimal.Worth

/-!
Documents that become values of a script and documents again. Whole floating-point numbers of safe size
come out as integers, and integers beyond 64 bits come out as floating-point numbers; all else comes out as
it went in.
-/
namespace ApiProbe.Json
open Machine (Value)

mutual

/-- A document with whole floating-point numbers of safe size as integers. -/
def reported : Json → Json
  | .float x => Value.floatJson x
  | .arr items => .arr (reportedItems items)
  | .obj members => .obj (reportedMembers members)
  | other => other

def reportedItems : List Json → List Json
  | [] => []
  | item :: rest => item.reported :: reportedItems rest

def reportedMembers : List (String × Json) → List (String × Json)
  | [] => []
  | (key, value) :: rest => (key, value.reported) :: reportedMembers rest

end

mutual

/-- No integer of the document is beyond 64 bits with a sign. -/
def inRange : Json → Bool
  | .int n => Decimal.fits64 n
  | .arr items => itemsInRange items
  | .obj members => membersInRange members
  | _ => true

def itemsInRange : List Json → Bool
  | [] => true
  | item :: rest => item.inRange && itemsInRange rest

def membersInRange : List (String × Json) → Bool
  | [] => true
  | (_, value) :: rest => value.inRange && membersInRange rest

end

/-- Only floating-point numbers of safe size become integers. -/
theorem natAbs_of_floatJson {x : Float} {n : Int} (whole : Value.floatJson x = .int n) :
    n.natAbs ≤ Value.safeInteger := by
  unfold Value.floatJson at whole
  dsimp only at whole
  split at whole
  · rename_i m _
    split at whole
    · rename_i small
      cases whole
      exact small
    · cases whole
  · split at whole <;> cases whole

mutual

/-- A document comes through the values of scripts as it is reported, apart from integers too large. -/
theorem toJson_ofJson_iff (document : Json) :
    (Value.ofJson document).toJson = document.reported ↔ document.inRange = true := by
  cases document with
  | int n =>
    simp only [Value.ofJson, reported, inRange]
    by_cases fits : Decimal.fits64 n = true
    · rw [if_pos fits]
      exact iff_of_true rfl fits
    · rw [if_neg fits]
      refine iff_of_false (fun whole => fits ?_) fits
      have small : n.natAbs ≤ 9007199254740991 := natAbs_of_floatJson whole
      rw [Decimal.fits64, Bool.and_eq_true, decide_eq_true_eq, decide_eq_true_eq, Decimal.int64Min,
        Decimal.int64Max]
      omega
  | arr items => simp [Value.ofJson, Value.toJson, reported, inRange, toJsonItems_iff items]
  | obj members => simp [Value.ofJson, Value.toJson, reported, inRange, toJsonMembers_iff members]
  | _ => simp [Value.ofJson, Value.toJson, reported, inRange]

theorem toJsonItems_iff (items : List Json) :
    Value.toJsonItems (Value.ofJsonItems items) = reportedItems items ↔ itemsInRange items = true := by
  cases items with
  | nil => simp [Value.ofJsonItems, Value.toJsonItems, reportedItems, itemsInRange]
  | cons item rest =>
    simp [Value.ofJsonItems, Value.toJsonItems, reportedItems, itemsInRange, toJson_ofJson_iff item,
      toJsonItems_iff rest]

theorem toJsonMembers_iff (members : List (String × Json)) :
    Value.toJsonMembers (Value.ofJsonMembers members) = reportedMembers members ↔
      membersInRange members = true := by
  cases members with
  | nil => simp [Value.ofJsonMembers, Value.toJsonMembers, reportedMembers, membersInRange]
  | cons member rest =>
    obtain ⟨key, value⟩ := member
    simp [Value.ofJsonMembers, Value.toJsonMembers, reportedMembers, membersInRange, toJson_ofJson_iff value,
      toJsonMembers_iff rest]

end

/-!
### There and back

If its integers are of 64 bits and its other numbers finite, a document that comes back from a script is
as it was, except that whole floating-point numbers of safe size have become integers; once they have,
nothing changes any more.
-/

/-- A floating-point number whose value is an integer of safe size stands as that integer. -/
def normalNumber (x : Float) : Json :=
  match (Exact.ofFloat x).value? with
  | some value => if value.den = 1 ∧ value.num.natAbs ≤ 2 ^ 53 - 1 then .int value.num else .float x
  | none => .float x

mutual

/-- A document in which every floating-point number stands in its normal form. -/
def normal : Json → Json
  | .float x => normalNumber x
  | .arr items => .arr (normalItems items)
  | .obj members => .obj (normalMembers members)
  | other => other

def normalItems : List Json → List Json
  | [] => []
  | item :: rest => item.normal :: normalItems rest

def normalMembers : List (String × Json) → List (String × Json)
  | [] => []
  | (key, value) :: rest => (key, value.normal) :: normalMembers rest

end

mutual

/-- Every floating-point number of the document is finite. -/
def isFinite : Json → Bool
  | .float x => (Exact.ofFloat x).isFinite
  | .arr items => itemsFinite items
  | .obj members => membersFinite members
  | _ => true

def itemsFinite : List Json → Bool
  | [] => true
  | item :: rest => item.isFinite && itemsFinite rest

def membersFinite : List (String × Json) → Bool
  | [] => true
  | (_, value) :: rest => value.isFinite && membersFinite rest

end

section Numbers
variable {x : Float}

/-- A number becomes an integer of safe size, stays as it is or is lost. -/
theorem floatJson_cases (x : Float) :
    (∃ n : Int, n.natAbs ≤ Value.safeInteger ∧ Value.floatJson x = .int n) ∨
      Value.floatJson x = .float x ∨ Value.floatJson x = .null := by
  unfold Value.floatJson
  dsimp only
  split
  · rename_i n whole
    by_cases small : n.natAbs ≤ Value.safeInteger
    · exact .inl ⟨n, small, if_pos small⟩
    · exact .inr (.inl (if_neg small))
  · split
    · exact .inr (.inl rfl)
    · exact .inr (.inr rfl)

/-- Scripts report a finite number in its normal form. -/
theorem floatJson_eq_normalNumber (finite : (Exact.ofFloat x).isFinite = true) :
    Value.floatJson x = normalNumber x := by
  obtain ⟨value, worth⟩ : ∃ value, (Exact.ofFloat x).value? = some value := by
    rw [← Exact.isSome_value?] at finite
    exact Option.isSome_iff_exists.mp finite
  unfold Value.floatJson normalNumber
  simp only [worth]
  cases read : (Exact.ofFloat x).toInt? with
  | some n =>
    have whole := Exact.toInt?_eq_some_iff.mp read
    obtain rfl : value = n := Option.some.inj (worth.symm.trans whole)
    by_cases small : n.natAbs ≤ 2 ^ 53 - 1
    · exact (if_pos small).trans (if_pos ⟨Rat.den_intCast n, small⟩).symm
    · exact (if_neg small).trans (if_neg fun both => small both.2).symm
  | none =>
    have fraction : value.den ≠ 1 := by
      intro one
      have whole : (Exact.ofFloat x).toInt? = some value.num := by
        rw [Exact.toInt?_eq_some_iff, worth, Rat.den_eq_one_iff value |>.mp one]
      rw [read] at whole
      cases whole
    simp [finite, fraction]

theorem fits64_of_safe {n : Int} (small : n.natAbs ≤ Value.safeInteger) :
    Decimal.fits64 n = true := by
  rw [Value.safeInteger] at small
  rw [Decimal.fits64, Bool.and_eq_true, decide_eq_true_eq, decide_eq_true_eq, Decimal.int64Min,
    Decimal.int64Max]
  omega

/-- A number that has come back once comes back as it is. -/
theorem toJson_ofJson_floatJson (x : Float) :
    (Value.ofJson (Value.floatJson x)).toJson = Value.floatJson x := by
  rcases floatJson_cases x with ⟨n, small, whole⟩ | kept | lost
  · rw [whole, Value.ofJson, if_pos (fits64_of_safe small)]
    rfl
  · rw [kept]
    exact kept
  · rw [lost]
    rfl

end Numbers

mutual

theorem reported_eq_normal {document : Json} (finite : document.isFinite = true) :
    document.reported = document.normal := by
  cases document with
  | float x =>
    rw [isFinite] at finite
    exact floatJson_eq_normalNumber finite
  | arr items =>
    rw [isFinite] at finite
    rw [reported, normal, reportedItems_eq_normal finite]
  | obj members =>
    rw [isFinite] at finite
    rw [reported, normal, reportedMembers_eq_normal finite]
  | _ => rfl

theorem reportedItems_eq_normal {items : List Json} (finite : itemsFinite items = true) :
    reportedItems items = normalItems items := by
  cases items with
  | nil => rfl
  | cons item rest =>
    rw [itemsFinite, Bool.and_eq_true] at finite
    rw [reportedItems, normalItems, reported_eq_normal finite.1, reportedItems_eq_normal finite.2]

theorem reportedMembers_eq_normal {members : List (String × Json)}
    (finite : membersFinite members = true) : reportedMembers members = normalMembers members := by
  cases members with
  | nil => rfl
  | cons member rest =>
    obtain ⟨key, value⟩ := member
    rw [membersFinite, Bool.and_eq_true] at finite
    rw [reportedMembers, normalMembers, reported_eq_normal finite.1,
      reportedMembers_eq_normal finite.2]

end

mutual

/-- A document that has come back once comes back as it is. -/
theorem toJson_ofJson_reported {document : Json} (inRange : document.inRange = true) :
    (Value.ofJson document.reported).toJson = document.reported := by
  cases document with
  | int n =>
    rw [Json.inRange] at inRange
    rw [reported, Value.ofJson, if_pos inRange]
    · rfl
    all_goals nofun
  | float x => exact toJson_ofJson_floatJson x
  | arr items =>
    rw [Json.inRange] at inRange
    rw [reported, Value.ofJson, Value.toJson, toJsonItems_reported inRange]
  | obj members =>
    rw [Json.inRange] at inRange
    rw [reported, Value.ofJson, Value.toJson, toJsonMembers_reported inRange]
  | _ => rfl

theorem toJsonItems_reported {items : List Json} (inRange : itemsInRange items = true) :
    Value.toJsonItems (Value.ofJsonItems (reportedItems items)) = reportedItems items := by
  cases items with
  | nil => rfl
  | cons item rest =>
    rw [itemsInRange, Bool.and_eq_true] at inRange
    rw [reportedItems, Value.ofJsonItems, Value.toJsonItems, toJson_ofJson_reported inRange.1,
      toJsonItems_reported inRange.2]

theorem toJsonMembers_reported {members : List (String × Json)}
    (inRange : membersInRange members = true) :
    Value.toJsonMembers (Value.ofJsonMembers (reportedMembers members)) = reportedMembers members := by
  cases members with
  | nil => rfl
  | cons member rest =>
    obtain ⟨key, value⟩ := member
    rw [membersInRange, Bool.and_eq_true] at inRange
    rw [reportedMembers, Value.ofJsonMembers, Value.toJsonMembers, toJson_ofJson_reported inRange.1,
      toJsonMembers_reported inRange.2]

end

/-- A document with integers of 64 bits and finite numbers comes back from a script in its normal form,
and a second time as it has come back. -/
theorem comes_back {document : Json} (inRange : document.inRange = true)
    (finite : document.isFinite = true) :
    (Value.ofJson document).toJson = document.normal ∧
      (Value.ofJson (Value.ofJson document).toJson).toJson = (Value.ofJson document).toJson := by
  have once := (toJson_ofJson_iff document).mpr inRange
  constructor
  · rw [once, reported_eq_normal finite]
  · rw [once, toJson_ofJson_reported inRange]

/-- Integers at the ends of 64 bits, whole numbers up to `2 ^ 53` and others, at several depths. -/
theorem comes_back_numbers :
    let document : Json := .obj [
      ("ids", .arr [.int (-9223372036854775808), .int 9223372036854775807, .null]),
      ("whole", .arr [.float 7.0, .float (-0.0), .float (-9007199254740991.0)]),
      ("other", .obj [("half", .float 0.5), ("large", .float 9007199254740992.0)])]
    document.inRange = true ∧ document.isFinite = true ∧
      document.normal = .obj [
        ("ids", .arr [.int (-9223372036854775808), .int 9223372036854775807, .null]),
        ("whole", .arr [.int 7, .int 0, .int (-9007199254740991)]),
        ("other", .obj [("half", .float 0.5), ("large", .float 9007199254740992.0)])] := by
  intro document
  have inRange : document.inRange = true := by decide
  have finite : document.isFinite = true := by decide
  have zero : Value.floatJson (-0.0) = .int 0 := by
    have whole : (Exact.ofFloat (-0.0)).toInt? = some 0 := by decide +kernel
    simp only [Value.floatJson, whole]
    rfl
  refine ⟨inRange, finite, (comes_back inRange finite).1.symm.trans ?_⟩
  simp only [document, Value.ofJson, Value.ofJsonMembers, Value.ofJsonItems, Value.toJson,
    Value.toJsonMembers, Value.toJsonItems, zero]
  rfl

end ApiProbe.Json
