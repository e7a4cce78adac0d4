import ApiProbe.Proofs.Machine.Negation

/-!
Kinds of values with equal contents. Contents are compared as documents, and documents keep the kinds of
values apart, with one exception: numbers that are not finite are null there, as the unit is. So values
with equal contents have parts in the same places, and what stands at a place is of the same kind on both
sides unless it is such a number on one side and the unit on the other.
-/
namespace ApiProbe

/-- Kind of a document in the words of script authors. -/
def Json.scriptKind : Json → String
  | .null => "undefined"
  | .bool _ => "boolean"
  | .int _ | .float _ => "number"
  | .str _ => "string"
  | .arr _ => "array"
  | .obj _ => "object"

theorem Json.scriptKind_of_same {a b : Json} (same : a.same b = true) :
    a.scriptKind = b.scriptKind := by
  cases a <;> cases b <;> first | rfl | simp [Json.same] at same

namespace Machine

/-- A value that is data through and through: no range, no function and nothing of the host. -/
inductive Value.IsData : Value → Prop
  | unit : IsData .unit
  | bool (value : Bool) : IsData (.bool value)
  | int (value : Int) : IsData (.int value)
  | float (value : Float) : IsData (.float value)
  | char (value : Char) : IsData (.char value)
  | str (value : String) : IsData (.str value)
  | list {items : List Value} (each : ∀ item ∈ items, IsData item) : IsData (.list items)
  | record {members : List (String × Value)} (each : ∀ member ∈ members, IsData member.2) :
    IsData (.record members)

namespace Value

/-- From a list to an item of it, or from a record to a member. -/
inductive Step
  | item (place : Nat)
  | member (key : String)

def child? (value : Value) (step : Step) : Option Value :=
  match value, step with
  | .list items, .item place => items[place]?
  | .record members, .member key => Table.find? members key
  | _, _ => none

/-- What stands at a place inside of a value. -/
def at? (value : Value) : List Step → Option Value
  | [] => some value
  | step :: rest => (value.child? step).bind fun child => child.at? rest

/-- A number that is not finite, for which documents have no form. -/
def isLost : Value → Bool
  | .float x => !(Exact.ofFloat x).isFinite
  | _ => false

/-- Two values of different kinds that are the same in a document. -/
inductive Confused : Value → Value → Prop
  | unitLeft {number : Value} (lost : number.isLost = true) : Confused .unit number
  | unitRight {number : Value} (lost : number.isLost = true) : Confused number .unit

/-- Kind of the document that a value stands for. -/
def documentKind (value : Value) : String :=
  if value.isLost then "undefined" else value.scriptKind

section Kind
variable {value : Value}

theorem isFinite_of_toInt? {x : Exact} {n : Int} (whole : x.toInt? = some n) : x.isFinite = true := by
  cases x with
  | finite negative mantissa exponent => rfl
  | _ => cases whole

theorem scriptKind_floatJson (x : Float) : (floatJson x).scriptKind = (float x).documentKind := by
  by_cases finite : (Exact.ofFloat x).isFinite = true
  · have kept : (float x).isLost = false := by simp [isLost, finite]
    rw [documentKind, kept, floatJson]
    split
    · split <;> rfl
    · rw [if_pos finite]
      rfl
  · have lost : (float x).isLost = true := by simp [isLost, finite]
    rw [documentKind, lost, floatJson]
    split
    · rename_i n whole
      exact absurd (isFinite_of_toInt? whole) finite
    · rw [if_neg finite]
      rfl

theorem scriptKind_toJson (data : value.IsData) : value.toJson.scriptKind = value.documentKind := by
  cases data with
  | float x => exact scriptKind_floatJson x
  | _ => rfl

theorem scriptKind_of_isLost (lost : value.isLost = true) : value.scriptKind = "number" := by
  cases value <;> first | rfl | cases lost

theorem eq_unit_of_scriptKind (kind : value.scriptKind = "undefined") : value = .unit := by
  cases value <;> first | rfl | simp [scriptKind] at kind

theorem scriptKind_of_documentKind {kind : String} (is : value.documentKind = kind)
    (other : kind ≠ "undefined") : value.scriptKind = kind := by
  unfold documentKind at is
  split at is
  · exact absurd is.symm other
  · exact is

theorem exists_list (kind : value.documentKind = "array") : ∃ items, value = .list items := by
  have kind := scriptKind_of_documentKind kind (by decide)
  cases value with
  | list items => exact ⟨items, rfl⟩
  | _ => simp [scriptKind] at kind

theorem exists_record (data : value.IsData) (kind : value.documentKind = "object") :
    ∃ members, value = .record members := by
  have kind := scriptKind_of_documentKind kind (by decide)
  cases data with
  | @record members _ => exact ⟨members, rfl⟩
  | _ => simp [scriptKind] at kind

/-- Only lists and records have parts. -/
theorem child?_eq_none (noList : value.documentKind ≠ "array")
    (noRecord : value.documentKind ≠ "object") (step : Step) : value.child? step = none := by
  cases value with
  | list items => exact absurd rfl noList
  | record members => exact absurd rfl noRecord
  | _ => rfl

end Kind

/-- Data that stands for the same document. -/
structure Alike (a b : Value) : Prop where
  left : a.IsData
  right : b.IsData
  same : a.toJson.same b.toJson = true

namespace Alike
variable {a b : Value}

theorem documentKind (alike : Alike a b) : a.documentKind = b.documentKind := by
  calc a.documentKind
    _ = a.toJson.scriptKind := (scriptKind_toJson alike.left).symm
    _ = b.toJson.scriptKind := Json.scriptKind_of_same alike.same
    _ = b.documentKind := scriptKind_toJson alike.right

/-- The unit and the numbers that are not finite are all that documents mix up. -/
theorem scriptKind_iff (alike : Alike a b) : a.scriptKind = b.scriptKind ↔ ¬Confused a b := by
  have kinds := alike.documentKind
  unfold Value.documentKind at kinds
  constructor
  · intro agree confused
    cases confused with
    | unitLeft lost =>
      rw [scriptKind_of_isLost lost] at agree
      exact absurd agree (by decide)
    | unitRight lost =>
      rw [scriptKind_of_isLost lost] at agree
      exact absurd agree (by decide)
  · intro clear
    by_cases first : a.isLost = true <;> by_cases second : b.isLost = true
    · rw [scriptKind_of_isLost first, scriptKind_of_isLost second]
    · rw [if_pos first, if_neg second] at kinds
      obtain rfl := eq_unit_of_scriptKind kinds.symm
      exact absurd (.unitRight first) clear
    · rw [if_neg first, if_pos second] at kinds
      obtain rfl := eq_unit_of_scriptKind kinds
      exact absurd (.unitLeft second) clear
    · rwa [if_neg first, if_neg second] at kinds

theorem getElem? {items others : List Value} (left : ∀ item ∈ items, item.IsData)
    (right : ∀ item ∈ others, item.IsData)
    (same : Json.sameItems (toJsonItems items) (toJsonItems others) = true) (place : Nat) :
    Option.Rel Alike items[place]? others[place]? := by
  induction items generalizing others place with
  | nil =>
    cases others with
    | nil => exact .none
    | cons other others => cases same
  | cons item items ih =>
    cases others with
    | nil => cases same
    | cons other others =>
      rw [toJsonItems, toJsonItems, Json.sameItems, Bool.and_eq_true] at same
      cases place with
      | zero => exact .some ⟨left item List.mem_cons_self, right other List.mem_cons_self, same.1⟩
      | succ place =>
        exact ih (fun item member => left item (.tail _ member))
          (fun item member => right item (.tail _ member)) same.2 place

theorem find? {members others : List (String × Value)} (left : ∀ member ∈ members, member.2.IsData)
    (right : ∀ member ∈ others, member.2.IsData)
    (same : Json.sameMembers (toJsonMembers members) (toJsonMembers others) = true) (key : String) :
    Option.Rel Alike (Table.find? members key) (Table.find? others key) := by
  induction members generalizing others with
  | nil =>
    cases others with
    | nil => exact .none
    | cons other others => cases same
  | cons member members ih =>
    cases others with
    | nil => cases same
    | cons other others =>
      obtain ⟨name, value⟩ := member
      obtain ⟨label, second⟩ := other
      rw [toJsonMembers, toJsonMembers, Json.sameMembers, Bool.and_eq_true, Bool.and_eq_true,
        beq_iff_eq] at same
      obtain ⟨⟨rfl, first⟩, rest⟩ := same
      have others := ih (fun member inside => left member (.tail _ inside))
        (fun member inside => right member (.tail _ inside)) rest
      simp only [Table.find?, List.lookup_cons] at others ⊢
      cases key == name with
      | true => exact .some ⟨left _ List.mem_cons_self, right _ List.mem_cons_self, first⟩
      | false => exact others

/-- Of two values that stand for the same document either both have a part in a place, and these stand
for the same document again, or neither has. -/
theorem child? (alike : Alike a b) (step : Step) : Option.Rel Alike (a.child? step) (b.child? step) := by
  have kinds := alike.documentKind
  obtain ⟨left, right, same⟩ := alike
  by_cases list : a.documentKind = "array"
  · obtain ⟨items, rfl⟩ := exists_list list
    obtain ⟨others, rfl⟩ := exists_list (kinds ▸ list)
    cases left with | list first =>
    cases right with | list second =>
    cases step with
    | item place => exact getElem? first second same place
    | member key => exact .none
  · by_cases record : a.documentKind = "object"
    · obtain ⟨members, rfl⟩ := exists_record left record
      obtain ⟨others, rfl⟩ := exists_record right (kinds ▸ record)
      cases left with | record first =>
      cases right with | record second =>
      cases step with
      | item place => exact .none
      | member key => exact find? first second same key
    · rw [child?_eq_none list record, child?_eq_none (kinds ▸ list) (kinds ▸ record)]
      exact .none

theorem at? (alike : Alike a b) (path : List Step) : Option.Rel Alike (a.at? path) (b.at? path) := by
  induction path generalizing a b with
  | nil => exact .some alike
  | cons step rest ih =>
    have parts := alike.child? step
    rw [Value.at?, Value.at?]
    generalize a.child? step = first, b.child? step = second at parts ⊢
    cases parts with
    | none => exact .none
    | some parts => exact ih parts

end Alike

/-- If an expectation of equal contents passes, both sides have parts in the same places, and what stands
at a place has the same kind on both sides unless it is the unit on one side and a number that is not
finite on the other. -/
theorem eql_keeps_kinds {a b : Value} (left : a.IsData) (right : b.IsData) {binding : Option String}
    {deep : Bool} (passes : (Check.eql b).Passes ⟨a, binding, false, deep⟩) (path : List Step) :
    Option.Rel (fun x y => x.scriptKind = y.scriptKind ↔ ¬Confused x y) (a.at? path) (b.at? path) := by
  have same : a.toJson.same b.toJson = true := by
    have verdict := Check.passes_iff.mp passes
    exact Except.ok.inj verdict
  have parts := Alike.at? ⟨left, right, same⟩ path
  generalize a.at? path = first, b.at? path = second at parts ⊢
  cases parts with
  | none => exact .none
  | some parts => exact .some parts.scriptKind_iff

/-- What is no number deep inside of a list passes for the unit in the same place. -/
theorem eql_keeps_kinds_inside :
    let first : Value := .list [.int 1, .record [("k", .float (0.0 / 0.0))]]
    let second : Value := .list [.float 1.0, .record [("k", .unit)]]
    first.IsData ∧ second.IsData ∧ (Check.eql second).Passes (.of first) ∧
      Option.Rel (fun x y => x.scriptKind = y.scriptKind ↔ ¬Confused x y)
        (first.at? [.item 1, .member "k"]) (second.at? [.item 1, .member "k"]) ∧
      (first.at? [.item 1, .member "k"]).map scriptKind = some "number" ∧
      (second.at? [.item 1, .member "k"]).map scriptKind = some "undefined" := by
  intro first second
  have left : first.IsData := by
    refine .list fun item member => ?_
    simp only [List.mem_cons, List.not_mem_nil, or_false] at member
    rcases member with rfl | rfl
    · exact .int 1
    · exact .record fun member inside => by
        cases List.mem_singleton.mp inside
        exact .float _
  have right : second.IsData := by
    refine .list fun item member => ?_
    simp only [List.mem_cons, List.not_mem_nil, or_false] at member
    rcases member with rfl | rfl
    · exact .float _
    · exact .record fun member inside => by
        cases List.mem_singleton.mp inside
        exact .unit
  have passes : (Check.eql second).Passes (.of first) := Check.passes_iff.mpr rfl
  exact ⟨left, right, passes, eql_keeps_kinds left right passes [.item 1, .member "k"], rfl, rfl⟩

/-- What is no number equals the unit in contents, although they are of different kinds. -/
theorem eql_across_kinds :
    IsData (.float (0.0 / 0.0)) ∧ IsData .unit ∧
      (Check.eql .unit).Passes (.of (.float (0.0 / 0.0))) ∧
      (Value.float (0.0 / 0.0)).scriptKind ≠ Value.unit.scriptKind :=
  ⟨.float _, .unit, Check.passes_iff.mpr rfl, by decide⟩

end Value
end Machine
end ApiProbe
