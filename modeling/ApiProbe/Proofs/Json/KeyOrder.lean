import ApiProbe.Json.Reader
import ApiProbe.JsonPath.Query
import ApiProbe.Proofs.Attempt
import ApiProbe.Proofs.Table.Order

/-!
Documents in key order. Objects that are read list their members in key order, whatever the order in
the text, and name none of them twice.
-/
namespace ApiProbe.Json

/-- The members of every object in a document stand in key order. -/
inductive InOrder : Json → Prop
  | intro {node : Json} (keys : ∀ members, node = .obj members → Table.Ordered members)
      (children : ∀ child ∈ node.children, InOrder child) : InOrder node

namespace InOrder

theorem leaf {node : Json} (noObject : ∀ members, node ≠ .obj members)
    (childless : node.children = []) : InOrder node := by
  refine .intro (fun members same => absurd same (noObject members)) ?_
  rw [childless]
  exact List.forall_mem_nil _

theorem arr {items : List Json} (each : ∀ item ∈ items, InOrder item) : InOrder (.arr items) :=
  .intro (fun _ same => by cases same) each

theorem obj {members : Table Json} (ordered : members.Ordered)
    (each : ∀ value ∈ members.values, InOrder value) : InOrder (.obj members) := by
  refine .intro (fun others same => ?_) each
  cases same
  exact ordered

end InOrder

mutual

theorem inOrder_sorted (document : Json) : InOrder document.sorted := by
  cases document with
  | arr items =>
    rw [sorted]
    exact .arr (inOrder_sortedItems items)
  | obj members =>
    rw [sorted]
    refine .obj (Table.ordered_ofPairs _) fun value member => ?_
    obtain ⟨entry, inside, rfl⟩ := List.mem_map.mp member
    exact inOrder_sortedMembers members entry (Table.mem_ofPairs inside)
  | _ => exact .leaf (by simp [sorted]) (by simp [sorted, children])

theorem inOrder_sortedItems (items : List Json) : ∀ item ∈ sortedItems items, InOrder item := by
  cases items with
  | nil => exact List.forall_mem_nil _
  | cons item rest =>
    rw [sortedItems]
    exact List.forall_mem_cons.mpr ⟨inOrder_sorted item, inOrder_sortedItems rest⟩

theorem inOrder_sortedMembers (members : List (String × Json)) :
    ∀ entry ∈ sortedMembers members, InOrder entry.2 := by
  cases members with
  | nil => exact List.forall_mem_nil _
  | cons member rest =>
    rw [sortedMembers]
    exact List.forall_mem_cons.mpr ⟨inOrder_sorted member.2, inOrder_sortedMembers rest⟩

end

/-- A document that is read is in key order. -/
theorem inOrder_of_read {text : String} {document : Json} (read : Json.read text = .ok document) :
    InOrder document := by
  obtain ⟨written, -, rfl⟩ := Attempt.map_eq_ok_iff.mp read
  exact inOrder_sorted written

end ApiProbe.Json
