import ApiProbe.Proofs.Attempt
import ApiProbe.Proofs.Json.KeyOrder
import ApiProbe.Proofs.JsonPath.Addressing

/-!
Locations of matches. What a path finds is found here once more, each match with the moves that lead
to it. The values are those of the query, in the same order, and each of them stands at its location.
-/
namespace ApiProbe.JsonPath

/-- A value below another one, with the moves that lead to it. -/
structure Spot where
  location : List Move
  value : Json

namespace Spot
variable {spot : Spot} {first second : List Move} {find next : Json → List Spot} {spots : List Spot}

/-- A spot as it is seen from further above. -/
def under (location : List Move) (spot : Spot) : Spot := ⟨location ++ spot.location, spot.value⟩

@[simp] theorem under_location (location : List Move) (spot : Spot) :
    (spot.under location).location = location ++ spot.location := rfl

@[simp] theorem under_value (location : List Move) (spot : Spot) :
    (spot.under location).value = spot.value := rfl

@[simp] theorem under_under (spot : Spot) (first second : List Move) :
    (spot.under second).under first = spot.under (first ++ second) := by
  simp [under]

/-- What is found from each of some spots, one after the other. -/
def within (find : Json → List Spot) (spots : List Spot) : List Spot :=
  spots.flatMap fun spot => (find spot.value).map (under spot.location)

theorem mem_within : spot ∈ within find spots ↔
    ∃ outer ∈ spots, ∃ inner ∈ find outer.value, inner.under outer.location = spot := by
  simp [within]

theorem within_within (find next : Json → List Spot) (spots : List Spot) :
    within next (within find spots) = within (fun node => within next (find node)) spots := by
  simp only [within, List.flatMap_assoc, List.flatMap_map, List.map_flatMap, List.map_map,
    Function.comp_def, under_under, under_location, under_value]

theorem map_value_within (find : Json → List Spot) (spots : List Spot) :
    (within find spots).map value =
      (spots.map value).flatMap fun node => (find node).map value := by
  simp only [within, List.map_flatMap, List.flatMap_map, List.map_map]
  rfl

end Spot

/-- The item at a place of a list. -/
def itemSpot? (items : List Json) (place : Nat) : Option Spot :=
  items[place]?.map fun item => ⟨[.item place], item⟩

end JsonPath

open JsonPath

/-- The children of a value, in order. -/
def Json.childSpots : Json → List Spot
  | .arr items => items.zipIdx.map fun (item, place) => ⟨[.item place], item⟩
  | .obj members => members.map fun (key, value) => ⟨[.member key], value⟩
  | _ => []

mutual

/-- A value and all values below it, each before those below it. -/
def Json.spots : Json → List Spot
  | .arr items => ⟨[], .arr items⟩ :: Json.itemSpots 0 items
  | .obj members => ⟨[], .obj members⟩ :: Json.memberSpots members
  | leaf => [⟨[], leaf⟩]

def Json.itemSpots (place : Nat) : List Json → List Spot
  | [] => []
  | item :: rest => (Json.spots item).map (.under [.item place]) ++ Json.itemSpots (place + 1) rest

def Json.memberSpots : List (String × Json) → List Spot
  | [] => []
  | (key, value) :: rest => (Json.spots value).map (.under [.member key]) ++ Json.memberSpots rest

end

namespace JsonPath

/-- The children that a pick selects. -/
def Pick.spots (pick : Pick) (node : Json) : List Spot :=
  match pick with
  | .name key => (node.member? key).toList.map fun value => ⟨[.member key], value⟩
  | .every => node.childSpots
  | .index position =>
    match node with
    | .arr items =>
      let place := if position < 0 then Int.ofNat items.length + position else position
      (if 0 ≤ place then itemSpot? items place.toNat else none).toList
    | _ => []

/-- Whether a value passes a filter. -/
def passesFilter (path : List Segment) (test : Option (Relation × Json)) (node : Json) : Bool :=
  match follow path [node] with
  | .ok found => passes test found
  | .error _ => false

/-- The children that a selector selects. -/
def Selector.spots (selector : Selector) (node : Json) : List Spot :=
  match selector with
  | .pick one => one.spots node
  | .union picks => picks.flatMap (·.spots node)
  | .slice run =>
    match node with
    | .arr items =>
      match run.positions items.length with
      | .ok places => places.filterMap (itemSpot? items)
      | .error _ => []
    | _ => []
  | .filter path test => node.childSpots.filter fun spot => passesFilter path test spot.value

def Segment.spots : Segment → Json → List Spot
  | .child selector, node => selector.spots node
  | .descendant selector, node => Spot.within selector.spots node.spots

/-- Everything that a path finds from a value, with its location. -/
def locate : List Segment → Json → List Spot
  | [], node => [⟨[], node⟩]
  | segment :: rest, node => Spot.within (locate rest) (segment.spots node)

section Values
variable {node : Json} {found : List Json}

theorem map_value_childSpots (node : Json) : node.childSpots.map Spot.value = node.children := by
  cases node with
  | arr items =>
    simp only [Json.childSpots, Json.children, List.map_map]
    exact (List.zipIdx_map_fst 0 items)
  | obj members =>
    simp only [Json.childSpots, Json.children, List.map_map]
    rfl
  | _ => rfl

mutual

theorem map_value_spots (node : Json) : node.spots.map Spot.value = node.subtree := by
  cases node with
  | arr items => simp [Json.spots, Json.subtree, map_value_itemSpots 0 items]
  | obj members => simp [Json.spots, Json.subtree, map_value_memberSpots members]
  | _ => rfl

theorem map_value_itemSpots (place : Nat) (items : List Json) :
    (Json.itemSpots place items).map Spot.value = Json.itemSubtrees items := by
  cases items with
  | nil => rfl
  | cons item rest =>
    rw [Json.itemSpots, Json.itemSubtrees, List.map_append, List.map_map,
      map_value_itemSpots (place + 1) rest, ← map_value_spots item]
    rfl

theorem map_value_memberSpots (members : List (String × Json)) :
    (Json.memberSpots members).map Spot.value = Json.memberSubtrees members := by
  cases members with
  | nil => rfl
  | cons member rest =>
    rw [Json.memberSpots, Json.memberSubtrees, List.map_append, List.map_map,
      map_value_memberSpots rest, ← map_value_spots member.2]
    rfl

end

theorem map_value_filterMap_itemSpot? (items : List Json) (places : List Nat) :
    (places.filterMap (itemSpot? items)).map Spot.value = places.filterMap (items[·]?) := by
  rw [List.map_filterMap]
  congr 1
  funext place
  simp [itemSpot?, Option.map_map, Function.comp_def]

theorem map_value_pick (pick : Pick) (node : Json) :
    (pick.spots node).map Spot.value = pick.select node := by
  cases pick with
  | name key =>
    simp only [Pick.spots, Pick.select, List.map_map]
    exact List.map_id _
  | every => exact map_value_childSpots node
  | index position =>
    cases node with
    | arr items =>
      simp only [Pick.spots, Pick.select, itemAt]
      generalize (if position < 0 then _ else position) = place
      rw [← Option.toList_map]
      split
      · simp [itemSpot?, Option.map_map, Function.comp_def]
      · rfl
    | _ => rfl

/-- What is gathered from some values is what is found in each of them. -/
theorem eq_flatMap_of_gather {select : Json → Except Abort (List Json)} {find : Json → List Json}
    {nodes : List Json} (each : ∀ node values, select node = .ok values → values = find node)
    (gathered : gather select nodes = .ok found) : found = nodes.flatMap find := by
  induction nodes generalizing found with
  | nil =>
    cases gathered
    rfl
  | cons node rest ih =>
    obtain ⟨first, own, gathered⟩ := Attempt.bind_eq_ok_iff.mp gathered
    obtain ⟨others, later, joined⟩ := Attempt.bind_eq_ok_iff.mp gathered
    cases joined
    rw [List.flatMap_cons, each node first own, ih later]

theorem eq_filter_of_keep {passes : Json → Except Abort Bool} {test : Json → Bool}
    {nodes : List Json} (each : ∀ node kept, passes node = .ok kept → kept = test node)
    (kept : keep passes nodes = .ok found) : found = nodes.filter test := by
  induction nodes generalizing found with
  | nil =>
    cases kept
    rfl
  | cons node rest ih =>
    obtain ⟨first, own, kept⟩ := Attempt.bind_eq_ok_iff.mp kept
    obtain ⟨others, later, joined⟩ := Attempt.bind_eq_ok_iff.mp kept
    cases joined
    rw [List.filter_cons, each node first own, ih later]

theorem Selector.eq_spots {selector : Selector} (selected : selector.select node = .ok found) :
    found = (selector.spots node).map Spot.value := by
  cases selector with
  | pick one =>
    cases selected
    exact (map_value_pick one node).symm
  | union picks =>
    cases selected
    simp only [Selector.spots, List.map_flatMap, map_value_pick]
  | slice run =>
    cases node with
    | arr items =>
      obtain ⟨places, positions, same⟩ := Attempt.map_eq_ok_iff.mp selected
      rw [Selector.spots, positions, ← same]
      exact (map_value_filterMap_itemSpot? items places).symm
    | _ =>
      cases selected
      rfl
  | filter path test =>
    have each (child : Json) (kept : Bool)
        (passed : (follow path [child]).map (passes test) = .ok kept) :
        kept = passesFilter path test child := by
      obtain ⟨values, followed, same⟩ := Attempt.map_eq_ok_iff.mp passed
      rw [passesFilter, followed, ← same]
    rw [Selector.spots, eq_filter_of_keep each selected, ← map_value_childSpots, List.filter_map]
    rfl

theorem Segment.eq_spots {segment : Segment} (selected : segment.select node = .ok found) :
    found = (segment.spots node).map Spot.value := by
  cases segment with
  | child selector => exact Selector.eq_spots selected
  | descendant selector =>
    rw [Segment.spots, Spot.map_value_within, map_value_spots]
    exact eq_flatMap_of_gather (fun _ _ => Selector.eq_spots) selected

theorem follow_eq_locate {path : List Segment} {nodes : List Json}
    (followed : follow path nodes = .ok found) :
    found = nodes.flatMap fun node => (locate path node).map Spot.value := by
  induction path generalizing nodes found with
  | nil =>
    cases followed
    simp [locate]
  | cons segment rest ih =>
    obtain ⟨middle, gathered, followed⟩ := Attempt.bind_eq_ok_iff.mp followed
    rw [ih followed, eq_flatMap_of_gather (fun _ _ => Segment.eq_spots) gathered,
      List.flatMap_assoc]
    simp only [locate, Spot.map_value_within]

/-- The values that a query finds are those at the locations of the path, in the same order. -/
theorem query_eq_locate {path : JsonPath} {document : Json}
    (queried : path.query document = .ok found) :
    found = (locate path document).map Spot.value := by
  have whole := follow_eq_locate queried
  rwa [List.flatMap_singleton] at whole

end Values

section Standing
variable {node child : Json} {spot : Spot} {move : Move}

/-- A spot whose value stands at its location. -/
def Spot.StandsIn (node : Json) (spot : Spot) : Prop := valueAt? spot.location node = some spot.value

/-- A spot right below a value. -/
def Spot.IsChildOf (node : Json) (spot : Spot) : Prop :=
  ∃ move, spot.location = [move] ∧ move.target? node = some spot.value

theorem valueAt?_append (first second : List Move) (node : Json) :
    valueAt? (first ++ second) node = (valueAt? first node).bind (valueAt? second) := by
  induction first generalizing node with
  | nil => rfl
  | cons move rest ih =>
    rw [List.cons_append, valueAt?, valueAt?, Option.bind_assoc]
    congr 1
    funext child
    exact ih child

theorem inOrder_target (inOrder : node.InOrder) (leads : move.target? node = some child) :
    child.InOrder := by
  obtain ⟨-, children⟩ := inOrder
  apply children
  cases node with
  | obj members =>
    cases move with
    | member key => exact Table.mem_values_of_find? leads
    | item place => cases leads
  | arr items =>
    cases move with
    | member key => cases leads
    | item place => exact List.mem_of_getElem? leads
  | _ => cases move <;> cases leads

theorem inOrder_valueAt? {location : List Move} {value : Json} (inOrder : node.InOrder)
    (found : valueAt? location node = some value) : value.InOrder := by
  induction location generalizing node with
  | nil =>
    cases found
    exact inOrder
  | cons move rest ih =>
    obtain ⟨child, leads, below⟩ := Option.bind_eq_some_iff.mp found
    exact ih (inOrder_target inOrder leads) below

theorem Spot.IsChildOf.standsIn (isChild : spot.IsChildOf node) : spot.StandsIn node := by
  obtain ⟨move, single, leads⟩ := isChild
  rw [StandsIn, single, valueAt?, leads]
  rfl

theorem Spot.standsIn_within {find : Json → List Spot} {spots : List Spot}
    (outer : ∀ spot ∈ spots, spot.StandsIn node)
    (inner : ∀ spot ∈ spots, ∀ below ∈ find spot.value, below.StandsIn spot.value) :
    ∀ spot ∈ within find spots, spot.StandsIn node := by
  intro spot member
  obtain ⟨above, first, below, second, rfl⟩ := mem_within.mp member
  rw [StandsIn, under_location, valueAt?_append, outer above first]
  exact inner above first below second

theorem isChildOf_childSpots (inOrder : node.InOrder) (member : spot ∈ node.childSpots) :
    spot.IsChildOf node := by
  obtain ⟨keys, -⟩ := inOrder
  cases node with
  | arr items =>
    obtain ⟨⟨item, place⟩, inside, rfl⟩ := List.mem_map.mp member
    exact ⟨.item place, rfl, List.mem_zipIdx_iff_getElem?.mp inside⟩
  | obj members =>
    obtain ⟨⟨key, value⟩, inside, rfl⟩ := List.mem_map.mp member
    exact ⟨.member key, rfl, (Table.find?_eq_some_iff (keys members rfl)).mpr inside⟩
  | _ => cases member

theorem isChildOf_itemSpot? {items : List Json} {place : Nat}
    (found : itemSpot? items place = some spot) : spot.IsChildOf (.arr items) := by
  obtain ⟨item, inside, rfl⟩ := Option.map_eq_some_iff.mp found
  exact ⟨.item place, rfl, inside⟩

theorem Pick.isChildOf {pick : Pick} (inOrder : node.InOrder) (member : spot ∈ pick.spots node) :
    spot.IsChildOf node := by
  cases pick with
  | name key =>
    obtain ⟨value, inside, rfl⟩ := List.mem_map.mp member
    exact ⟨.member key, rfl, Option.mem_toList.mp inside⟩
  | every => exact isChildOf_childSpots inOrder member
  | index position =>
    cases node with
    | arr items =>
      rw [Pick.spots] at member
      generalize (if position < 0 then _ else position) = place at member
      have found := Option.mem_toList.mp member
      split at found
      · exact isChildOf_itemSpot? found
      · cases found
    | _ => cases member

theorem Selector.isChildOf {selector : Selector} (inOrder : node.InOrder)
    (member : spot ∈ selector.spots node) : spot.IsChildOf node := by
  cases selector with
  | pick one => exact one.isChildOf inOrder member
  | union picks =>
    obtain ⟨pick, -, inside⟩ := List.mem_flatMap.mp member
    exact pick.isChildOf inOrder inside
  | slice run =>
    cases node with
    | arr items =>
      rw [Selector.spots] at member
      split at member
      · obtain ⟨place, -, found⟩ := List.mem_filterMap.mp member
        exact isChildOf_itemSpot? found
      · cases member
    | _ => cases member
  | filter path test => exact isChildOf_childSpots inOrder (List.mem_filter.mp member).1

theorem itemSpots_eq (place : Nat) (items : List Json) :
    Json.itemSpots place items = Spot.within Json.spots
      ((items.zipIdx place).map fun (item, place) => ⟨[.item place], item⟩) := by
  induction items generalizing place with
  | nil => rfl
  | cons item rest ih =>
    rw [Json.itemSpots, ih]
    rfl

theorem memberSpots_eq (members : List (String × Json)) :
    Json.memberSpots members = Spot.within Json.spots
      (members.map fun (key, value) => ⟨[.member key], value⟩) := by
  induction members with
  | nil => rfl
  | cons member rest ih =>
    rw [Json.memberSpots, ih]
    rfl

/-- A value comes first, and then its children, each with everything below it. -/
theorem spots_eq (node : Json) :
    node.spots = ⟨[], node⟩ :: Spot.within Json.spots node.childSpots := by
  cases node with
  | arr items => rw [Json.spots, itemSpots_eq, Json.childSpots]
  | obj members => rw [Json.spots, memberSpots_eq, Json.childSpots]
  | _ => rfl

theorem standsIn_spots (inOrder : node.InOrder) : ∀ spot ∈ node.spots, spot.StandsIn node := by
  induction inOrder with
  | @intro node keys children ih =>
    have inOrder : node.InOrder := ⟨keys, children⟩
    rw [spots_eq, List.forall_mem_cons]
    refine ⟨rfl, ?_⟩
    apply Spot.standsIn_within
    · exact fun child member => (isChildOf_childSpots inOrder member).standsIn
    · intro child member
      have inside : child.value ∈ node.childSpots.map Spot.value := List.mem_map_of_mem member
      rw [map_value_childSpots] at inside
      exact ih child.value inside

theorem inOrder_spots (inOrder : node.InOrder) (member : spot ∈ node.spots) :
    spot.value.InOrder :=
  inOrder_valueAt? inOrder (standsIn_spots inOrder spot member)

theorem Segment.standsIn {segment : Segment} (inOrder : node.InOrder) :
    ∀ spot ∈ segment.spots node, spot.StandsIn node := by
  cases segment with
  | child selector => exact fun spot member => (selector.isChildOf inOrder member).standsIn
  | descendant selector =>
    apply Spot.standsIn_within (standsIn_spots inOrder)
    intro spot member below inside
    exact (selector.isChildOf (inOrder_spots inOrder member) inside).standsIn

theorem Segment.inOrder {segment : Segment} (inOrder : node.InOrder)
    (reached : spot ∈ segment.spots node) : spot.value.InOrder :=
  inOrder_valueAt? inOrder (segment.standsIn inOrder spot reached)

/-- The value of every match stands at its location. -/
theorem standsIn_locate {path : List Segment} (inOrder : node.InOrder) :
    ∀ spot ∈ locate path node, spot.StandsIn node := by
  induction path generalizing node with
  | nil =>
    intro spot member
    cases List.mem_singleton.mp member
    rfl
  | cons segment rest ih =>
    apply Spot.standsIn_within (segment.standsIn inOrder)
    exact fun spot reached => ih (segment.inOrder inOrder reached)

end Standing

end JsonPath
end ApiProbe
