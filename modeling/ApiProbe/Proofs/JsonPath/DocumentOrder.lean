import ApiProbe.Proofs.Json.RoundTrip
import ApiProbe.Proofs.JsonPath.Locating
import ApiProbe.Proofs.JsonPath.Slicing

/-!
The order of matches. A path that steps from child to child finds its matches in document order. A
descent applies its selector to a value before it goes on below that value, so what it finds further
below can come too late, and where descents follow each other a location can be found again. Both
happen exactly where a descent crosses itself.
-/
namespace ApiProbe.JsonPath

/-- Members come in the order of their keys, items in that of their places. -/
inductive Move.Before : Move → Move → Prop
  | member {first second : String} (less : first < second) : Before (.member first) (.member second)
  | item {first second : Nat} (less : first < second) : Before (.item first) (.item second)

/-- Document order: a value comes before everything below it, and that before the next child. -/
def Precedes : List Move → List Move → Prop := List.Lex Move.Before

/-- The locations part somewhere, and the first one goes on into an earlier child. -/
inductive Apart : List Move → List Move → Prop
  | here {first second : Move} (before : first.Before second) (a b : List Move) :
      Apart (first :: a) (second :: b)
  | inside {a b : List Move} (move : Move) (apart : Apart a b) : Apart (move :: a) (move :: b)

/-- A relation of locations that is decided where they part, and before that by what follows. -/
structure Separates (R : List Move → List Move → Prop) : Prop where
  apart {a b : List Move} : Apart a b → R a b
  below {a b : List Move} (move : Move) : R (move :: a) (move :: b) ↔ R a b

theorem Move.Before.ne {first second : Move} (before : first.Before second) : first ≠ second := by
  rintro rfl
  cases before with
  | member less => exact String.lt_irrefl _ less
  | item less => exact Nat.lt_irrefl _ less

theorem precedes_cons_iff {first second : Move} {a b : List Move} :
    Precedes (first :: a) (second :: b) ↔ first.Before second ∨ first = second ∧ Precedes a b := by
  constructor
  · intro precedes
    cases precedes with
    | cons rest => exact .inr ⟨rfl, rest⟩
    | rel before => exact .inl before
  · rintro (before | ⟨rfl, rest⟩)
    · exact .rel before
    · exact .cons rest

theorem separates_precedes : Separates Precedes where
  apart := by
    intro a b apart
    induction apart with
    | here before a b => exact .rel before
    | inside move apart ih => exact .cons ih
  below := by
    intro a b move
    rw [precedes_cons_iff, or_iff_right fun before => before.ne rfl]
    exact and_iff_right rfl

theorem separates_ne : Separates (· ≠ ·) where
  apart := by
    intro a b apart
    induction apart with
    | here before a b => exact fun same => before.ne (List.cons.inj same).1
    | inside move apart ih => exact fun same => ih (List.cons.inj same).2
  below := by simp

section Selecting
variable {node : Json} {spots : List Spot} {R : List Move → List Move → Prop}

/-- Each spot stands in a relation to all those that come later. -/
def Spot.Along (R : List Move → List Move → Prop) (spots : List Spot) : Prop :=
  spots.Pairwise fun first second => R first.location second.location

theorem Separates.append (separates : Separates R) (front : List Move) {a b : List Move} :
    R (front ++ a) (front ++ b) ↔ R a b := by
  induction front with
  | nil => rfl
  | cons move rest ih => exact (separates.below move).trans ih

theorem Apart.extend {a b : List Move} (apart : Apart a b) (c d : List Move) :
    Apart (a ++ c) (b ++ d) := by
  induction apart with
  | here before a b => exact .here before _ _
  | inside move apart ih => exact .inside move ih

theorem Apart.append {a b : List Move} (apart : Apart a b) (front : List Move) :
    Apart (front ++ a) (front ++ b) := by
  induction front with
  | nil => exact apart
  | cons move rest ih => exact .inside move ih

/-- What is decided where locations part holds of everything below locations that part. -/
theorem across_apart {Q : Spot → Spot → Prop}
    (apart : ∀ a b : Spot, Apart a.location b.location → Q a b) {first second : Spot}
    (parted : Apart first.location second.location) (some_ others : List Spot) :
    ∀ x ∈ some_.map (Spot.under first.location), ∀ y ∈ others.map (Spot.under second.location),
      Q x y := by
  intro x one y two
  obtain ⟨x, -, rfl⟩ := List.mem_map.mp one
  obtain ⟨y, -, rfl⟩ := List.mem_map.mp two
  exact apart _ _ (parted.extend _ _)

/-- Below values that are apart only the matches in one of them matter. -/
theorem along_within {find : Json → List Spot} (separates : Separates R)
    (apart : Spot.Along Apart spots) :
    Spot.Along R (Spot.within find spots) ↔ ∀ spot ∈ spots, Spot.Along R (find spot.value) := by
  rw [Spot.Along, Spot.within, List.pairwise_flatMap]
  rw [and_iff_left (apart.imp fun parted =>
    across_apart (fun _ _ => separates.apart) parted _ _)]
  simp only [List.pairwise_map, Spot.under_location, separates.append, Spot.Along]

theorem along_childSpots (inOrder : node.InOrder) : Spot.Along Apart node.childSpots := by
  obtain ⟨keys, -⟩ := inOrder
  cases node with
  | arr items =>
    have places : (items.zipIdx.map Prod.snd).Pairwise (· < ·) := by
      rw [List.zipIdx_map_snd]
      exact List.pairwise_lt_range'
    rw [Spot.Along, Json.childSpots, List.pairwise_map]
    rw [List.pairwise_map] at places
    exact places.imp fun less => .here (.item less) [] []
  | obj members =>
    rw [Spot.Along, Json.childSpots, List.pairwise_map]
    exact (keys members rfl).imp fun less => .here (.member less) [] []
  | _ => exact .nil

/-- A selector that lists children in their order: no union, and no slice that goes backwards. -/
def Selector.Forward : Selector → Prop
  | .union _ => False
  | .slice run => 0 < run.step
  | _ => True

def Segment.selector : Segment → Selector
  | .child selector => selector
  | .descendant selector => selector

theorem Slice.upward_increasing {stop step place : Int} {fuel : Nat} {places : List Nat}
    (ahead : 0 < step) (inside : 0 ≤ place) (found : upward stop step fuel place = .ok places) :
    (∀ other ∈ places, place.toNat ≤ other) ∧ places.Pairwise (· < ·) := by
  induction fuel generalizing place places with
  | zero =>
    cases found
    exact ⟨by simp, .nil⟩
  | succ fuel ih =>
    rw [upward] at found
    split at found
    · split at found
      · obtain ⟨rest, later, rfl⟩ := Attempt.map_eq_ok_iff.mp found
        obtain ⟨above, increasing⟩ := ih (by omega) later
        refine ⟨?_, List.pairwise_cons.mpr ⟨fun other member => ?_, increasing⟩⟩
        · rw [List.forall_mem_cons]
          refine ⟨Nat.le_refl _, fun other member => ?_⟩
          have := above other member
          omega
        · have := above other member
          omega
      · cases found
    · cases found
      exact ⟨by simp, .nil⟩

theorem Slice.positions_increasing {run : Slice} {length : Nat} {places : List Nat}
    (ahead : 0 < run.step) (found : run.positions length = .ok places) :
    places.Pairwise (· < ·) := by
  rw [positions_upward ahead] at found
  exact (upward_increasing ahead (ends_upward ahead).1 found).2

theorem along_itemSpots {items : List Json} {places : List Nat}
    (increasing : places.Pairwise (· < ·)) :
    Spot.Along Apart (places.filterMap (itemSpot? items)) := by
  rw [Spot.Along, List.pairwise_filterMap]
  apply increasing.imp
  intro first second less x one y two
  obtain ⟨_, -, rfl⟩ := Option.map_eq_some_iff.mp one
  obtain ⟨_, -, rfl⟩ := Option.map_eq_some_iff.mp two
  exact .here (.item less) [] []

/-- A selector that lists children in their order lists none of them twice. -/
theorem Selector.along_spots {selector : Selector} (forward : selector.Forward)
    (inOrder : node.InOrder) : Spot.Along Apart (selector.spots node) := by
  have few (option : Option Spot) : Spot.Along Apart option.toList := by
    cases option with
    | none => exact .nil
    | some spot => exact List.pairwise_singleton _ _
  cases selector with
  | pick one =>
    cases one with
    | name key =>
      rw [Selector.spots, Pick.spots, ← Option.toList_map]
      exact few _
    | every => exact along_childSpots inOrder
    | index position =>
      cases node with
      | arr items => exact few _
      | _ => exact .nil
  | union picks => cases forward
  | slice run =>
    cases node with
    | arr items =>
      rw [Selector.spots]
      split
      · rename_i places found
        exact along_itemSpots (run.positions_increasing forward found)
      · exact .nil
    | _ => exact .nil
  | filter path test => exact (along_childSpots inOrder).filter _

end Selecting

section Descending
variable {node : Json} {spot : Spot} {R : List Move → List Move → Prop}

theorem location_ne_nil (inOrder : node.InOrder)
    (member : spot ∈ Spot.within Json.spots node.childSpots) : spot.location ≠ [] := by
  obtain ⟨child, first, below, -, rfl⟩ := Spot.mem_within.mp member
  obtain ⟨move, single, -⟩ := isChildOf_childSpots inOrder first
  simp [single]

theorem mem_below (proper : spot.location ≠ []) :
    spot ∈ node.spots ↔ spot ∈ Spot.within Json.spots node.childSpots := by
  rw [spots_eq, List.mem_cons]
  refine or_iff_right fun same => proper ?_
  rw [same]

/-- Values that are visited in turn stand in a relation if each does to those below it. -/
theorem pairwise_spots_iff {Q : Spot → Spot → Prop} (inOrder : node.InOrder)
    (apart : ∀ first second : Spot, Apart first.location second.location → Q first second) :
    node.spots.Pairwise Q ↔ ∀ upper ∈ node.spots, ∀ lower ∈ upper.value.spots,
      lower.location ≠ [] → Q upper (lower.under upper.location) := by
  induction inOrder generalizing Q with
  | @intro node keys children ih =>
    have inOrder : node.InOrder := ⟨keys, children⟩
    -- Values below different children are apart, so only the pairs in one child are left.
    have across : node.childSpots.Pairwise fun first second =>
        ∀ x ∈ first.value.spots.map (Spot.under first.location),
          ∀ y ∈ second.value.spots.map (Spot.under second.location), Q x y :=
      (along_childSpots inOrder).imp fun parted => across_apart apart parted _ _
    have each : ∀ child ∈ node.childSpots,
        ((child.value.spots.map (Spot.under child.location)).Pairwise Q ↔
          ∀ upper ∈ child.value.spots, ∀ lower ∈ upper.value.spots, lower.location ≠ [] →
            Q (upper.under child.location) (lower.under (child.location ++ upper.location))) := by
      intro child member
      have value : child.value ∈ node.children := by
        rw [← map_value_childSpots]
        exact List.mem_map_of_mem member
      rw [List.pairwise_map, ih child.value value fun first second parted =>
        apart _ _ (parted.append child.location)]
      simp only [Spot.under_under]
    -- The value itself comes first: it meets everything below it.
    rw [spots_eq, List.pairwise_cons, List.forall_mem_cons]
    apply and_congr
    · constructor
      · intro above lower member proper
        exact above lower ((mem_below proper).mp member)
      · intro above lower member
        have proper := location_ne_nil inOrder member
        exact above lower ((mem_below proper).mpr member) proper
    · rw [Spot.within, List.pairwise_flatMap, and_iff_left across]
      constructor
      · intro inner upper member
        obtain ⟨child, first, upper, second, rfl⟩ := Spot.mem_within.mp member
        exact (each child first).mp (inner child first) upper second
      · intro inner child first
        refine (each child first).mpr fun upper second => ?_
        exact inner _ (Spot.mem_within.mpr ⟨child, first, upper, second, rfl⟩)

/-- The listing of everything in a document is in document order. -/
theorem along_spots (inOrder : node.InOrder) : Spot.Along Precedes node.spots := by
  refine (pairwise_spots_iff inOrder fun _ _ parted => separates_precedes.apart parted).mpr ?_
  intro upper _ lower _ proper
  obtain ⟨move, rest, split⟩ := List.exists_cons_of_ne_nil proper
  have above : Precedes (upper.location ++ []) (upper.location ++ lower.location) := by
    rw [separates_precedes.append, split]
    exact .nil
  rwa [List.append_nil] at above

/-- A descent finds one match from a value and then another one from further below that value, and the
first does not stand to the second as it should. -/
inductive Crosses (R : List Move → List Move → Prop) : List Segment → Json → Prop
  | here {selector : Selector} {rest : List Segment} {node : Json} {upper lower first second : Spot}
      (visited : upper ∈ node.spots) (deeper : lower ∈ upper.value.spots)
      (proper : lower.location ≠ [])
      (one : first ∈ locate (.child selector :: rest) upper.value)
      (two : second ∈ locate (.child selector :: rest) lower.value)
      (clash : ¬R first.location (lower.location ++ second.location)) :
      Crosses R (.descendant selector :: rest) node
  | beyond {segment : Segment} {rest : List Segment} {node : Json} {spot : Spot}
      (reached : spot ∈ segment.spots node) (crosses : Crosses R rest spot.value) :
      Crosses R (segment :: rest) node

variable {selector : Selector} {rest : List Segment}

theorem along_child_iff (separates : Separates R) (forward : selector.Forward)
    (inOrder : node.InOrder) : Spot.Along R (locate (.child selector :: rest) node) ↔
      ∀ spot ∈ (Segment.child selector).spots node, Spot.Along R (locate rest spot.value) :=
  along_within separates (selector.along_spots forward inOrder)

/-- A descent finds from each value what its selector and the rest of the path find there. -/
theorem locate_descendant (selector : Selector) (rest : List Segment) (node : Json) :
    locate (.descendant selector :: rest) node =
      Spot.within (locate (.child selector :: rest)) node.spots :=
  Spot.within_within selector.spots (locate rest) node.spots

theorem along_descendant_iff (separates : Separates R) (forward : selector.Forward)
    (inOrder : node.InOrder) : Spot.Along R (locate (.descendant selector :: rest) node) ↔
      (∀ spot ∈ (Segment.descendant selector).spots node, Spot.Along R (locate rest spot.value)) ∧
        ∀ upper ∈ node.spots, ∀ lower ∈ upper.value.spots, lower.location ≠ [] →
          ∀ first ∈ locate (.child selector :: rest) upper.value,
            ∀ second ∈ locate (.child selector :: rest) lower.value,
              R first.location (lower.location ++ second.location) := by
  rw [locate_descendant, Spot.Along, Spot.within, List.pairwise_flatMap,
    pairwise_spots_iff inOrder]
  · apply and_congr
    · -- From one visited value the selector goes to children, which are apart again.
      simp only [List.pairwise_map, Spot.under_location, separates.append]
      constructor
      · intro each spot member
        obtain ⟨upper, visited, below, selected, rfl⟩ := Spot.mem_within.mp member
        have lower := inOrder_spots inOrder visited
        exact (along_child_iff separates forward lower).mp (each upper visited) below selected
      · intro each upper visited
        have lower := inOrder_spots inOrder visited
        refine (along_child_iff separates forward lower).mpr fun below selected => ?_
        exact each (below.under upper.location)
          (Spot.mem_within.mpr ⟨upper, visited, below, selected, rfl⟩)
    · simp only [List.forall_mem_map, Spot.under_location, Spot.under_value, List.append_assoc,
        separates.append]
  · intro first second parted
    exact across_apart (fun _ _ => separates.apart) parted _ _

/-- The matches of a path stand in order unless a descent crosses itself. -/
theorem along_locate_iff {path : List Segment} (separates : Separates R)
    (forward : ∀ segment ∈ path, segment.selector.Forward) (inOrder : node.InOrder) :
    Spot.Along R (locate path node) ↔ ¬Crosses R path node := by
  induction path generalizing node with
  | nil => exact iff_of_true (List.pairwise_singleton _ _) nofun
  | cons segment rest ih =>
    obtain ⟨own, others⟩ := List.forall_mem_cons.mp forward
    have further : (∀ spot ∈ segment.spots node, Spot.Along R (locate rest spot.value)) ↔
        ∀ spot ∈ segment.spots node, ¬Crosses R rest spot.value :=
      forall₂_congr fun _ reached => ih others (segment.inOrder inOrder reached)
    cases segment with
    | child selector =>
      have own : selector.Forward := own
      rw [along_child_iff separates own inOrder, further]
      constructor
      · intro none_ crosses
        cases crosses with
        | beyond reached later => exact none_ _ reached later
      · exact fun none_ spot reached later => none_ (.beyond reached later)
    | descendant selector =>
      have own : selector.Forward := own
      rw [along_descendant_iff separates own inOrder, further]
      constructor
      · rintro ⟨none_, stand⟩ crosses
        cases crosses with
        | here visited deeper proper one two clash =>
          exact clash (stand _ visited _ deeper proper _ one _ two)
        | beyond reached later => exact none_ _ reached later
      · intro none_
        refine ⟨fun spot reached later => none_ (.beyond reached later), ?_⟩
        intro upper visited lower deeper proper first one second two
        by_contra clash
        exact none_ (.here visited deeper proper one two clash)

end Descending

section Few
variable {node : Json} {path : List Segment}

/-- How many of the segments of a path are descents. -/
def descents : List Segment → Nat
  | [] => 0
  | .child _ :: rest => descents rest
  | .descendant _ :: rest => descents rest + 1

theorem descents_tail_le (segment : Segment) (rest : List Segment) :
    descents rest ≤ descents (segment :: rest) := by
  cases segment with
  | child => exact Nat.le_refl _
  | descendant => exact Nat.le_succ _

theorem not_crosses_of_no_descent {R : List Move → List Move → Prop} (none_ : descents path = 0) :
    ¬Crosses R path node := by
  intro crosses
  induction crosses with
  | here => cases none_
  | @beyond segment rest node spot reached crosses ih =>
    exact ih (Nat.le_zero.mp (none_ ▸ descents_tail_le segment rest))

/-- Without descents every segment is a move. -/
theorem length_location (none_ : descents path = 0) (inOrder : node.InOrder) :
    ∀ spot ∈ locate path node, spot.location.length = path.length := by
  induction path generalizing node with
  | nil =>
    intro spot member
    cases List.mem_singleton.mp member
    rfl
  | cons segment rest ih =>
    intro spot member
    obtain ⟨child, first, below, second, rfl⟩ := Spot.mem_within.mp member
    cases segment with
    | child selector =>
      have isChild := selector.isChildOf inOrder first
      have later := ih none_ (inOrder_valueAt? inOrder isChild.standsIn) below second
      obtain ⟨move, single, -⟩ := isChild
      simp [single, later]
    | descendant selector => cases none_

/-- One descent does not find a location twice, because its matches are equally far below the values
that it starts from. -/
theorem not_crosses_of_one_descent (inOrder : node.InOrder) (one : descents path ≤ 1) :
    ¬Crosses (· ≠ ·) path node := by
  intro crosses
  induction crosses with
  | @here selector rest node upper lower first second visited deeper proper found again clash =>
    have none_ : descents (.child selector :: rest) = 0 :=
      Nat.le_zero.mp (Nat.le_of_succ_le_succ one)
    have above := inOrder_spots inOrder visited
    have below := inOrder_spots above deeper
    have same := congrArg List.length (not_not.mp clash)
    rw [List.length_append, length_location none_ above first found,
      length_location none_ below second again] at same
    exact proper (List.eq_nil_of_length_eq_zero (by omega))
  | @beyond segment rest node spot reached crosses ih =>
    exact ih (segment.inOrder inOrder reached) ((descents_tail_le segment rest).trans one)

end Few

/-- The locations of the matches of a path, in the order of the matches. -/
def locations (path : JsonPath) (document : Json) : List (List Move) :=
  (locate path document).map Spot.location

/-- A location that is found alone, and once, gives the value there and no list of it. -/
theorem select_lone {path : JsonPath} {document : Json} {found : List Json} {spot : Spot}
    (queried : path.query document = .ok found) (distinct : (locations path document).Nodup)
    (member : spot ∈ locate path document)
    (lone : ∀ other ∈ locate path document, other.location = spot.location) :
    path.select document = .ok (some spot.value) := by
  have single : locate path document = [spot] := by
    rw [locations] at distinct
    cases spots : locate path document with
    | nil => simp [spots] at member
    | cons first rest =>
      rw [spots] at distinct member lone
      cases rest with
      | nil => rw [List.mem_singleton.mp member]
      | cons second rest =>
        have same := (lone first (by simp)).trans (lone second (by simp)).symm
        simp [same] at distinct
  rw [select, queried, query_eq_locate queried, single]
  rfl

/-- What a path without unions and backward slices finds in a document. Its matches stand at locations
of the document; these come in document order, or are found once each, unless a descent crosses itself
in this respect. A path without descents never does, and one descent alone finds no location twice. -/
theorem query_in_document_order_iff {path : JsonPath} {document : Json} {found : List Json}
    (inOrder : document.InOrder) (forward : ∀ segment ∈ path, segment.selector.Forward)
    (queried : path.query document = .ok found) :
    found = (locate path document).map Spot.value ∧
      (∀ spot ∈ locate path document, valueAt? spot.location document = some spot.value) ∧
      ((locations path document).Pairwise Precedes ↔ ¬Crosses Precedes path document) ∧
      ((locations path document).Nodup ↔ ¬Crosses (· ≠ ·) path document) ∧
      (descents path = 0 → (locations path document).Pairwise Precedes) ∧
      (descents path ≤ 1 → (locations path document).Nodup) ∧
      ((locations path document).Nodup → ∀ spot ∈ locate path document,
        (∀ other ∈ locate path document, other.location = spot.location) →
          path.select document = .ok (some spot.value)) := by
  have ordered : (locations path document).Pairwise Precedes ↔ ¬Crosses Precedes path document :=
    List.pairwise_map.trans (along_locate_iff separates_precedes forward inOrder)
  have distinct : (locations path document).Nodup ↔ ¬Crosses (· ≠ ·) path document :=
    List.pairwise_map.trans (along_locate_iff separates_ne forward inOrder)
  refine ⟨query_eq_locate queried, standsIn_locate inOrder, ordered, distinct, ?_, ?_, ?_⟩
  · exact fun none_ => ordered.mpr (not_crosses_of_no_descent none_)
  · exact fun one => distinct.mpr (not_crosses_of_one_descent inOrder one)
  · exact fun once _ => select_lone queried once

/-- A member at the top is found before one of the same name in front of it, because that is further
below. -/
theorem query_in_document_order_iff_late :
    ∃ (path : JsonPath) (document : Json), read "$..x" = .ok path ∧
      Json.read "\x7b\"a\": \x7b\"x\": 1\x7d, \"x\": 2\x7d" = .ok document ∧
      path.query document = .ok [.int 2, .int 1] ∧
      locations path document = [[.member "x"], [.member "a", .member "x"]] ∧
      Crosses Precedes path document ∧ ¬Crosses (· ≠ ·) path document := by
  let path : JsonPath := [.descendant (.pick (.name "x"))]
  let document : Json := .obj [("a", .obj [("x", .int 1)]), ("x", .int 2)]
  have readable : read "$..x" = .ok path := by cbv
  have written : Json.read "\x7b\"a\": \x7b\"x\": 1\x7d, \"x\": 2\x7d" = .ok document := by
    refine Json.read_eq_ok ?_ (by decide +kernel)
    simp [document, Json.Readable, Json.ReadableMembers, Json.maxDepth, Json.Number.maxWhole]
  have queried : path.query document = .ok [.int 2, .int 1] := by rfl
  have places : locations path document = [[.member "x"], [.member "a", .member "x"]] := by rfl
  have forward : ∀ segment ∈ path, segment.selector.Forward := by
    simp [path, Segment.selector, Selector.Forward]
  obtain ⟨-, -, ordered, distinct, -, once, -⟩ :=
    query_in_document_order_iff (Json.inOrder_of_read written) forward queried
  refine ⟨path, document, readable, written, queried, places, ?_, distinct.mp (once (by decide))⟩
  by_contra none_
  have order := ordered.mpr none_
  rw [places] at order
  rcases precedes_cons_iff.mp (List.pairwise_pair.mp order) with before | ⟨same, -⟩
  · cases before with
    | member less => exact absurd less (by decide)
  · exact absurd (Move.member.inj same) (by decide)

end ApiProbe.JsonPath
