import ApiProbe.Proofs.JsonPath.Spelling

/-!
Every location of a document has a path. However the moves to a location are spelled, the path made
of the spellings is read and finds the value at that location, once and alone.
-/
namespace ApiProbe

namespace Json

theorem self_mem_subtree (node : Json) : node ∈ node.subtree := by
  cases node <;> simp [subtree]

theorem mem_itemSubtrees {items : List Json} {item value : Json} (member : item ∈ items)
    (inside : value ∈ item.subtree) : value ∈ itemSubtrees items := by
  induction items with
  | nil => cases member
  | cons first rest ih =>
    rw [itemSubtrees, List.mem_append]
    rcases List.mem_cons.mp member with rfl | later
    · exact .inl inside
    · exact .inr (ih later)

theorem mem_memberSubtrees {members : List (String × Json)} {item value : Json}
    (member : item ∈ Table.values members) (inside : value ∈ item.subtree) :
    value ∈ memberSubtrees members := by
  induction members with
  | nil => cases member
  | cons first rest ih =>
    rw [memberSubtrees, List.mem_append]
    rcases List.mem_cons.mp member with rfl | later
    · exact .inl inside
    · exact .inr (ih later)

end Json

namespace JsonPath
open Text

/-- What is below the target of a move is below the value that the move starts from. -/
theorem Move.subtree_target {move : Move} {node child value : Json}
    (leads : move.target? node = some child) (inside : value ∈ child.subtree) :
    value ∈ node.subtree := by
  cases node with
  | obj members =>
    cases move with
    | member key =>
      have found : Table.find? members key = some child := leads
      rw [Json.subtree]
      exact .tail _ (Json.mem_memberSubtrees (Table.mem_values_of_find? found) inside)
    | item position => cases leads
  | arr items =>
    cases move with
    | member key => cases leads
    | item position =>
      have found : items[position]? = some child := leads
      rw [Json.subtree]
      exact .tail _ (Json.mem_itemSubtrees (List.mem_of_getElem? found) inside)
  | _ => cases move <;> cases leads

/-- The value at a location, which is given by the moves that lead there. -/
def valueAt? : List Move → Json → Option Json
  | [], node => some node
  | move :: rest, node => (move.target? node).bind (valueAt? rest)

/-- The ways to write a location, one spelling for each move. -/
inductive SpellsAll : Json → List Move → String → Prop
  | here (node : Json) : SpellsAll node [] ""
  | down {node child : Json} {move : Move} {rest : List Move} {first others : String}
      (leads : move.target? node = some child) (spelled : Spells node move first)
      (remaining : SpellsAll child rest others) : SpellsAll node (move :: rest) (first ++ others)

namespace SpellsAll
variable {node value : Json} {location : List Move} {text : String}

theorem bounded (spelled : SpellsAll node location text) : Bounded text.toList := by
  cases spelled with
  | here =>
    intro c first
    cases first
  | down leads first remaining =>
    rw [String.toList_append]
    exact first.bounded _

/-- The text of a location has no blanks to be trimmed. -/
theorem trimmed (spelled : SpellsAll node location text) : trimRight text.toList = text.toList := by
  induction spelled with
  | here => rfl
  | down leads first remaining ih =>
    obtain ⟨front, last, split, visible⟩ := first.visible
    rw [String.toList_append, split, List.append_assoc, List.singleton_append,
      trimRight_append_visible visible, ih]

/-- The steps of a spelled location lead to the value there and to no other. -/
theorem reads (spelled : SpellsAll node location text) (found : valueAt? location node = some value)
    (small : ∀ items, Json.arr items ∈ node.subtree → Int.ofNat items.length ≤ Decimal.int64Max) :
    ∃ path, readSegments text.toList = .ok path ∧ follow path [node] = .ok [value] := by
  induction spelled with
  | here node =>
    cases found
    exact ⟨[], readSegments_blank rfl, rfl⟩
  | @down node child move rest first others leads spelled remaining ih =>
    have below : valueAt? rest child = some value := by
      simpa [valueAt?, leads] using found
    obtain ⟨path, steps, arrives⟩ := ih below fun items inside =>
      small items (move.subtree_target leads inside)
    obtain ⟨pick, picked, step⟩ := spelled.read leads fun items same =>
      small items (same ▸ node.self_mem_subtree)
    have start : trimLeft (first ++ others).toList = first.toList ++ others.toList := by
      rw [String.toList_append]
      exact trimLeft_eq_self fun c head =>
        visible_of_isNameEnd (spelled.bounded others.toList c head)
    refine ⟨.child (.pick pick) :: path, ?_, ?_⟩
    · have read : readStep (trimLeft (first ++ others).toList) =
          .ok (false, .done (.pick pick), others.toList) := by
        rw [start]
        exact step others.toList remaining.bounded
      rw [readSegments_step read (.done (.pick pick)), steps]
      rfl
    · rw [follow, gather_singleton, Segment.select, Selector.select, picked]
      exact arrives

end SpellsAll

/-- A location can be spelled unless a key on the way to it has quotes of both kinds. -/
theorem exists_spelling {document value : Json} {location : List Move}
    (found : valueAt? location document = some value)
    (quotable : ∀ key, Move.member key ∈ location → '\'' ∉ key.toList ∨ '"' ∉ key.toList) :
    ∃ text, SpellsAll document location text := by
  induction location generalizing document with
  | nil => exact ⟨"", .here document⟩
  | cons move rest ih =>
    obtain ⟨child, leads, below⟩ := Option.bind_eq_some_iff.mp found
    obtain ⟨others, remaining⟩ := ih below fun key member => quotable key (.tail _ member)
    cases move with
    | member key =>
      rcases quotable key (.head _) with free | free
      · exact ⟨_, .down leads (.quoted '\'' (.inl rfl) free) remaining⟩
      · exact ⟨_, .down leads (.quoted '"' (.inr rfl) free) remaining⟩
    | item position => exact ⟨_, .down leads (.fromStart position) remaining⟩

/-- Every location of a document is the only one that its paths find. The lists of a document have no
more items than 64 bits can count. -/
theorem location_found {document value : Json} {location : List Move}
    (found : valueAt? location document = some value)
    (small : ∀ items, Json.arr items ∈ document.subtree →
      Int.ofNat items.length ≤ Decimal.int64Max) :
    ((∀ key, Move.member key ∈ location → '\'' ∉ key.toList ∨ '"' ∉ key.toList) →
        ∃ text, SpellsAll document location text) ∧
      ∀ text, SpellsAll document location text →
        ∃ path, read ("$" ++ text) = .ok path ∧ path.query document = .ok [value] ∧
          path.select document = .ok (some value) := by
  refine ⟨exists_spelling found, fun text spelled => ?_⟩
  obtain ⟨path, steps, arrives⟩ := spelled.reads found small
  have whole : trimChars ("$" ++ text).toList = '$' :: text.toList := by
    have dollar : isBlank '$' = false := by decide
    rw [String.toList_append]
    change trimRight (trimLeft ('$' :: text.toList)) = _
    rw [trimLeft_cons_visible dollar]
    exact (trimRight_append_visible dollar [] text.toList).trans (by rw [spelled.trimmed]; rfl)
  have query : query path document = .ok [value] := arrives
  refine ⟨path, ?_, query, ?_⟩
  · rw [read_eq_ok, whole]
    exact steps
  · rw [select, query]
    rfl

/-- Keys that are empty or full of signs, and positions from either end. -/
theorem location_found_signs :
    let document : Json := .obj [("", .obj [("it's [a],b:(c)*?", .arr [.null, .obj [("x y", .int 7)]])])]
    let location := [Move.member "", .member "it's [a],b:(c)*?", .item 1, .member "x y"]
    valueAt? location document = some (.int 7) ∧
      ∃ path, read "$[''][\"it's [a],b:(c)*?\"][-1].x y" = .ok path ∧
        path.query document = .ok [.int 7] ∧ path.select document = .ok (some (.int 7)) := by
  intro document location
  have found : valueAt? location document = some (.int 7) := by rfl
  have small : ∀ items, Json.arr items ∈ document.subtree →
      Int.ofNat items.length ≤ Decimal.int64Max := by
    intro items member
    simp only [document, Json.subtree, Json.memberSubtrees, Json.itemSubtrees, List.append_nil,
      List.mem_cons, List.mem_append, reduceCtorEq, false_or, or_false, Json.arr.injEq,
      List.not_mem_nil] at member
    subst member
    decide
  have spelled : SpellsAll document location ("['']" ++ ("[\"it's [a],b:(c)*?\"]" ++
      ("[-1]" ++ (".x y" ++ "")))) :=
    .down rfl (.quoted '\'' (.inl rfl) (by decide)) <|
      .down rfl (.quoted '"' (.inr rfl) (by decide)) <|
        .down rfl (.fromEnd 1 rfl) <|
          .down rfl (.bare (by decide) (by decide) (by decide) (by decide)) (.here _)
  have reached := (location_found found small).2 _ spelled
  have joined : "$" ++ ("['']" ++ ("[\"it's [a],b:(c)*?\"]" ++ ("[-1]" ++ (".x y" ++ "")))) =
      "$[''][\"it's [a],b:(c)*?\"][-1].x y" := by decide
  rw [joined] at reached
  exact ⟨found, reached⟩

end JsonPath
end ApiProbe
