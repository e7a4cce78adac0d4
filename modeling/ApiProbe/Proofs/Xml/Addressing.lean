import ApiProbe.Extraction
import ApiProbe.Proofs.Decimal.Written
import ApiProbe.Proofs.Text.Cutting
import ApiProbe.Proofs.Xml.Markup.Origin
import ApiProbe.Proofs.Xml.RoundTrip
import Mathlib.Data.List.Basic

/-!
Every element of a tree has a path, in either notation. The way down to an element takes, at every
step, one of the children that a name stands for; written with the positions of these children, the
way is a path that leads to the element and to no other.
-/
namespace ApiProbe

namespace Decimal

theorem readNat?_toString {n limit : Nat} (bound : n ≤ limit) :
    readNat? limit (toString n).toList = some n := by
  have digits := all_isDigit_toDigits n
  have noSign : ((Nat.toDigits 10 n).head? == some '+') = false := by
    rw [beq_eq_false_iff_ne]
    intro first
    exact absurd (List.all_eq_true.mp digits '+' (List.mem_of_head? first)) (by decide)
  have some_ : (Nat.toDigits 10 n).isEmpty = false := by simp [Nat.toDigits_ne_nil]
  have size : ofDigits 0 (Nat.toDigits 10 n) = n := by
    rw [ofDigits_eq, Nat.ofDigitChars_toDigits (by decide) (by decide)]
  simp [readNat?, noSign, some_, digits, size, bound]

end Decimal

namespace Xml
open Text

/-- One of the children that a name stands for, counted from zero. -/
structure Place where
  name : String
  position : Nat
  deriving Repr, DecidableEq

namespace Place

def step (place : Place) : Step := ⟨place.name, some place.position⟩

/-- A place as it is written, with positions counted from `base`. -/
def spell (base : Nat) (place : Place) : String := s!"{place.name}[{place.position + base}]"

end Place

/-- The way down from one element to another. -/
inductive Leads : Element → List Place → Element → Prop
  | here (element : Element) : Leads element [] element
  | down {parent child element : Element} {before after : List Element} {rest : List Place}
      (split : parent.elements = before ++ child :: after) (below : Leads child rest element) :
      Leads parent (⟨child.name, (before.filter (·.isNamed child.name)).length⟩ :: rest) element

mutual

/-- There is a way to every element of a tree. -/
theorem exists_way {element : Element} :
    (root : Element) → element ∈ root.subtree → ∃ way, Leads root way element
  | .mk name attributes children, inside => by
    rw [Element.subtree] at inside
    rcases List.mem_cons.mp inside with rfl | below
    · exact ⟨[], .here _⟩
    · obtain ⟨before, child, after, way, split, leads⟩ := exists_way_nodes children below
      exact ⟨_, .down split leads⟩

theorem exists_way_nodes {element : Element} :
    (nodes : List Node) → element ∈ nodesSubtree nodes → ∃ before child after way,
      nodes.filterMap Node.element? = before ++ child :: after ∧ Leads child way element
  | [], inside => by cases inside
  | .text text :: rest, inside => exists_way_nodes rest inside
  | .element first :: rest, inside => by
    rw [nodesSubtree, List.mem_append] at inside
    rcases inside with here | later
    · obtain ⟨way, leads⟩ := exists_way first here
      exact ⟨[], first, rest.filterMap Node.element?, way, rfl, leads⟩
    · obtain ⟨before, child, after, way, split, leads⟩ := exists_way_nodes rest later
      exact ⟨first :: before, child, after, way, congrArg (first :: ·) split, leads⟩

end

/-- The way from the root as a path with slashes, in which positions are counted from one. -/
def slashPath (root : Element) (way : List Place) : String :=
  "/" ++ "/".intercalate (root.name :: way.map (Place.spell 1))

/-- The way from the root as a path with dots, in which positions are counted from zero. -/
def dottedPath (root : Element) (way : List Place) : String :=
  ".".intercalate (root.name :: way.map (Place.spell 0))

/-- The names on the way from the root, that of the root included. -/
def namesOn (root : Element) (way : List Place) : List String := root.name :: way.map Place.name

/-- A name that means nothing else in a path. There are no slashes in names that are read. -/
structure IsPlain (name : String) : Prop where
  noBracket : '[' ∉ name.toList
  noAttribute : name.toList.head? ≠ some '@'

/-- A path leads to one element alone and gives the text of it. -/
def Addresses (document : String) (root : Element) (text : String) (element : Element) : Prop :=
  Extraction.fromXml document text = .ok (some element.text) ∧
    ∃ path, Path.read text = .ok path ∧ path.elements root = [element]

theorem Element.isNamed_name (element : Element) : element.isNamed element.name = true := by
  simp [isNamed]

/-- A step with a position leads to the child at that position, among those of the name. -/
theorem follow_place {parent child : Element} {before after : List Element}
    (split : parent.elements = before ++ child :: after) :
    Path.follow ⟨child.name, some (before.filter (·.isNamed child.name)).length⟩ [parent] =
      [child] := by
  simp [Path.follow, Path.pick, split, List.filter_append, child.isNamed_name]

namespace Leads
variable {root element : Element} {way : List Place}

theorem follows (leads : Leads root way element) :
    (way.map Place.step).foldl (fun found step => Path.follow step found) [root] = [element] := by
  induction leads with
  | here => rfl
  | down split below ih =>
    rw [List.map_cons, List.foldl_cons, Place.step, follow_place split]
    exact ih

/-- On the way through a tree that fits, names are names and positions are below the limit. -/
theorem fits {limit : Nat} (leads : Leads root way element) (fits : root.Fits limit) :
    ∀ place ∈ way, IsName place.name ∧ place.position < limit := by
  induction leads with
  | here => nofun
  | @down parent child element before after rest split below ih =>
    have inside : child ∈ parent.elements := by simp [split]
    have childFits := fits.of_mem_elements inside
    intro place member
    rcases List.mem_cons.mp member with rfl | later
    · refine ⟨childFits.isName, ?_⟩
      have few := fits.length_elements
      have fewer := List.length_filter_le (·.isNamed child.name) before
      rw [split, List.length_append, List.length_cons] at few
      dsimp only
      omega
    · exact ih childFits place later

end Leads

/-! ### Reading the written way -/

section
variable {base : Nat} {place : Place}

theorem Place.toList_spell (base : Nat) (place : Place) :
    (place.spell base).toList =
      place.name.toList ++ '[' :: (Nat.toDigits 10 (place.position + base) ++ [']']) := by
  simp only [Place.spell, String.toList_append, List.append_assoc, Decimal.toList_ofNat]
  rfl

theorem visible_of_isName {name : String} (isName : IsName name) :
    ∀ c ∈ name.toList, isBlank c = false :=
  fun c member => (isName.2 c member).1

/-- What is written of a place can be seen, and the signs between places are not in it. -/
theorem Place.mem_spell (isName : IsName place.name) {c : Char}
    (member : c ∈ (place.spell base).toList) :
    isBlank c = false ∧ c ≠ '/' ∧ ('.' ∉ place.name.toList → c ≠ '.') := by
  rw [toList_spell, List.mem_append, List.mem_cons, List.mem_append, List.mem_singleton] at member
  rcases member with inside | rfl | digit | rfl
  · exact ⟨visible_of_isName isName c inside, (isName.2 c inside).2.1,
      fun free same => free (same ▸ inside)⟩
  · exact ⟨by decide, by decide, fun _ => by decide⟩
  · have numeral : Decimal.isNumeral c = true := by
      simp [Decimal.isNumeral, List.all_eq_true.mp (Decimal.all_isDigit_toDigits _) c digit]
    exact ⟨Decimal.visible_of_isNumeral numeral, Decimal.ne_of_isNumeral numeral '/' rfl,
      fun _ => Decimal.ne_of_isNumeral numeral '.' rfl⟩
  · exact ⟨by decide, by decide, fun _ => by decide⟩

/-- A written place is read as the step to it. -/
theorem readStep_spell (plain : IsPlain place.name) (isName : IsName place.name)
    (bound : place.position + base ≤ Path.maxIndex) :
    Path.readStep base (place.spell base).toList = .ok place.step := by
  have digits : ∀ c ∈ Nat.toDigits 10 (place.position + base), isBlank c = false := by
    intro c digit
    have member : c ∈ (place.spell base).toList := by simp [Place.toList_spell, digit]
    exact (Place.mem_spell isName member).1
  have closed : (place.spell base).toList.getLast? = some ']' := by
    rw [Place.toList_spell, ← List.cons_append, ← List.append_assoc, List.getLast?_concat]
  have cut : cutAt? ['['] (place.spell base).toList =
      some (place.name.toList, Nat.toDigits 10 (place.position + base) ++ [']']) := by
    rw [Place.toList_spell, cutAt?_of_not_mem plain.noBracket]
  have number : Decimal.readNat? Path.maxIndex (Nat.toDigits 10 (place.position + base)) =
      some (place.position + base) := by
    rw [← Decimal.toList_ofNat, Decimal.readNat?_toString bound]
  have name : trim place.name = place.name := by
    rw [trim, trimChars_of_visible (visible_of_isName isName), String.ofList_toList]
  have notBelow : ¬ place.position + base < base := by omega
  rw [Path.readStep, cut]
  simp [closed, trimChars_of_visible digits, number, name, notBelow, Place.step]

/-- The name of the root is read as a step without a position. -/
theorem readStep_name {name : String} (base : Nat) (plain : IsPlain name) :
    Path.readStep base name.toList = .ok ⟨name, none⟩ := by
  rw [Path.readStep, cutAt?_eq_none plain.noBracket, String.ofList_toList]

theorem readSteps_spell {way : List Place}
    (names : ∀ place ∈ way, IsPlain place.name ∧ IsName place.name)
    (bound : ∀ place ∈ way, place.position + base ≤ Path.maxIndex) :
    Path.readSteps base (way.map fun place => (place.spell base).toList) =
      .ok (way.map Place.step) := by
  induction way with
  | nil => rfl
  | cons place rest ih =>
    obtain ⟨plain, isName⟩ := names place List.mem_cons_self
    have first := readStep_spell plain isName (bound place List.mem_cons_self)
    have others := ih (fun place member => names place (.tail _ member))
      (fun place member => bound place (.tail _ member))
    rw [List.map_cons, Path.readSteps, first, others]
    rfl

end

/-- A way that a path can be made of, with positions counted from `base`. -/
structure Writable (base : Nat) (root : Element) (way : List Place) : Prop where
  some_ : way ≠ []
  plain : ∀ name ∈ namesOn root way, IsPlain name
  isName : ∀ name ∈ namesOn root way, IsName name
  bound : ∀ place ∈ way, place.position + base ≤ Path.maxIndex

/-- The segments of the path: the name of the root, and the places. -/
def segmentsOf (base : Nat) (root : Element) (way : List Place) : List (List Char) :=
  root.name.toList :: way.map fun place => (place.spell base).toList

namespace Writable
variable {base : Nat} {root : Element} {way : List Place} (writable : Writable base root way)
include writable

theorem readSteps : Path.readSteps base (segmentsOf base root way) =
    .ok (⟨root.name, none⟩ :: way.map Place.step) := by
  have inWay {place : Place} (member : place ∈ way) : place.name ∈ namesOn root way :=
    .tail _ (List.mem_map_of_mem member)
  have others := readSteps_spell
    (fun place member => ⟨writable.plain _ (inWay member), writable.isName _ (inWay member)⟩)
    writable.bound
  rw [segmentsOf, Path.readSteps, readStep_name base (writable.plain _ List.mem_cons_self), others]
  rfl

/-- The last segment is no attribute and no mark for the text. -/
theorem splitTarget (slashes : Bool) :
    Path.splitTarget slashes (segmentsOf base root way) = .ok (segmentsOf base root way, .text) := by
  obtain ⟨front, place, rfl⟩ := (List.eq_nil_or_concat' way).resolve_left writable.some_
  have inWay : place.name ∈ namesOn root (front ++ [place]) := by simp [namesOn]
  have last : (segmentsOf base root (front ++ [place])).getLast? = some (place.spell base).toList := by
    rw [segmentsOf, List.map_append, ← List.cons_append]
    exact List.getLast?_concat
  obtain ⟨c, rest, chars, -⟩ := (writable.isName _ inWay).some
  have noAttribute := (writable.plain _ inWay).noAttribute
  have bracket : '[' ∈ (place.spell base).toList := by simp [Place.toList_spell]
  have noMark : ((place.spell base).toList == "text()".toList) = false := by
    rw [beq_eq_false_iff_ne]
    intro same
    exact absurd (same ▸ bracket) (by decide)
  rw [Path.splitTarget, last]
  split
  · rename_i same
    rw [Place.toList_spell, chars, List.cons_append] at same
    cases same
    exact absurd (by rw [chars]; rfl) noAttribute
  · rename_i same
    cases same
    rw [noMark, Bool.and_false, if_neg Bool.false_ne_true]
  · rename_i same
    cases same

theorem visible : ∀ segment ∈ segmentsOf base root way,
    segment ≠ [] ∧ ∀ c ∈ segment, isBlank c = false := by
  intro segment member
  rcases List.mem_cons.mp member with rfl | inWay
  · have isName := writable.isName root.name List.mem_cons_self
    exact ⟨by simpa using isName.1, visible_of_isName isName⟩
  · obtain ⟨place, inside, rfl⟩ := List.mem_map.mp inWay
    have isName := writable.isName place.name (.tail _ (List.mem_map_of_mem inside))
    exact ⟨by simp [Place.toList_spell], fun c member => (Place.mem_spell isName member).1⟩

/-- A path that is made of the segments, with a slash in front or not, is read as the steps. -/
theorem readTrimmed {slashes : Bool} {separator : Char} {chars : List Char}
    (kind : chars.contains '/' = slashes) (separates : (if slashes then '/' else '.') = separator)
    (counts : (if slashes then 1 else 0) = base) (notAnywhere : startsWith "//" chars = false)
    (body : chars.dropWhile (· == '/') = [separator].intercalate (segmentsOf base root way))
    (free : ∀ segment ∈ segmentsOf base root way, separator ∉ segment) :
    Path.readTrimmed chars = .ok ⟨⟨root.name, none⟩, way.map Place.step, .text, false⟩ := by
  have apart : parts separator ([separator].intercalate (segmentsOf base root way)) =
      segmentsOf base root way := parts_intercalate (List.cons_ne_nil _ _) free
  have trimmed : (segmentsOf base root way).map trimChars = segmentsOf base root way :=
    List.map_congr_left (fun segment member =>
      trimChars_of_visible (writable.visible segment member).2) |>.trans (List.map_id' _)
  have noneEmpty : (segmentsOf base root way).any List.isEmpty = false := by
    rw [List.any_eq_false]
    intro segment member
    simpa using (writable.visible segment member).1
  unfold Path.readTrimmed
  simp only [kind, notAnywhere, body, separates, counts, Bool.false_eq_true, if_false, apart,
    trimmed, noneEmpty, writable.splitTarget, writable.readSteps, bind, Except.bind, pure,
    Except.pure]

theorem noSlash : ∀ segment ∈ segmentsOf base root way, '/' ∉ segment := by
  intro segment member inside
  rcases List.mem_cons.mp member with rfl | inWay
  · exact ((writable.isName root.name List.mem_cons_self).2 '/' inside).2.1 rfl
  · obtain ⟨place, among, rfl⟩ := List.mem_map.mp inWay
    have isName := writable.isName place.name (.tail _ (List.mem_map_of_mem among))
    exact (Place.mem_spell isName inside).2.1 rfl

theorem noDot (dotless : ∀ name ∈ namesOn root way, '.' ∉ name.toList) :
    ∀ segment ∈ segmentsOf base root way, '.' ∉ segment := by
  intro segment member inside
  rcases List.mem_cons.mp member with rfl | inWay
  · exact dotless root.name List.mem_cons_self inside
  · obtain ⟨place, among, rfl⟩ := List.mem_map.mp inWay
    have onWay : place.name ∈ namesOn root way := .tail _ (List.mem_map_of_mem among)
    exact (Place.mem_spell (writable.isName _ onWay) inside).2.2 (dotless _ onWay) rfl

/-- The path starts with the name of the root, behind the slash if there is one. -/
theorem starts (separator : Char) : ∃ c rest,
    [separator].intercalate (segmentsOf base root way) = c :: rest ∧ c ≠ '/' := by
  obtain ⟨c, more, chars, inside⟩ := (writable.isName root.name List.mem_cons_self).some
  have different : c ≠ '/' := ne_of_isNameEnd inside rfl
  cases way with
  | nil =>
    rw [segmentsOf, List.map_nil, List.intercalate_singleton, chars]
    exact ⟨c, more, rfl, different⟩
  | cons place others =>
    rw [segmentsOf, List.map_cons, List.intercalate_cons_cons, chars, List.cons_append,
      List.cons_append]
    exact ⟨c, _, rfl, different⟩

theorem visible_intercalate {separator : Char} (visible : isBlank separator = false) :
    ∀ c ∈ [separator].intercalate (segmentsOf base root way), isBlank c = false := by
  intro c member
  rcases mem_intercalate member with rfl | ⟨segment, among, inside⟩
  · exact visible
  · exact (writable.visible segment among).2 c inside

end Writable

section
variable {document : String} {root element : Element} {way : List Place}

/-- The path of a way leads where the way leads. -/
theorem Leads.addresses (leads : Leads root way element) (found : read document = .ok root)
    {text : String} (visible : ∀ c ∈ text.toList, isBlank c = false)
    (reads : Path.readTrimmed text.toList =
      .ok ⟨⟨root.name, none⟩, way.map Place.step, .text, false⟩) :
    Addresses document root text element := by
  have path : Path.read text = .ok ⟨⟨root.name, none⟩, way.map Place.step, .text, false⟩ := by
    simp only [Path.read, trimChars_of_visible visible, reads]
  have arrives : Path.elements ⟨⟨root.name, none⟩, way.map Place.step, .text, false⟩ root =
      [element] := by
    have start : Path.start ⟨⟨root.name, none⟩, way.map Place.step, .text, false⟩ root = [root] := by
      simp [Path.start, root.isNamed_name, Path.pick]
    rw [Path.elements, start]
    exact leads.follows
  refine ⟨?_, _, path, arrives⟩
  simp only [Extraction.fromXml, Extraction.refuse, path, found, bind, Except.bind, pure,
    Except.pure, Path.evaluate, arrives]
  rfl

theorem slashPath_addresses (leads : Leads root way element) (found : read document = .ok root)
    (writable : Writable 1 root way) : Addresses document root (slashPath root way) element := by
  have chars : (slashPath root way).toList = '/' :: ['/'].intercalate (segmentsOf 1 root way) := by
    rw [slashPath, String.toList_append, String.toList_intercalate, List.map_cons, List.map_map]
    rfl
  obtain ⟨c, rest, shape, different⟩ := writable.starts '/'
  have visible : ∀ c ∈ (slashPath root way).toList, isBlank c = false := by
    rw [chars]
    intro c member
    rcases List.mem_cons.mp member with rfl | inside
    · decide
    · exact writable.visible_intercalate (by decide) c inside
  have slash : (slashPath root way).toList.contains '/' = true := by simp [chars]
  have notAnywhere : startsWith "//" (slashPath root way).toList = false := by
    rw [chars, shape]
    simp [startsWith, List.isPrefixOf, beq_eq_false_iff_ne.mpr different.symm]
  have body : (slashPath root way).toList.dropWhile (· == '/') =
      ['/'].intercalate (segmentsOf 1 root way) := by
    rw [chars, shape, List.dropWhile_cons_of_pos rfl,
      List.dropWhile_cons_of_neg (by simpa using different)]
  exact leads.addresses found visible
    (writable.readTrimmed slash rfl rfl notAnywhere body writable.noSlash)

theorem dottedPath_addresses (leads : Leads root way element) (found : read document = .ok root)
    (writable : Writable 0 root way) (dotless : ∀ name ∈ namesOn root way, '.' ∉ name.toList) :
    Addresses document root (dottedPath root way) element := by
  have chars : (dottedPath root way).toList = ['.'].intercalate (segmentsOf 0 root way) := by
    rw [dottedPath, String.toList_intercalate, List.map_cons, List.map_map]
    rfl
  obtain ⟨c, rest, shape, different⟩ := writable.starts '.'
  have visible : ∀ c ∈ (dottedPath root way).toList, isBlank c = false :=
    chars ▸ writable.visible_intercalate (by decide)
  have noSlash : (dottedPath root way).toList.contains '/' = false := by
    rw [chars, ← Bool.not_eq_true, List.contains_iff_mem]
    intro member
    rcases mem_intercalate member with same | ⟨segment, among, inside⟩
    · exact absurd same (by decide)
    · exact writable.noSlash segment among inside
  have notAnywhere : startsWith "//" (dottedPath root way).toList = false := by
    rw [chars, shape]
    simp [startsWith, List.isPrefixOf, beq_eq_false_iff_ne.mpr different.symm]
  have body : (dottedPath root way).toList.dropWhile (· == '/') =
      ['.'].intercalate (segmentsOf 0 root way) := by
    rw [chars, shape, List.dropWhile_cons_of_neg (by simpa using different)]
  exact leads.addresses found visible
    (writable.readTrimmed noSlash rfl rfl notAnywhere body (writable.noDot dotless))

end

/-- Every element of a tree that was read can be addressed in both notations: there is a way to it,
and the path of the way gives the text of that element and of no other. Names are told apart from
positions and attributes, and from each other where they are separated by dots. The document is no
longer than positions can count. -/
theorem elements_addressed {document : String} {root : Element} (found : read document = .ok root)
    (bound : document.length ≤ Path.maxIndex) :
    (∀ element ∈ root.subtree, ∃ way, Leads root way element) ∧
      ∀ element way, Leads root way element → way ≠ [] →
        (∀ name ∈ namesOn root way, IsPlain name) →
          Addresses document root (slashPath root way) element ∧
            ((∀ name ∈ namesOn root way, '.' ∉ name.toList) →
              Addresses document root (dottedPath root way) element) := by
  refine ⟨fun element inside => exists_way root inside, fun element way leads some_ plain => ?_⟩
  have rootFits := fits_of_read found
  have placesFit := leads.fits rootFits
  have isName : ∀ name ∈ namesOn root way, IsName name := by
    intro name member
    rcases List.mem_cons.mp member with rfl | below
    · exact rootFits.isName
    · obtain ⟨place, among, rfl⟩ := List.mem_map.mp below
      exact (placesFit place among).1
  have writable (base : Nat) (small : base ≤ 1) : Writable base root way :=
    ⟨some_, plain, isName, fun place member => by have := (placesFit place member).2; omega⟩
  exact ⟨slashPath_addresses leads found (writable 1 (Nat.le_refl 1)),
    dottedPath_addresses leads found (writable 0 (Nat.zero_le 1))⟩

/-- A name without a namespace counts the children of that name in every namespace. -/
theorem elements_addressed_namespaces :
    let document := "<a><n:b>x</n:b><b><c></c><c> deep </c></b></a>"
    let element : Element := .mk "c" [] [.text " deep "]
    let parent : Element := .mk "b" [] [.element (.mk "c" [] []), .element element]
    let root : Element := .mk "a" [] [.element (.mk "n:b" [] [.text "x"]), .element parent]
    read document = .ok root ∧ document.length ≤ Path.maxIndex ∧
      Leads root [⟨"b", 1⟩, ⟨"c", 1⟩] element ∧
      Addresses document root "/a/b[2]/c[2]" element ∧
      Addresses document root "a.b[1].c[1]" element ∧ element.text = "deep" := by
  intro document element parent root
  have neat : root.Neat := by
    simp [root, parent, element, Element.Neat, NeatNodes, IsElementName, IsName]
    decide
  have printed : root.print = document := by decide
  have found : read document = .ok root := by
    obtain ⟨markup, written, same⟩ := exists_markup neat
    rw [← printed, ← written, read_markup, same]
  have bound : document.length ≤ Path.maxIndex := by decide
  have inner : Leads parent [⟨"c", 1⟩] element :=
    @Leads.down parent element element [.mk "c" [] []] [] [] rfl (.here element)
  have counted : ([Element.mk "n:b" [] [.text "x"]].filter (·.isNamed "b")).length = 1 := by decide
  have leads : Leads root [⟨"b", 1⟩, ⟨"c", 1⟩] element := by
    have down := @Leads.down root parent element [.mk "n:b" [] [.text "x"]] [] _ rfl inner
    rwa [show parent.name = "b" from rfl, counted] at down
  have plain : ∀ name ∈ namesOn root [⟨"b", 1⟩, ⟨"c", 1⟩], IsPlain name := by
    simp only [namesOn, List.map_cons, List.map_nil, List.forall_mem_cons, List.not_mem_nil,
      false_implies, implies_true, and_true]
    exact ⟨⟨by decide, by decide⟩, ⟨by decide, by decide⟩, ⟨by decide, by decide⟩⟩
  obtain ⟨slashes, dots⟩ := (elements_addressed found bound).2 element _ leads (by simp) plain
  exact ⟨found, bound, leads, slashes, dots (by decide), by decide⟩

end Xml
end ApiProbe
