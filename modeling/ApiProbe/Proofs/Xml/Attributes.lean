import ApiProbe.Extraction
import ApiProbe.Proofs.Attempt
import ApiProbe.Proofs.Text.Cutting
import ApiProbe.Proofs.Xml.RoundTrip

/-!
Attributes at the end of a path. A name stands for the attribute of that name and, whatever the
namespace, for those with the name behind their colon. The first of all these is found, so an attribute
is found by its exact name unless one with a namespace stands in front of it.
-/
namespace ApiProbe.Xml
open Text Attempt

/-- Value of the first attribute of exactly that name. -/
def Element.written? (element : Element) (name : String) : Option String :=
  (element.attributes.find? fun entry => entry.1 == name).map Prod.snd

/-- Value of the first attribute with that name in a namespace, in front of all those of exactly that
name. -/
def Element.shadow? (element : Element) (name : String) : Option String :=
  ((element.attributes.takeWhile fun entry => entry.1 != name).find? fun entry =>
    localName entry.1 == name).map Prod.snd

/-- The last segment of a path names an attribute. Blanks may stand around the segment. -/
def EndsIn (text key : String) : Prop :=
  ∃ front separator blanks,
    trimChars text.toList = front ++ separator :: (blanks ++ '@' :: key.toList) ∧
      (∀ c ∈ blanks, isBlank c = true) ∧
      (separator = '/' ∨ separator = '.' ∧ '/' ∉ text.toList)

/-! ### The attribute that is found -/

section
variable (element : Element) (name : String)

/-- An attribute of exactly the name is found if none with a namespace shadows it. -/
theorem Element.attribute?_eq :
    element.attribute? name = (element.shadow? name).or (element.written? name) := by
  obtain ⟨tag, attributes, children⟩ := element
  simp only [attribute?, written?, shadow?, Element.attributes]
  induction attributes with
  | nil => rfl
  | cons entry rest ih =>
    by_cases exact_ : entry.1 = name
    · simp [exact_]
    · by_cases behind : localName entry.1 = name
      · simp [exact_, behind]
      · simpa [exact_, behind] using ih

theorem Element.written?_isSome (named : name ∈ element.attributes.map Prod.fst) :
    ∃ value, element.written? name = some value := by
  obtain ⟨entry, among, same⟩ := List.mem_map.mp named
  have found : (element.attributes.find? fun entry => entry.1 == name).isSome := by
    rw [List.find?_isSome]
    exact ⟨entry, among, by simp [same]⟩
  obtain ⟨first, found⟩ := Option.isSome_iff_exists.mp found
  exact ⟨first.2, by rw [written?, found]; rfl⟩

/-- A name with a namespace is never behind a colon. -/
theorem Element.shadow?_eq_none (spaced : ':' ∈ name.toList) : element.shadow? name = none := by
  rw [shadow?, Option.map_eq_none_iff, List.find?_eq_none]
  intro entry _ same
  have inside : ':' ∈ localPart entry.1.toList := by
    rw [← eq_of_beq same, localName, String.toList_ofList] at spaced
    exact spaced
  rw [localPart, List.mem_reverse] at inside
  simpa using List.mem_takeWhile_imp inside

end

/-! ### The target of a path -/

section
variable {text key : String} {path : Path}

/-- The text of a path without the slashes in front of it. -/
def stripped (chars : List Char) : List Char :=
  if startsWith "//" chars then chars.drop 2 else chars.dropWhile (· == '/')

/-- What stands behind the last slash is kept. -/
theorem stripped_slash {front last : List Char} (free : '/' ∉ last) :
    stripped (front ++ '/' :: last) = last ∨
      ∃ kept, stripped (front ++ '/' :: last) = kept ++ '/' :: last := by
  have whole : last.dropWhile (· == '/') = last := by
    cases last with
    | nil => rfl
    | cons c more => exact List.dropWhile_cons_of_neg fun same => free (by simp [eq_of_beq same])
  rw [stripped]
  split
  · rename_i slashes
    match front with
    | [] =>
      obtain ⟨more, shape⟩ := startsWith_iff.mp slashes
      have shape : '/' :: '/' :: more = '/' :: last := shape
      cases shape
      exact absurd List.mem_cons_self free
    | [_] => exact .inl rfl
    | _ :: _ :: kept => exact .inr ⟨kept, rfl⟩
  · rw [List.dropWhile_append]
    split
    · rw [List.dropWhile_cons_of_pos rfl, whole]
      exact .inl rfl
    · exact .inr ⟨_, rfl⟩

theorem stripped_of_not_mem {chars : List Char} (free : '/' ∉ chars) : stripped chars = chars := by
  have noSlashes : startsWith "//" chars = false := by
    rw [← Bool.not_eq_true, startsWith_iff]
    intro begins
    exact free (begins.subset (by decide))
  rw [stripped, noSlashes, if_neg Bool.false_ne_true]
  cases chars with
  | nil => rfl
  | cons c more => exact List.dropWhile_cons_of_neg fun same => free (by simp [eq_of_beq same])

/-- The last segment of a path that ends in the name of an attribute. -/
theorem EndsIn.getLast? (ends : EndsIn text key) (plain : '.' ∉ key.toList ∧ '/' ∉ key.toList) :
    let chars := trimChars text.toList
    ((parts (if chars.contains '/' then '/' else '.') (stripped chars)).map trimChars).getLast? =
      some ('@' :: key.toList) := by
  obtain ⟨front, separator, blanks, shape, blank, sign⟩ := ends
  intro chars
  have shape : chars = front ++ separator :: (blanks ++ '@' :: key.toList) := shape
  have segment : trimChars (blanks ++ '@' :: key.toList) = '@' :: key.toList := by
    have last : ∀ c, ('@' :: key.toList).getLast? = some c → isBlank c = false := by
      intro c found
      have last : (trimRight (trimLeft text.toList)).getLast? = some c := by
        rw [← trimChars, show trimChars text.toList = _ from shape, ← List.cons_append,
          ← List.append_assoc, List.getLast?_append, found]
        rfl
      exact visible_of_trimRight last
    rw [trimChars, trimLeft_blanks blank (by decide), trimRight_eq_self last]
  have free : separator ∉ blanks ++ '@' :: key.toList := by
    rw [List.mem_append, List.mem_cons]
    rcases sign with rfl | ⟨rfl, -⟩
    · rintro (among | same | inside)
      · exact absurd (blank _ among) (by decide)
      · cases same
      · exact plain.2 inside
    · rintro (among | same | inside)
      · exact absurd (blank _ among) (by decide)
      · cases same
      · exact plain.1 inside
  have last : (parts (if chars.contains '/' then '/' else '.') (stripped chars)).getLast? =
      some (blanks ++ '@' :: key.toList) := by
    rcases sign with rfl | ⟨rfl, noSlash⟩
    · have slashes : chars.contains '/' = true := by simp [shape]
      rw [slashes, if_pos rfl, shape]
      obtain same | ⟨kept, same⟩ := stripped_slash free
      · rw [same, parts_eq_singleton free]
        rfl
      · rw [same, getLast?_parts free]
    · have noSlash : '/' ∉ chars := fun inside => noSlash (mem_of_mem_trimChars inside)
      have dotted : chars.contains '/' = false := by simpa using noSlash
      rw [dotted, if_neg Bool.false_ne_true, stripped_of_not_mem noSlash, shape, getLast?_parts free]
  rw [List.getLast?_map, last, Option.map_some, segment]

/-- An attribute in the last segment is the target of the path. -/
theorem Path.target_of_read (readable : Path.read text = .ok path) (ends : EndsIn text key)
    (plain : '.' ∉ key.toList ∧ '/' ∉ key.toList) : path.target = .attribute key := by
  have last := ends.getLast? plain
  dsimp only [stripped] at last
  have done : Path.readTrimmed (trimChars text.toList) = .ok path := by
    rw [Path.read] at readable
    split at readable
    · rename_i done
      cases readable
      exact done
    · cases readable
  rw [Path.readTrimmed] at done
  dsimp only at done
  generalize List.map trimChars (parts _ _) = segments at done last
  split at done
  · obtain ⟨_, refused, _⟩ := bind_eq_ok_iff.mp done
    exact absurd refused throw_ne_ok
  obtain ⟨⟨names, target⟩, targeted, stepped⟩ := bind_eq_ok_iff.mp done
  obtain ⟨steps, _, built⟩ := bind_eq_ok_iff.mp stepped
  rw [Path.splitTarget, last] at targeted
  dsimp only at built targeted
  split at targeted
  · rename_i same
    cases same
    split at targeted
    · cases targeted
    · cases targeted
      split at built
      · exact absurd built throw_ne_ok
      · cases built
        exact congrArg Target.attribute String.ofList_toList
  · rename_i other same
    cases same
    exact absurd rfl (other _)
  · rename_i none
    cases none

end

/-! ### Attributes by their names -/

/-- A path that leads to one element and ends in the name of an attribute of it finds the first
attribute of exactly that name, or in its place the first one that shadows it. So the exact name is
found exactly if nothing shadows it with another value, and always if the name has a namespace. -/
theorem attribute_found {document text key : String} {root element : Element} {path : Path}
    (found : read document = .ok root) (readable : Path.read text = .ok path)
    (alone : path.elements root = [element]) (ends : EndsIn text key)
    (named : key ∈ element.attributes.map Prod.fst) (plain : '.' ∉ key.toList ∧ '/' ∉ key.toList) :
    ∃ value, element.written? key = some value ∧
      Extraction.fromXml document text = .ok (some ((element.shadow? key).getD value)) ∧
      (Extraction.fromXml document text = .ok (some value) ↔
        ∀ shadow, element.shadow? key = some shadow → shadow = value) ∧
      (':' ∈ key.toList → Extraction.fromXml document text = .ok (some value)) := by
  obtain ⟨value, own⟩ := element.written?_isSome key named
  have account : Extraction.fromXml document text =
      .ok (some ((element.shadow? key).getD value)) := by
    have target := Path.target_of_read readable ends plain
    have value' : element.attribute? key = some ((element.shadow? key).getD value) := by
      rw [element.attribute?_eq, own]
      cases element.shadow? key <;> rfl
    have evaluated : path.evaluate root = some ((element.shadow? key).getD value) := by
      rw [Path.evaluate, alone, target, List.findSome?_cons, Path.Target.read?, value']
    rw [Extraction.fromXml, readable, found]
    exact congrArg Except.ok evaluated
  refine ⟨value, own, account, ?_, fun spaced => ?_⟩
  · rw [account]
    cases element.shadow? key <;> simp
  · rw [account, element.shadow?_eq_none key spaced]
    rfl

/-- An attribute in front with the name in a namespace is found in the place of the one of exactly that
name. -/
theorem attribute_shadowed :
    let root : Element := .mk "a" [("x:id", "1"), ("id", "2")] []
    let path : Path := ⟨⟨"a", none⟩, [], .attribute "id", false⟩
    read "<a x:id=\"1\" id=\"2\"></a>" = .ok root ∧ Path.read "a.@id" = .ok path ∧
      path.elements root = [root] ∧ EndsIn "a.@id" "id" ∧ root.written? "id" = some "2" ∧
      Extraction.fromXml "<a x:id=\"1\" id=\"2\"></a>" "a.@id" = .ok (some "1") := by
  intro root path
  have neat : root.Neat := by
    simp [root, Element.Neat, NeatNodes, IsElementName, IsName]
    decide
  have found : read "<a x:id=\"1\" id=\"2\"></a>" = .ok root := by
    obtain ⟨markup, written, same⟩ := exists_markup neat
    rw [show "<a x:id=\"1\" id=\"2\"></a>" = root.print by decide, ← written, read_markup, same]
  have readable : Path.read "a.@id" = .ok path := rfl
  have ends : EndsIn "a.@id" "id" :=
    ⟨['a'], '.', [], by decide, List.forall_mem_nil _, .inr ⟨rfl, by decide⟩⟩
  refine ⟨found, readable, rfl, ends, rfl, ?_⟩
  rw [Extraction.fromXml, readable, found]
  rfl

/-- Behind the attribute of exactly the name, one in a namespace is not found by that name, but by its
own. -/
theorem attribute_found_namespace :
    let element : Element := .mk "b" [("id", "2"), ("x:id", "1")] []
    let root : Element := .mk "a" [] [.element element]
    let document := "<a><b id=\"2\" x:id=\"1\"></b></a>"
    let path : Path := ⟨⟨"a", none⟩, [⟨"b", some 0⟩], .attribute "id", false⟩
    read document = .ok root ∧ Path.read "/a/b[1]/ @id" = .ok path ∧
      path.elements root = [element] ∧ EndsIn "/a/b[1]/ @id" "id" ∧
      "id" ∈ element.attributes.map Prod.fst ∧ element.written? "id" = some "2" ∧
      element.shadow? "id" = none ∧
      Extraction.fromXml document "/a/b[1]/ @id" = .ok (some "2") := by
  intro element root document path
  have neat : root.Neat := by
    simp [root, element, Element.Neat, NeatNodes, IsElementName, IsName]
    decide
  have found : read document = .ok root := by
    obtain ⟨markup, written, same⟩ := exists_markup neat
    rw [show document = root.print by decide, ← written, read_markup, same]
  have readable : Path.read "/a/b[1]/ @id" = .ok path := rfl
  have ends : EndsIn "/a/b[1]/ @id" "id" :=
    ⟨"/a/b[1]".toList, '/', [' '], by decide, List.forall_mem_singleton.mpr rfl, .inl rfl⟩
  have named : "id" ∈ element.attributes.map Prod.fst := by decide
  have unshadowed : element.shadow? "id" = none := by decide
  obtain ⟨value, own, -, exact_, -⟩ :=
    attribute_found found readable rfl ends named ⟨by decide, by decide⟩
  cases own
  exact ⟨found, readable, rfl, ends, named, rfl, unshadowed, exact_.mpr (by simp [unshadowed])⟩

end ApiProbe.Xml
