import ApiProbe.Proofs.Xml.Escaping
import ApiProbe.Proofs.Xml.Markup.Reading

/-!
Documents that are written and read again. A tree is written with a start tag and an end tag for every
element, attributes in double quotes, and references for the signs that mean something. Reading a
written tree gives the tree back, whatever its texts and values hold.
-/
namespace ApiProbe.Xml
open Text

/-- The name of an element also has to look unlike a comment or an instruction. -/
def IsElementName (name : String) : Prop :=
  IsName name ∧ name.toList.head? ≠ some '!' ∧ name.toList.head? ≠ some '?'

mutual

/-- A tree that can be written: names that are names, and texts that are neither empty nor side by
side. -/
def Element.Neat : Element → Prop
  | .mk name attributes children =>
    IsElementName name ∧ (∀ entry ∈ attributes, IsName entry.1) ∧ NeatNodes children

def NeatNodes : List Node → Prop
  | [] => True
  | .text text :: rest => text ≠ "" ∧ (∀ other, rest.head? ≠ some (.text other)) ∧ NeatNodes rest
  | .element element :: rest => element.Neat ∧ NeatNodes rest

end

def writtenAttributes : List (String × String) → List Char
  | [] => []
  | (key, value) :: rest =>
    ' ' :: (key.toList ++ '=' :: '"' :: (escaped value.toList ++ '"' :: writtenAttributes rest))

mutual

/-- An element as it is written, behind its opening angle bracket. -/
def Element.written : Element → List Char
  | .mk name attributes children =>
    name.toList ++ (writtenAttributes attributes ++ '>' ::
      (writtenNodes children ++ '<' :: '/' :: (name.toList ++ ['>'])))

def writtenNodes : List Node → List Char
  | [] => []
  | .text text :: rest => escaped text.toList ++ writtenNodes rest
  | .element element :: rest => '<' :: (element.written ++ writtenNodes rest)

end

/-- The text of a document with an element as its root. -/
def Element.print (root : Element) : String := String.ofList ('<' :: root.written)

/-! ### What is written is markup -/

/-- An attribute in double quotes, behind a space. -/
def Attribute.ofEntry (key : String) (isName : IsName key) (value : String) : Attribute where
  lead := ⟨[' '], List.forall_mem_singleton.mpr rfl⟩
  key := key
  isName := isName
  beforeSign := noBlanks
  afterSign := noBlanks
  quote := '"'
  quotes := .inl rfl
  raw := escaped value.toList
  free := not_mem_escaped rfl (by decide) value.toList

theorem exists_attributes {entries : List (String × String)}
    (names : ∀ entry ∈ entries, IsName entry.1) :
    ∃ attributes : List Attribute, attributesWritten attributes = writtenAttributes entries ∧
      attributes.map Attribute.entry = entries ∧
      ∀ first ∈ attributes.head?, first.lead.val ≠ [] := by
  induction entries with
  | nil => exact ⟨[], rfl, rfl, nofun⟩
  | cons entry rest ih =>
    obtain ⟨key, value⟩ := entry
    have isName : IsName key := names (key, value) List.mem_cons_self
    obtain ⟨attributes, written, same, -⟩ := ih fun entry member => names entry (.tail _ member)
    refine ⟨.ofEntry key isName value :: attributes, ?_, ?_, ?_⟩
    · rw [attributesWritten, List.flatMap_cons, ← attributesWritten, written]
      simp [Attribute.written, Attribute.body, Attribute.ofEntry, noBlanks, writtenAttributes]
    · simp [Attribute.entry, Attribute.ofEntry, decodeReferences_escaped, same]
    · rintro first ⟨⟩
      exact List.cons_ne_nil _ _

/-- The name of an element begins like no other markup. -/
theorem exists_tag (reserved : List String) {name : String} {entries : List (String × String)}
    (isName : IsElementName name) (names : ∀ entry ∈ entries, IsName entry.1)
    (signs : ∀ mark ∈ reserved, mark.toList.head? = some '!' ∨ mark.toList.head? = some '?') :
    ∃ tag : Tag reserved, tag.name = name ∧ tag.entries = entries ∧
      tag.written = name.toList ++ writtenAttributes entries := by
  obtain ⟨attributes, written, same, spaced⟩ := exists_attributes names
  have unreserved : ∀ mark ∈ reserved, ¬mark.toList <+: name.toList := by
    intro mark among begins
    have first : mark.toList.head? = name.toList.head? := by
      rcases signs mark among with sign | sign <;>
        obtain ⟨tail, shape⟩ := List.head?_eq_some_iff.mp sign <;>
        obtain ⟨more, split⟩ := begins <;>
        rw [← split, shape] <;> rfl
    rcases signs mark among with sign | sign
    · exact isName.2.1 (first ▸ sign)
    · exact isName.2.2 (first ▸ sign)
  exact ⟨⟨name, isName.1, unreserved, attributes, spaced, noBlanks⟩, rfl, same, by
    simp [Tag.written, written, noBlanks]⟩

/-- Behind a text, a written tree goes on with an angle bracket. -/
theorem head?_writtenNodes {nodes : List Node} (single : ∀ other, nodes.head? ≠ some (.text other))
    {c : Char} (first : (writtenNodes nodes).head? = some c) : c = '<' := by
  match nodes with
  | [] => cases first
  | .element element :: rest =>
    rw [writtenNodes] at first
    cases first
    rfl
  | .text other :: rest => exact absurd rfl (single other)

mutual

theorem exists_body {name : String} {attributes : List (String × String)} :
    (children : List Node) → Element.Neat (.mk name attributes children) →
      ∃ body : Body, body.nodes = children ∧ body.written name =
        '>' :: (writtenNodes children ++ '<' :: '/' :: (name.toList ++ ['>']))
  | children, neat => by
    rw [Element.Neat] at neat
    obtain ⟨content, written, nodes⟩ := exists_content children neat.2.2
    exact ⟨.open_ content noBlanks, nodes, by simp [Body.written, written, noBlanks]⟩

theorem exists_content : (nodes : List Node) → NeatNodes nodes →
    ∃ content : Content, content.written = writtenNodes nodes ∧ content.nodes = nodes
  | [], _ => ⟨.done noText, rfl, rfl⟩
  | .text text :: rest, neat => by
    rw [NeatNodes] at neat
    obtain ⟨some_, single, others⟩ := neat
    obtain ⟨content, written, nodes⟩ := exists_content rest others
    have visible : escaped text.toList ≠ [] :=
      escaped_ne_nil fun none => some_ (String.toList_eq_nil_iff.mp none)
    have free : '<' ∉ escaped text.toList := not_mem_escaped rfl (by decide) text.toList
    have bare : content.lead.val = [] := by
      refine Content.lead_eq_nil [] fun c first => ?_
      rw [List.append_nil, written] at first
      exact head?_writtenNodes single first
    refine ⟨content.withLead ⟨escaped text.toList, free⟩, ?_, ?_⟩
    · rw [Content.written_withLead, Content.bare_eq_self bare, written, writtenNodes]
    · rw [Content.nodes_withLead, Content.bare_eq_self bare, nodes]
      simp [Raw.nodes, visible, decodeReferences_escaped]
  | .element (.mk name attributes children) :: rest, neat => by
    rw [NeatNodes] at neat
    obtain ⟨inner, others⟩ := neat
    obtain ⟨body, children', shape⟩ := exists_body children inner
    obtain ⟨content, written, nodes⟩ := exists_content rest others
    rw [Element.Neat] at inner
    obtain ⟨tag, name', entries, start⟩ := exists_tag innerMarks inner.1 inner.2.1
      (by decide)
    refine ⟨.child noText tag body content, ?_, ?_⟩
    · simp [Content.written, noText, start, name', shape, written, writtenNodes, Element.written]
    · simp [Content.nodes, Raw.nodes, noText, name', entries, children', nodes]

end

/-- A document that is written is markup for its tree. -/
theorem exists_markup {root : Element} (neat : root.Neat) :
    ∃ markup : Markup, String.ofList markup.written = root.print ∧ markup.root = root := by
  obtain ⟨name, attributes, children⟩ := root
  obtain ⟨body, children', shape⟩ := exists_body children neat
  rw [Element.Neat] at neat
  obtain ⟨tag, name', entries, start⟩ := exists_tag outerMarks neat.1 neat.2.1
    (by decide)
  refine ⟨⟨[], tag, body, []⟩, ?_, ?_⟩
  · simp [Markup.written, miscWritten, start, name', shape, Element.print, Element.written]
  · rw [Markup.root, name', entries, children']

/-- A tree that is written and read again is the same tree. -/
theorem read_print {root : Element} (neat : root.Neat) : read root.print = .ok root := by
  obtain ⟨markup, written, same⟩ := exists_markup neat
  rw [← written, read_markup, same]

/-- Signs of every kind in names, values and texts. -/
theorem read_print_signs :
    let root : Element := .mk "a:b" [("k", "<\"&amp;'>"), ("!", "")]
      [.text " x & y ", .element (.mk "-" [] []), .text "]]>;"]
    root.Neat ∧
      root.print =
        "<a:b k=\"&lt;&quot;&amp;amp;&apos;&gt;\" !=\"\"> x &amp; y <-></->]]&gt;;</a:b>" ∧
      read root.print = .ok root := by
  intro root
  have neat : root.Neat := by
    simp [root, Element.Neat, NeatNodes, IsElementName, IsName]
    decide
  exact ⟨neat, by decide, read_print neat⟩

end ApiProbe.Xml
