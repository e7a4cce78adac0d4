import ApiProbe.Proofs.Xml.Steps

/-!
Documents as they are written. Markup keeps everything that a tree leaves out: the blanks in tags, the
quotes of values, references, comments, instructions, and where character data begins and ends. It can
only be built well-formed, so every piece of markup is a text that stands for a tree.
-/
namespace ApiProbe.Xml
open Text

/-- Blanks between the parts of a tag. -/
abbrev Blanks := { blanks : List Char // ∀ c ∈ blanks, isBlank c = true }

def noBlanks : Blanks := ⟨[], nofun⟩

/-- Text in front of the next angle bracket; there may be none. -/
abbrev Raw := { raw : List Char // '<' ∉ raw }

def noText : Raw := ⟨[], List.not_mem_nil⟩

/-- Text up to the mark that ends character data. -/
abbrev CharacterData := { data : List Char // EndsAt "]]>".toList data }

/-- An attribute with the blanks in front of it and around its sign. -/
structure Attribute where
  lead : Blanks
  key : String
  isName : IsName key
  beforeSign : Blanks
  afterSign : Blanks
  quote : Char
  quotes : quote = '"' ∨ quote = '\''
  raw : List Char
  free : quote ∉ raw

namespace Attribute

/-- Without the blanks in front. -/
def body (attr : Attribute) : List Char :=
  attr.key.toList ++ (attr.beforeSign.val ++ '=' :: (attr.afterSign.val ++
    attr.quote :: (attr.raw ++ [attr.quote])))

def written (attr : Attribute) : List Char := attr.lead.val ++ attr.body

def entry (attr : Attribute) : String × String :=
  (attr.key, String.ofList (decodeReferences attr.raw))

end Attribute

/-- What stands in a tag, apart from how it ends. The name does not begin like other markup that may
stand in the place of the tag. -/
structure Tag (reserved : List String) where
  name : String
  isName : IsName name
  unreserved : ∀ mark ∈ reserved, ¬mark.toList <+: name.toList
  attributes : List Attribute
  spaced : ∀ first ∈ attributes.head?, first.lead.val ≠ []
  margin : Blanks

def attributesWritten (attributes : List Attribute) : List Char :=
  attributes.flatMap Attribute.written

namespace Tag
variable {reserved : List String}

def written (tag : Tag reserved) : List Char :=
  tag.name.toList ++ (attributesWritten tag.attributes ++ tag.margin.val)

def entries (tag : Tag reserved) : List (String × String) := tag.attributes.map Attribute.entry

end Tag

inductive AsideKind
  | comment | instruction
  deriving DecidableEq

namespace AsideKind

def opening : AsideKind → String
  | comment => "<!--"
  | instruction => "<?"

def closing : AsideKind → String
  | comment => "-->"
  | instruction => "?>"

def construct : AsideKind → Construct
  | comment => .comment
  | instruction => .instruction

end AsideKind

/-- A comment or an instruction. Its closing mark is looked for from the start, and may share signs with
its opening one. -/
structure Aside where
  kind : AsideKind
  front : List Char
  opens : startsWith kind.opening (front ++ kind.closing.toList) = true
  ends : EndsAt kind.closing.toList front

def Aside.written (skipped : Aside) : List Char := skipped.front ++ skipped.kind.closing.toList

/-- What an element may hold in the place of a child element. -/
def innerMarks : List String := ["!--", "![CDATA[", "?"]

mutual

/-- How an element goes on behind what stands in its start tag. -/
inductive Body
  | closed
  | open_ (inner : Content) (margin : Blanks)

/-- What an element holds: text, and markup with text in front of it. -/
inductive Content
  | done (lead : Raw)
  | aside (lead : Raw) (skipped : Aside) (rest : Content)
  | data (lead : Raw) (data : CharacterData) (rest : Content)
  | child (lead : Raw) (tag : Tag innerMarks) (body : Body) (rest : Content)

end

mutual

def Body.written (name : String) : Body → List Char
  | .closed => ['/', '>']
  | .open_ inner margin =>
    '>' :: (inner.written ++ '<' :: '/' :: (name.toList ++ (margin.val ++ ['>'])))

def Content.written : Content → List Char
  | .done lead => lead.val
  | .aside lead skipped rest => lead.val ++ (skipped.written ++ rest.written)
  | .data lead data rest =>
    lead.val ++ ("<![CDATA[".toList ++ (data.val ++ ("]]>".toList ++ rest.written)))
  | .child lead tag body rest =>
    lead.val ++ '<' :: (tag.written ++ (body.written tag.name ++ rest.written))

end

/-- The node that a text stands for. -/
def Raw.nodes (lead : Raw) : List Node :=
  if lead.val = [] then [] else [.text (String.ofList (decodeReferences lead.val))]

mutual

def Body.nodes : Body → List Node
  | .closed => []
  | .open_ inner _ => inner.nodes

def Content.nodes : Content → List Node
  | .done lead => lead.nodes
  | .aside lead _ rest => lead.nodes ++ rest.nodes
  | .data lead data rest => lead.nodes ++ .text (String.ofList data.val) :: rest.nodes
  | .child lead tag body rest =>
    lead.nodes ++ .element (.mk tag.name tag.entries body.nodes) :: rest.nodes

end

namespace Content

/-- The text in front of the first markup. -/
def lead : Content → Raw
  | .done lead | .aside lead _ _ | .data lead _ _ | .child lead _ _ _ => lead

/-- The same content with another text in front. -/
def withLead (lead : Raw) : Content → Content
  | .done _ => .done lead
  | .aside _ skipped rest => .aside lead skipped rest
  | .data _ inner rest => .data lead inner rest
  | .child _ tag body rest => .child lead tag body rest

/-- Without the text in front. -/
def bare (content : Content) : Content := content.withLead noText

theorem written_withLead (lead : Raw) (content : Content) :
    (content.withLead lead).written = lead.val ++ content.bare.written := by
  cases content <;> simp [withLead, bare, written, noText]

theorem nodes_withLead (lead : Raw) (content : Content) :
    (content.withLead lead).nodes = lead.nodes ++ content.bare.nodes := by
  cases content <;> simp [withLead, bare, nodes, Raw.nodes, noText]

theorem withLead_lead (content : Content) : content.withLead content.lead = content := by
  cases content <;> rfl

/-- Content that starts with an angle bracket, if with anything, has no text in front. -/
theorem lead_eq_nil {content : Content} (rest : List Char)
    (starts : ∀ c, (content.written ++ rest).head? = some c → c = '<') : content.lead.val = [] := by
  have written := content.written_withLead content.lead
  rw [withLead_lead] at written
  cases shape : content.lead.val with
  | nil => rfl
  | cons c more =>
    have same := starts c (by simp [written, shape])
    exact absurd (by simp [shape, same]) content.lead.property

theorem bare_eq_self {content : Content} (blank : content.lead.val = []) :
    content.bare = content := by
  have none : content.lead = noText := Subtype.ext blank
  rw [bare, ← none, withLead_lead]

end Content

/-- A document type, which ends at an angle bracket outside square brackets. -/
structure DocumentType where
  written : List Char
  opens : startsWith "<!DOCTYPE" written = true ∨ startsWith "<!doctype" written = true
  ends : afterDocumentType? 0 written = some []

/-- What may stand around the root element. -/
inductive Misc
  | blank (c : Char) (isBlank : Text.isBlank c = true)
  | aside (skipped : Aside)
  | documentType (type : DocumentType)

def Misc.written : Misc → List Char
  | .blank c _ => [c]
  | .aside skipped => skipped.written
  | .documentType type => type.written

def miscWritten (items : List Misc) : List Char := items.flatMap Misc.written

/-- What may stand in the place of the root element. -/
def outerMarks : List String := ["!--", "?", "!DOCTYPE", "!doctype"]

/-- A whole document as it is written. -/
structure Markup where
  before : List Misc
  tag : Tag outerMarks
  body : Body
  after : List Misc

namespace Markup

def written (markup : Markup) : List Char :=
  miscWritten markup.before ++ '<' :: (markup.tag.written ++ (markup.body.written markup.tag.name ++
    miscWritten markup.after))

def root (markup : Markup) : Element :=
  .mk markup.tag.name markup.tag.entries markup.body.nodes

end Markup

/-!
### Gaps

The gaps of a document are the places between the nodes of an element, in front of the first and behind
the last one, and the places around the root between what is skipped there. What is put into a gap
changes the nodes there, and the tree as far as this change shows through the elements around it.
-/

/-- A gap in what an element holds, as the characters in front of it and behind it. -/
inductive Content.Gap : Content → List Char → List Char → Prop
  | start (content : Content) : Gap content [] content.written
  | afterText (content : Content) : Gap content content.lead.val content.bare.written
  | afterAside (lead : Raw) (skipped : Aside) {rest : Content} {before after : List Char}
      (gap : Gap rest before after) :
      Gap (.aside lead skipped rest) (lead.val ++ (skipped.written ++ before)) after
  | afterData (lead : Raw) (data : CharacterData) {rest : Content} {before after : List Char}
      (gap : Gap rest before after) :
      Gap (.data lead data rest)
        (lead.val ++ ("<![CDATA[".toList ++ (data.val ++ ("]]>".toList ++ before)))) after
  | inChild (lead : Raw) (tag : Tag innerMarks) {inner : Content} (margin : Blanks) (rest : Content)
      {before after : List Char} (gap : Gap inner before after) :
      Gap (.child lead tag (.open_ inner margin) rest)
        (lead.val ++ '<' :: (tag.written ++ '>' :: before))
        (after ++ '<' :: '/' :: (tag.name.toList ++ (margin.val ++ '>' :: rest.written)))
  | afterChild (lead : Raw) (tag : Tag innerMarks) (body : Body) {rest : Content}
      {before after : List Char} (gap : Gap rest before after) :
      Gap (.child lead tag body rest)
        (lead.val ++ '<' :: (tag.written ++ (body.written tag.name ++ before))) after

/-- A gap in a document. -/
inductive Markup.Gap : Markup → List Char → List Char → Prop
  | beforeRoot (front back : List Misc) (tag : Tag outerMarks) (body : Body) (after : List Misc) :
      Gap ⟨front ++ back, tag, body, after⟩ (miscWritten front)
        (miscWritten back ++
          '<' :: (tag.written ++ (body.written tag.name ++ miscWritten after)))
  | inRoot (before : List Misc) (tag : Tag outerMarks) {inner : Content} (margin : Blanks)
      (after : List Misc) {front back : List Char} (gap : inner.Gap front back) :
      Gap ⟨before, tag, .open_ inner margin, after⟩
        (miscWritten before ++ '<' :: (tag.written ++ '>' :: front))
        (back ++ '<' :: '/' :: (tag.name.toList ++ (margin.val ++ '>' :: miscWritten after)))
  | afterRoot (before : List Misc) (tag : Tag outerMarks) (body : Body) (front back : List Misc) :
      Gap ⟨before, tag, body, front ++ back⟩
        (miscWritten before ++ '<' :: (tag.written ++ (body.written tag.name ++ miscWritten front)))
        (miscWritten back)

theorem miscWritten_append (front back : List Misc) :
    miscWritten (front ++ back) = miscWritten front ++ miscWritten back := List.flatMap_append

namespace Content
variable {content : Content} {before after : List Char}

theorem lead_append_bare (content : Content) :
    content.lead.val ++ content.bare.written = content.written := by
  rw [← written_withLead, withLead_lead]

theorem Gap.split (gap : content.Gap before after) : before ++ after = content.written := by
  induction gap with
  | start => rfl
  | afterText content => exact content.lead_append_bare
  | afterAside | afterData | afterChild => simp_all [written]
  | inChild => rename_i ih; simp [written, Body.written, ← ih]

end Content

/-- Nothing is lost at a gap. -/
theorem Markup.Gap.split {markup : Markup} {before after : List Char}
    (gap : markup.Gap before after) : before ++ after = markup.written := by
  cases gap with
  | beforeRoot | afterRoot => simp [written, miscWritten_append]
  | inRoot before tag margin after gap => simp [written, Body.written, ← gap.split]

/-- A relation of nodes that shows through the nodes in front and the elements around. -/
structure Contextual (R : List Node → List Node → Prop) : Prop where
  behind (front : List Node) {first second : List Node} : R first second →
    R (front ++ first) (front ++ second)
  inside (name : String) (entries : List (String × String)) (rest : List Node)
    {first second : List Node} : R first second →
    R (.element (.mk name entries first) :: rest) (.element (.mk name entries second) :: rest)

theorem contextual_eq : Contextual Eq where
  behind _ := congrArg _
  inside name entries rest := congrArg fun nodes => .element (.mk name entries nodes) :: rest

namespace Content

/-- Content behind what is skipped and some text, which joins the text in front of it. -/
def filled (skipped : Aside) (text : Raw) (content : Content) : Content :=
  .aside noText skipped (content.withLead ⟨text.val ++ content.lead.val,
    fun member => (List.mem_append.mp member).elim text.property content.lead.property⟩)

variable {skipped : Aside} {text : Raw} {content : Content} {before after : List Char}

theorem written_filled : (content.filled skipped text).written =
    skipped.written ++ (text.val ++ content.written) := by
  rw [filled, written, written_withLead, List.append_assoc, lead_append_bare]
  rfl

variable {R : List Node → List Node → Prop}

/-- What is put into a gap is related to what was there, as far as it shows at the gap itself. -/
theorem Gap.exists_filled (contextual : Contextual R)
    (shows : ∀ content : Content, R content.nodes (content.filled skipped text).nodes)
    (gap : content.Gap before after) :
    ∃ filled : Content, filled.written = before ++ (skipped.written ++ (text.val ++ after)) ∧
      R content.nodes filled.nodes := by
  induction gap with
  | start content => exact ⟨content.filled skipped text, written_filled, shows content⟩
  | afterText content =>
    refine ⟨(content.bare.filled skipped text).withLead content.lead, ?_, ?_⟩
    · rw [written_withLead, ← written_filled]
      rfl
    · have related := contextual.behind content.lead.nodes (shows content.bare)
      rw [← nodes_withLead, withLead_lead] at related
      rw [nodes_withLead]
      exact related
  | afterAside lead skipped' gap ih =>
    obtain ⟨filled, written', related⟩ := ih
    exact ⟨.aside lead skipped' filled, by simp [written, written'],
      contextual.behind lead.nodes related⟩
  | afterData lead data gap ih =>
    obtain ⟨filled, written', related⟩ := ih
    exact ⟨.data lead data filled, by simp [written, written'],
      contextual.behind lead.nodes (contextual.behind [_] related)⟩
  | inChild lead tag margin rest gap ih =>
    obtain ⟨filled, written', related⟩ := ih
    exact ⟨.child lead tag (.open_ filled margin) rest, by simp [written, Body.written, written'],
      contextual.behind lead.nodes (contextual.inside tag.name tag.entries rest.nodes related)⟩
  | afterChild lead tag body gap ih =>
    obtain ⟨filled, written', related⟩ := ih
    exact ⟨.child lead tag body filled, by simp [written, written'],
      contextual.behind lead.nodes (contextual.behind [_] related)⟩

end Content
end ApiProbe.Xml
