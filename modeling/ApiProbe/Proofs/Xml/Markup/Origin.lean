import ApiProbe.Proofs.Attempt
import ApiProbe.Proofs.Xml.Markup.Reading

/-!
Every document that is accepted is markup. Each step of reading gives back the piece of markup that it
was taken by, so a tree that is read comes with the markup that stands for it.
-/
namespace ApiProbe.Xml
open Text Attempt

/-! ### Tags -/

section
variable {chars rest : List Char}

theorem exists_blanks (chars : List Char) : ∃ blanks : Blanks, chars = blanks.val ++ trimLeft chars := by
  obtain ⟨blanks, split, blank⟩ := exists_blanks_trimLeft chars
  exact ⟨⟨blanks, blank⟩, split⟩

theorem skipPast_origin {mark : String} {construct : Construct} {front : List Char}
    (some_ : mark.toList ≠ []) (skipped : skipPast mark construct chars = .ok (front, rest)) :
    EndsAt mark.toList front ∧ chars = front ++ (mark.toList ++ rest) := by
  unfold skipPast at skipped
  split at skipped
  · rename_i cut
    cases skipped
    exact endsAt_of_cutAt? some_ cut
  · cases skipped

theorem expect_eq_ok_iff {token : Char} : expect token chars = .ok rest ↔ chars = token :: rest := by
  cases chars with
  | nil => simp [expect]
  | cons c tail =>
    rw [expect]
    split
    · rename_i same
      simp [eq_of_beq same]
    · rename_i different
      simp only [reduceCtorEq, List.cons.injEq, false_iff, not_and]
      intro same
      exact absurd (by simp [same]) different

theorem readQuoted_origin {value : String} (found : readQuoted chars = .ok (value, rest)) :
    ∃ quote raw, (quote = '"' ∨ quote = '\'') ∧ quote ∉ raw ∧
      chars = quote :: (raw ++ quote :: rest) ∧ value = String.ofList (decodeReferences raw) := by
  cases chars with
  | nil => cases found
  | cons quote tail =>
    rw [readQuoted] at found
    split at found
    · rename_i quotes
      obtain ⟨⟨raw, after⟩, skipped, same⟩ := bind_eq_ok_iff.mp found
      cases same
      obtain ⟨ends, split⟩ := skipPast_origin (by simp) skipped
      rw [String.toList_singleton] at ends split
      exact ⟨quote, raw, by simpa using quotes, endsAt_singleton_iff.mp ends, by simp [split], rfl⟩
    · cases found

/-- An attribute with the given blanks in front of it. -/
theorem readAttribute_origin {entry : String × String} (lead : Blanks)
    (found : readAttribute chars = .ok (entry, rest)) :
    ∃ attr : Attribute, attr.lead = lead ∧ chars = attr.body ++ rest ∧ attr.entry = entry := by
  obtain ⟨⟨key, afterKey⟩, named, found⟩ := bind_eq_ok_iff.mp found
  obtain ⟨afterSign, signed, found⟩ := bind_eq_ok_iff.mp found
  obtain ⟨⟨value, after⟩, quoted, same⟩ := bind_eq_ok_iff.mp found
  cases same
  obtain ⟨isName, -, shape⟩ := readName_eq_ok_iff.mp named
  obtain ⟨beforeSign, split⟩ := exists_blanks afterKey
  obtain ⟨afterBlanks, split'⟩ := exists_blanks afterSign
  obtain ⟨quote, raw, quotes, free, inner, rfl⟩ := readQuoted_origin quoted
  rw [expect_eq_ok_iff] at signed
  rw [inner] at split'
  rw [signed, split'] at split
  refine ⟨⟨lead, key, isName, beforeSign, afterBlanks, quote, quotes, raw, free⟩, rfl, ?_, rfl⟩
  rw [shape, split]
  simp [Attribute.body]

/-- How a tag ends. -/
def tagEnd (closed : Bool) : List Char := if closed then ['/', '>'] else ['>']

theorem readTag_origin {name : String} {fuel : Nat} {entries : List (String × String)}
    {closed : Bool} (found : readTag name fuel chars = .ok (entries, closed, rest)) :
    ∃ (attributes : List Attribute) (margin : Blanks),
      chars = attributesWritten attributes ++ (margin.val ++ (tagEnd closed ++ rest)) ∧
        attributes.map Attribute.entry = entries := by
  induction fuel generalizing chars entries with
  | zero => cases found
  | succ fuel ih =>
    obtain ⟨blanks, split⟩ := exists_blanks chars
    rw [readTag] at found
    split at found
    · rename_i start
      cases found
      exact ⟨[], blanks, by rw [split, start]; rfl, rfl⟩
    · rename_i start
      cases found
      exact ⟨[], blanks, by rw [split, start]; rfl, rfl⟩
    · cases found
    · obtain ⟨⟨entry, afterEntry⟩, first, found⟩ := bind_eq_ok_iff.mp found
      obtain ⟨⟨others, flag, after⟩, remaining, same⟩ := bind_eq_ok_iff.mp found
      cases same
      obtain ⟨attr, lead, shape, rfl⟩ := readAttribute_origin blanks first
      obtain ⟨attributes, margin, shape', rfl⟩ := ih remaining
      refine ⟨attr :: attributes, margin, ?_, rfl⟩
      rw [split, shape, shape']
      simp [attributesWritten, Attribute.written, lead]

/-- What stands in a tag, if its name does not begin like other markup. -/
theorem tag_origin {name : String} {afterName : List Char} {entries : List (String × String)}
    {closed : Bool} {reserved : List String}
    (free : ∀ mark ∈ reserved, startsWith mark chars = false)
    (named : readName chars = .ok (name, afterName))
    (tagged : readTag name (afterName.length + 1) afterName = .ok (entries, closed, rest)) :
    ∃ tag : Tag reserved, tag.name = name ∧ tag.entries = entries ∧
      chars = tag.written ++ (tagEnd closed ++ rest) := by
  obtain ⟨isName, bounded, rfl⟩ := readName_eq_ok_iff.mp named
  obtain ⟨attributes, margin, rfl, same⟩ := readTag_origin tagged
  have unreserved : ∀ mark ∈ reserved, ¬mark.toList <+: name.toList := by
    intro mark among begins
    have clear := free mark among
    rw [← Bool.not_eq_true, startsWith_iff] at clear
    exact clear (begins.trans (List.prefix_append _ _))
  -- An attribute without blanks in front would have lengthened the name.
  have spaced : ∀ first ∈ attributes.head?, first.lead.val ≠ [] := by
    intro first head none
    obtain ⟨more, rfl⟩ := List.head?_eq_some_iff.mp head
    obtain ⟨c, tail, shape, inside⟩ := first.isName.some
    have ends := bounded c (by
      simp [attributesWritten, Attribute.written, Attribute.body, none, shape])
    rw [inside] at ends
    cases ends
  exact ⟨⟨name, isName, unreserved, attributes, spaced, margin⟩, rfl, same, by
    simp [Tag.written]⟩

end

/-! ### What an element holds -/

section
variable {chars rest : List Char}

/-- A mark that begins a text ends within its first part, if a sign stands there that it lacks. -/
theorem isPrefix_of_mem {mark front : List Char} {c : Char} (begins : mark <+: front ++ rest)
    (member : c ∈ front) (free : c ∉ mark) : mark <+: front := by
  rcases Nat.le_total mark.length front.length with short | long
  · exact List.prefix_of_prefix_length_le begins (List.prefix_append front rest) short
  · have inside := List.prefix_of_prefix_length_le (List.prefix_append front rest) begins long
    exact absurd (inside.subset member) free

theorem aside_origin (kind : AsideKind) {front : List Char}
    (starts : startsWith kind.opening chars = true)
    (skipped : skipPast kind.closing kind.construct chars = .ok (front, rest)) :
    ∃ skipped : Aside, chars = skipped.written ++ rest := by
  obtain ⟨ends, rfl⟩ := skipPast_origin (by cases kind <;> decide) skipped
  rw [startsWith_iff, ← List.append_assoc] at starts
  have closing : '>' ∈ front ++ kind.closing.toList :=
    List.mem_append_right front (by cases kind <;> decide)
  have opens := isPrefix_of_mem starts closing (by cases kind <;> decide)
  exact ⟨⟨kind, front, startsWith_iff.mpr opens, ends⟩, (List.append_assoc ..).symm⟩

theorem readEnd_origin {parent : String} (found : readEnd parent chars = .ok rest) :
    ∃ margin : Blanks, chars = parent.toList ++ (margin.val ++ '>' :: rest) := by
  obtain ⟨⟨name, afterName⟩, named, ended⟩ := bind_eq_ok_iff.mp found
  dsimp only at ended
  split at ended
  · exact absurd ended throw_ne_ok
  · rename_i same
    have closing : expect '>' (trimLeft afterName) = .ok rest := ended
    obtain ⟨-, -, rfl⟩ := readName_eq_ok_iff.mp named
    have same : name = parent := by simpa using same
    obtain ⟨margin, split⟩ := exists_blanks afterName
    rw [expect_eq_ok_iff.mp closing] at split
    exact ⟨margin, by rw [same, ← split]⟩

/-- Content that goes on up to the end tag of its element. -/
def Closes (parent : String) (content : Content) (margin : Blanks) (chars rest : List Char) : Prop :=
  chars = content.written ++ '<' :: '/' :: (parent.toList ++ (margin.val ++ '>' :: rest))

theorem Closes.behind {parent : String} {content : Content} {margin : Blanks}
    (closes : Closes parent content margin chars rest) (front : List Char) :
    front ++ chars =
      front ++ content.written ++ '<' :: '/' :: (parent.toList ++ (margin.val ++ '>' :: rest)) := by
  rw [List.append_assoc, ← closes]

theorem Closes.lead_eq_nil {parent : String} {content : Content} {margin : Blanks}
    (closes : Closes parent content margin chars rest)
    (starts : ∀ c, chars.head? = some c → c = '<') : content.lead.val = [] := by
  rw [Closes] at closes
  rw [closes] at starts
  exact Content.lead_eq_nil _ starts

end

mutual

theorem readElement_origin {fuel : Nat} {chars rest : List Char} {element : Element}
    {reserved : List String} (found : readElement fuel chars = .ok (element, rest))
    (free : ∀ mark ∈ reserved, startsWith mark chars = false) :
    ∃ (tag : Tag reserved) (body : Body), chars = tag.written ++ (body.written tag.name ++ rest) ∧
      element = .mk tag.name tag.entries body.nodes := by
  cases fuel with
  | zero => cases found
  | succ fuel =>
    rw [readElement] at found
    obtain ⟨⟨name, afterName⟩, named, found⟩ := bind_eq_ok_iff.mp found
    obtain ⟨⟨entries, closed, afterTag⟩, tagged, found⟩ := bind_eq_ok_iff.mp found
    obtain ⟨tag, rfl, rfl, shape⟩ := tag_origin free named tagged
    dsimp only at found
    split at found
    · rename_i isClosed
      cases found
      subst isClosed
      exact ⟨tag, .closed, shape, rfl⟩
    · rename_i isOpen
      obtain ⟨⟨children, after⟩, inner, same⟩ := bind_eq_ok_iff.mp found
      cases same
      obtain ⟨content, margin, closes, rfl⟩ := readContent_origin inner
      have isOpen : closed = false := by simpa using isOpen
      subst isOpen
      rw [Closes] at closes
      refine ⟨tag, .open_ content margin, ?_, rfl⟩
      rw [shape, closes]
      simp [tagEnd, Body.written]
termination_by fuel

theorem readContent_origin {parent : String} {fuel : Nat} {chars rest : List Char}
    {nodes : List Node} (found : readContent parent fuel chars = .ok (nodes, rest)) :
    ∃ (content : Content) (margin : Blanks), Closes parent content margin chars rest ∧
      content.nodes = nodes := by
  cases fuel with
  | zero => cases found
  | succ fuel =>
    rw [readContent] at found
    split at found
    · exact absurd found throw_ne_ok
    rename_i some_
    -- In turn: the end tag, a comment, character data, an instruction, an element, a text.
    split at found
    · rename_i starts
      obtain ⟨tail, rfl⟩ := startsWith_iff.mp starts
      obtain ⟨after, ended, same⟩ := bind_eq_ok_iff.mp found
      cases same
      obtain ⟨margin, shape⟩ := readEnd_origin ended
      exact ⟨.done noText, margin, congrArg (['<', '/'] ++ ·) shape, rfl⟩
    split at found
    · rename_i starts
      obtain ⟨⟨comment, after⟩, skip, inner⟩ := bind_eq_ok_iff.mp found
      obtain ⟨skipped, rfl⟩ := aside_origin .comment starts skip
      obtain ⟨content, margin, closes, rfl⟩ := readContent_origin inner
      exact ⟨.aside noText skipped content, margin, closes.behind skipped.written, rfl⟩
    split at found
    · rename_i starts
      obtain ⟨tail, rfl⟩ := startsWith_iff.mp starts
      obtain ⟨⟨data, afterData⟩, skip, found⟩ := bind_eq_ok_iff.mp found
      obtain ⟨⟨others, after⟩, inner, same⟩ := bind_eq_ok_iff.mp found
      cases same
      obtain ⟨content, margin, closes, rfl⟩ := readContent_origin inner
      obtain ⟨ends, shape⟩ := skipPast_origin (by decide) skip
      have shape : tail = data ++ ("]]>".toList ++ afterData) := shape
      refine ⟨.data noText ⟨data, ends⟩ content, margin, ?_, rfl⟩
      rw [shape]
      simpa [Closes, Content.written, noText] using
        closes.behind ("<![CDATA[".toList ++ (data ++ "]]>".toList))
    split at found
    · rename_i starts
      obtain ⟨⟨instruction, after⟩, skip, inner⟩ := bind_eq_ok_iff.mp found
      obtain ⟨skipped, rfl⟩ := aside_origin .instruction starts skip
      obtain ⟨content, margin, closes, rfl⟩ := readContent_origin inner
      exact ⟨.aside noText skipped content, margin, closes.behind skipped.written, rfl⟩
    split at found
    · rename_i noEnd noComment noData noInstruction starts
      obtain ⟨tail, rfl⟩ := startsWith_iff.mp starts
      obtain ⟨⟨element, afterElement⟩, first, found⟩ := bind_eq_ok_iff.mp found
      obtain ⟨⟨others, after⟩, inner, same⟩ := bind_eq_ok_iff.mp found
      cases same
      have free : ∀ mark ∈ innerMarks, startsWith mark tail = false := by
        intro mark among
        simp only [innerMarks, List.mem_cons, List.not_mem_nil, or_false] at among
        rcases among with rfl | rfl | rfl
        · simpa [← Bool.not_eq_true, startsWith] using noComment
        · simpa [← Bool.not_eq_true, startsWith] using noData
        · simpa [← Bool.not_eq_true, startsWith] using noInstruction
      obtain ⟨tag, body, shape, rfl⟩ := readElement_origin first free
      have shape : tail = tag.written ++ (body.written tag.name ++ afterElement) := shape
      obtain ⟨content, margin, closes, rfl⟩ := readContent_origin inner
      refine ⟨.child noText tag body content, margin, ?_, rfl⟩
      rw [shape]
      simpa [Closes, Content.written, noText] using
        closes.behind ('<' :: (tag.written ++ body.written tag.name))
    · rename_i noBracket
      obtain ⟨⟨others, after⟩, inner, same⟩ := bind_eq_ok_iff.mp found
      cases same
      rw [drop_length_takeWhile] at inner
      obtain ⟨content, margin, closes, rfl⟩ := readContent_origin inner
      have visible : chars.takeWhile (· != '<') ≠ [] := List.length_pos_iff.mp
        (takeWhile_text_pos (by simpa using some_) (by simpa using noBracket))
      have free : '<' ∉ chars.takeWhile (· != '<') := fun member => by
        simpa using List.mem_takeWhile_imp member
      have bare : content.lead.val = [] := by
        refine closes.lead_eq_nil fun c first => ?_
        have stops := List.head?_dropWhile_not (· != '<') chars
        rw [first] at stops
        simpa using stops
      refine ⟨content.withLead ⟨chars.takeWhile (· != '<'), free⟩, margin, ?_, ?_⟩
      · have whole := closes.behind (chars.takeWhile (· != '<'))
        rw [List.takeWhile_append_dropWhile] at whole
        rwa [Closes, Content.written_withLead, Content.bare_eq_self bare]
      · rw [Content.nodes_withLead, Content.bare_eq_self bare]
        simp [Raw.nodes, visible]
termination_by fuel

end

/-! ### Around the root -/

section
variable {chars rest : List Char}

theorem afterDocumentType?_origin {depth : Nat}
    (found : afterDocumentType? depth chars = some rest) :
    ∃ front, chars = front ++ rest ∧ afterDocumentType? depth front = some [] ∧ '>' ∈ front := by
  induction chars generalizing depth with
  | nil => cases found
  | cons c tail ih =>
    rw [afterDocumentType?] at found
    split at found
    · rename_i opens
      obtain ⟨front, rfl, ends, inside⟩ := ih found
      exact ⟨c :: front, rfl, by rw [afterDocumentType?, if_pos opens, ends], .tail c inside⟩
    rename_i noOpening
    split at found
    · rename_i closes
      obtain ⟨front, rfl, ends, inside⟩ := ih found
      exact ⟨c :: front, rfl, by rw [afterDocumentType?, if_neg noOpening, if_pos closes, ends],
        .tail c inside⟩
    rename_i noClosing
    split at found
    · rename_i last
      cases found
      refine ⟨[c], rfl, by rw [afterDocumentType?, if_neg noOpening, if_neg noClosing, if_pos last], ?_⟩
      simp only [Bool.and_eq_true, beq_iff_eq] at last
      simp [last.1]
    · rename_i more
      obtain ⟨front, rfl, ends, inside⟩ := ih found
      exact ⟨c :: front, rfl, by
        rw [afterDocumentType?, if_neg noOpening, if_neg noClosing, if_neg more, ends], .tail c inside⟩

theorem documentType_origin
    (opens : startsWith "<!DOCTYPE" chars = true ∨ startsWith "<!doctype" chars = true)
    (found : afterDocumentType? 0 chars = some rest) :
    ∃ type : DocumentType, chars = type.written ++ rest := by
  obtain ⟨front, rfl, ends, inside⟩ := afterDocumentType?_origin found
  refine ⟨⟨front, ?_, ends⟩, rfl⟩
  simp only [startsWith_iff] at opens ⊢
  exact opens.imp (isPrefix_of_mem · inside (by decide)) (isPrefix_of_mem · inside (by decide))

theorem miscWritten_blanks (blanks : Blanks) :
    ∃ items : List Misc, miscWritten items = blanks.val := by
  obtain ⟨blanks, blank⟩ := blanks
  induction blanks with
  | nil => exact ⟨[], rfl⟩
  | cons c more ih =>
    obtain ⟨items, written⟩ := ih fun d member => blank d (.tail c member)
    exact ⟨.blank c (blank c List.mem_cons_self) :: items, congrArg (c :: ·) written⟩

/-- What is skipped around the root, up to where something else stands. -/
theorem skipMisc_origin {fuel : Nat} (found : skipMisc fuel chars = .ok rest)
    (enough : chars.length < fuel) :
    Settled rest ∧ ∃ items : List Misc, chars = miscWritten items ++ rest := by
  induction fuel generalizing chars with
  | zero => exact absurd enough (Nat.not_lt_zero _)
  | succ fuel ih =>
    obtain ⟨blanks, split⟩ := exists_blanks chars
    obtain ⟨spaces, written⟩ := miscWritten_blanks blanks
    have shorter : (trimLeft chars).length ≤ chars.length := (List.dropWhile_suffix isBlank).length_le
    rw [split, ← written]
    -- One more piece behind the blanks, and then what follows it.
    have behind (item : Misc) (after : List Char) (shape : trimLeft chars = item.written ++ after)
        (further : skipMisc fuel after = .ok rest) : Settled rest ∧
          ∃ items : List Misc, miscWritten spaces ++ trimLeft chars = miscWritten items ++ rest := by
      have some_ := item.length_pos
      have taken := congrArg List.length shape
      rw [List.length_append] at taken
      obtain ⟨settled, items, rfl⟩ := ih further (by omega)
      exact ⟨settled, spaces ++ item :: items, by rw [shape]; simp [miscWritten]⟩
    rw [skipMisc] at found
    split at found
    · rename_i starts
      obtain ⟨⟨instruction, after⟩, skip, further⟩ := bind_eq_ok_iff.mp found
      obtain ⟨skipped, shape⟩ := aside_origin .instruction starts skip
      exact behind (.aside skipped) after shape further
    split at found
    · rename_i starts
      obtain ⟨⟨comment, after⟩, skip, further⟩ := bind_eq_ok_iff.mp found
      obtain ⟨skipped, shape⟩ := aside_origin .comment starts skip
      exact behind (.aside skipped) after shape further
    split at found
    · rename_i opens
      split at found
      · rename_i after passed
        obtain ⟨type, shape⟩ := documentType_origin (by simpa using opens) passed
        exact behind (.documentType type) after shape found
      · exact absurd found throw_ne_ok
    · rename_i noInstruction noComment noType
      cases found
      simp only [Bool.or_eq_true, not_or, Bool.not_eq_true] at noInstruction noComment noType
      exact ⟨⟨noInstruction, noComment, noType.1, noType.2⟩, spaces, rfl⟩

end

/-- Every document that is accepted is markup for its tree. -/
theorem exists_markup_of_read {document : String} {root : Element}
    (found : read document = .ok root) :
    ∃ markup : Markup, String.ofList markup.written = document ∧ markup.root = root := by
  rw [read_eq_ok] at found
  obtain ⟨start, skipped, found⟩ := bind_eq_ok_iff.mp found
  obtain ⟨settled, before, shape⟩ := skipMisc_origin skipped (Nat.lt_succ_self _)
  split at found
  · rename_i rest
    obtain ⟨⟨element, afterRoot⟩, inside, found⟩ := bind_eq_ok_iff.mp found
    obtain ⟨remaining, ended, found⟩ := bind_eq_ok_iff.mp found
    split at found
    · rename_i nothing
      cases found
      obtain ⟨-, after, shape'⟩ := skipMisc_origin ended (Nat.lt_succ_self _)
      rw [List.isEmpty_iff.mp nothing, List.append_nil] at shape'
      have free : ∀ mark ∈ outerMarks, startsWith mark rest = false := by
        intro mark among
        obtain ⟨noInstruction, noComment, noType, noLowerType⟩ := settled
        simp only [outerMarks, List.mem_cons, List.not_mem_nil, or_false] at among
        rcases among with rfl | rfl | rfl | rfl
        · simpa [startsWith] using noComment
        · simpa [startsWith] using noInstruction
        · simpa [startsWith] using noType
        · simpa [startsWith] using noLowerType
      obtain ⟨tag, body, written, rfl⟩ := readElement_origin inside free
      refine ⟨⟨before, tag, body, after⟩, ?_, rfl⟩
      rw [Markup.written, ← shape', ← written, ← shape, String.ofList_toList]
    · exact absurd found throw_ne_ok
  · exact absurd found throw_ne_ok

/-!
### What a tree takes

Every node of a tree takes one character of its markup at least. So a tree
that was read has names that are names, and none of its elements holds more nodes than the document has
characters.
-/

mutual

/-- A tree of named elements, each of which holds at most `limit` nodes. -/
def Element.Fits (limit : Nat) : Element → Prop
  | .mk name _ children => IsName name ∧ children.length ≤ limit ∧ NodesFit limit children

def NodesFit (limit : Nat) : List Node → Prop
  | [] => True
  | .text _ :: rest => NodesFit limit rest
  | .element element :: rest => element.Fits limit ∧ NodesFit limit rest

end

theorem Element.Fits.isName {limit : Nat} {element : Element} (fits : element.Fits limit) :
    IsName element.name := by
  cases element
  rw [Fits] at fits
  exact fits.1

theorem Element.Fits.length_elements {limit : Nat} {element : Element}
    (fits : element.Fits limit) : element.elements.length ≤ limit := by
  cases element
  rw [Fits] at fits
  exact (List.length_filterMap_le _ _).trans fits.2.1

theorem NodesFit.of_mem {limit : Nat} {nodes : List Node} (fit : NodesFit limit nodes)
    {element : Element} (member : Node.element element ∈ nodes) : element.Fits limit := by
  induction nodes with
  | nil => cases member
  | cons node rest ih =>
    cases node with
    | text text =>
      rw [NodesFit] at fit
      exact ih fit (by simpa using member)
    | element first =>
      rw [NodesFit] at fit
      rcases List.mem_cons.mp member with same | later
      · cases same
        exact fit.1
      · exact ih fit.2 later

theorem Element.Fits.of_mem_elements {limit : Nat} {element child : Element}
    (fits : element.Fits limit) (member : child ∈ element.elements) : child.Fits limit := by
  cases element
  rw [Fits] at fits
  obtain ⟨node, inside, same⟩ := List.mem_filterMap.mp member
  cases node with
  | text text => cases same
  | element other =>
    cases same
    exact fits.2.2.of_mem inside

theorem nodesFit_append {limit : Nat} {first second : List Node} :
    NodesFit limit (first ++ second) ↔ NodesFit limit first ∧ NodesFit limit second := by
  induction first with
  | nil => simp [NodesFit]
  | cons node rest ih => cases node <;> simp [NodesFit, ih, and_assoc]

/-- A text makes no more than one node. -/
theorem Raw.fits (raw : Raw) (limit : Nat) :
    NodesFit limit raw.nodes ∧ raw.nodes.length ≤ raw.val.length := by
  rw [Raw.nodes]
  split
  · simp [NodesFit]
  · rename_i some_
    exact ⟨trivial, List.length_pos_iff.mpr some_⟩

mutual

theorem Body.fits {limit : Nat} (name : String) :
    (body : Body) → (body.written name).length ≤ limit →
      NodesFit limit body.nodes ∧ body.nodes.length ≤ limit
  | .closed, _ => ⟨trivial, Nat.zero_le limit⟩
  | .open_ inner margin, bound => by
    rw [Body.written, List.length_cons, List.length_append] at bound
    obtain ⟨fit, few⟩ := Content.fits inner (show inner.written.length ≤ limit by omega)
    exact ⟨fit, show inner.nodes.length ≤ limit by omega⟩

/-- Every node of what an element holds takes a character. -/
theorem Content.fits {limit : Nat} :
    (content : Content) → content.written.length ≤ limit →
      NodesFit limit content.nodes ∧ content.nodes.length ≤ content.written.length
  | .done lead, _ => Raw.fits lead limit
  | .aside lead skipped rest, bound => by
    obtain ⟨leadFit, leadFew⟩ := Raw.fits lead limit
    simp only [Content.written, Content.nodes, List.length_append] at bound ⊢
    obtain ⟨fit, few⟩ := Content.fits rest (show rest.written.length ≤ limit by omega)
    exact ⟨nodesFit_append.mpr ⟨leadFit, fit⟩, by omega⟩
  | .data lead data rest, bound => by
    obtain ⟨leadFit, leadFew⟩ := Raw.fits lead limit
    have marked : 0 < "]]>".toList.length := by decide
    simp only [Content.written, Content.nodes, List.length_append, List.length_cons] at bound ⊢
    obtain ⟨fit, few⟩ := Content.fits rest (show rest.written.length ≤ limit by omega)
    exact ⟨nodesFit_append.mpr ⟨leadFit, fit⟩, by omega⟩
  | .child lead tag body rest, bound => by
    obtain ⟨leadFit, leadFew⟩ := Raw.fits lead limit
    simp only [Content.written, Content.nodes, List.length_append, List.length_cons] at bound ⊢
    obtain ⟨inner, fewInner⟩ := Body.fits tag.name body (show (body.written tag.name).length ≤ limit by omega)
    obtain ⟨fit, few⟩ := Content.fits rest (show rest.written.length ≤ limit by omega)
    have element : (Element.mk tag.name tag.entries body.nodes).Fits limit := by
      rw [Element.Fits]
      exact ⟨tag.isName, fewInner, inner⟩
    exact ⟨nodesFit_append.mpr ⟨leadFit, element, fit⟩, by omega⟩

end

/-- A tree that is read from a document fits the document. -/
theorem fits_of_read {document : String} {root : Element} (found : read document = .ok root) :
    root.Fits document.length := by
  obtain ⟨markup, written, rfl⟩ := exists_markup_of_read found
  have bound : (markup.body.written markup.tag.name).length ≤ document.length := by
    rw [← written, String.length_ofList]
    simp only [Markup.written, List.length_append, List.length_cons]
    omega
  obtain ⟨fit, few⟩ := Body.fits markup.tag.name markup.body bound
  rw [Markup.root, Element.Fits]
  exact ⟨markup.tag.isName, few, fit⟩

end ApiProbe.Xml
