import ApiProbe.Proofs.Xml.Markup

/-!
Markup is read as the tree that it stands for, whatever blanks, quotes, references, comments and
instructions it is written with.
-/
namespace ApiProbe.Xml
open Text

/-! ### Tags -/

theorem Attribute.body_cons (attr : Attribute) :
    ∃ c tail, attr.body = c :: tail ∧ isNameEnd c = false := by
  obtain ⟨c, tail, chars, inside⟩ := attr.isName.some
  exact ⟨c, _, by rw [body, chars, List.cons_append], inside⟩

theorem Attribute.readAttribute_body (attr : Attribute) (rest : List Char) :
    readAttribute (attr.body ++ rest) = .ok (attr.entry, rest) := by
  obtain ⟨lead, key, isName, beforeSign, afterSign, quote, quotes, raw, free⟩ := attr
  have isQuote : (quote == '"' || quote == '\'') = true := by simpa using quotes
  have visible : isBlank quote = false := by rcases quotes with rfl | rfl <;> decide
  have cut : skipPast (String.singleton quote) .attributeValue (raw ++ quote :: rest) =
      .ok (raw, rest) := by
    rw [skipPast, String.toList_singleton, cutAt?_of_not_mem free]
  have quoted : readQuoted (quote :: (raw ++ quote :: rest)) =
      .ok (String.ofList (decodeReferences raw), rest) := by
    rw [readQuoted, if_pos isQuote, cut]
    rfl
  have afterKey : Bounded (beforeSign.val ++ '=' ::
      (afterSign.val ++ quote :: (raw ++ quote :: rest))) :=
    bounded_blanks beforeSign.property (bounded_cons (by decide) _)
  have sign := trimLeft_blanks beforeSign.property (c := '=') (by decide)
    (afterSign.val ++ quote :: (raw ++ quote :: rest))
  have value := trimLeft_blanks afterSign.property visible (raw ++ quote :: rest)
  have named := readName_written isName afterKey
  simp [body, entry, readAttribute, named, sign, value, quoted, expect, bind, Except.bind, pure,
    Except.pure]

theorem length_attributesWritten (attributes : List Attribute) :
    attributes.length ≤ (attributesWritten attributes).length := by
  induction attributes with
  | nil => exact Nat.le_refl 0
  | cons attr more ih =>
    obtain ⟨c, tail, chars, -⟩ := attr.body_cons
    have : 0 < attr.written.length := by
      rw [Attribute.written, List.length_append, chars, List.length_cons]
      omega
    simp only [attributesWritten, List.flatMap_cons, List.length_append, List.length_cons] at ih ⊢
    omega

/-- Attributes are read in turn, up to the end of the tag. -/
theorem readTag_attributes (name : String) {attributes : List Attribute} {fuel : Nat}
    {closed : Bool} {stop rest : List Char}
    (ends : ∀ fuel, readTag name (fuel + 1) stop = .ok ([], closed, rest))
    (enough : attributes.length < fuel) :
    readTag name fuel (attributesWritten attributes ++ stop) =
      .ok (attributes.map Attribute.entry, closed, rest) := by
  induction attributes generalizing fuel with
  | nil =>
    obtain ⟨fuel, rfl⟩ := Nat.exists_eq_add_one.mpr (Nat.zero_lt_of_lt enough)
    exact ends fuel
  | cons attr more ih =>
    obtain ⟨fuel, rfl⟩ := Nat.exists_eq_add_one.mpr (Nat.zero_lt_of_lt enough)
    obtain ⟨c, tail, chars, inside⟩ := attr.body_cons
    have first := attr.readAttribute_body (attributesWritten more ++ stop)
    have start := trimLeft_blanks attr.lead.property (visible_of_isNameEnd inside)
      (tail ++ (attributesWritten more ++ stop))
    have shape : attributesWritten (attr :: more) ++ stop =
        attr.lead.val ++ c :: (tail ++ (attributesWritten more ++ stop)) := by
      simp [attributesWritten, Attribute.written, chars]
    rw [chars, List.cons_append] at first
    have others := ih (show more.length < fuel by simpa using enough)
    rw [shape, readTag_attribute name fuel start inside, first]
    simp [others, bind, Except.bind, pure, Except.pure]

section
variable {reserved : List String} (tag : Tag reserved)

/-- Behind its name, a tag goes on with an end of names. -/
theorem Tag.bounded {stop : List Char} (bounded : Bounded stop) :
    Bounded (attributesWritten tag.attributes ++ (tag.margin.val ++ stop)) := by
  cases shape : tag.attributes with
  | nil =>
    rw [attributesWritten, List.flatMap_nil, List.nil_append]
    exact bounded_blanks tag.margin.property bounded
  | cons first more =>
    have spaced := tag.spaced first (by rw [shape]; rfl)
    obtain ⟨c, blanks, lead⟩ := List.exists_cons_of_ne_nil spaced
    have ends := isNameEnd_of_isBlank (first.lead.property c (by rw [lead]; exact List.mem_cons_self))
    have written : attributesWritten (first :: more) ++ (tag.margin.val ++ stop) =
        c :: (blanks ++ (first.body ++ (attributesWritten more ++ (tag.margin.val ++ stop)))) := by
      simp [attributesWritten, Attribute.written, lead]
    rw [written]
    exact bounded_cons ends _

/-- A tag is read up to its end, which is a sign that ends names. -/
theorem Tag.reads {stop rest : List Char} {closed : Bool} (bounded : Bounded stop)
    (ends : ∀ fuel, readTag tag.name (fuel + 1) (tag.margin.val ++ stop) = .ok ([], closed, rest)) :
    ∃ afterName, readName (tag.written ++ stop) = .ok (tag.name, afterName) ∧
      readTag tag.name (afterName.length + 1) afterName = .ok (tag.entries, closed, rest) := by
  have enough : tag.attributes.length <
      (attributesWritten tag.attributes ++ (tag.margin.val ++ stop)).length + 1 := by
    have := length_attributesWritten tag.attributes
    rw [List.length_append]
    omega
  refine ⟨_, ?_, readTag_attributes tag.name ends enough⟩
  rw [Tag.written, List.append_assoc, List.append_assoc]
  exact readName_written tag.isName (tag.bounded bounded)

end

/-! ### Content -/

theorem Aside.starts (skipped : Aside) (rest : List Char) :
    startsWith skipped.kind.opening (skipped.written ++ rest) = true :=
  startsWith_iff.mpr ((startsWith_iff.mp skipped.opens).trans (List.prefix_append _ rest))

theorem AsideKind.closing_ne_nil (kind : AsideKind) : kind.closing.toList ≠ [] := by
  cases kind <;> decide

theorem Aside.skipPast (skipped : Aside) (rest : List Char) :
    skipPast skipped.kind.closing skipped.kind.construct (skipped.written ++ rest) =
      .ok (skipped.front, rest) := by
  rw [written, List.append_assoc]
  exact skipPast_endsAt _ _ skipped.kind.closing_ne_nil skipped.ends rest

theorem Aside.head?_written (skipped : Aside) (rest : List Char) :
    (skipped.written ++ rest).head? = some '<' := by
  obtain ⟨tail, shape⟩ := startsWith_iff.mp (skipped.starts rest)
  rw [← shape]
  cases skipped.kind <;> rfl

theorem Aside.length_pos (skipped : Aside) : 0 < skipped.written.length := by
  have first := skipped.head?_written []
  rw [List.append_nil] at first
  exact List.length_pos_of_mem (List.mem_of_head? first)

section
variable (parent : String)

/-- Comments and instructions leave nothing behind. -/
theorem Aside.readContent (skipped : Aside) (fuel : Nat) (rest : List Char) :
    readContent parent (fuel + 1) (skipped.written ++ rest) = readContent parent fuel rest := by
  have starts := skipped.starts rest
  have skip := skipped.skipPast rest
  cases kind : skipped.kind with
  | comment =>
    rw [kind] at starts skip
    rw [readContent_comment parent fuel starts]
    exact congrArg (· >>= fun found => Xml.readContent parent fuel found.2) skip
  | instruction =>
    rw [kind] at starts skip
    rw [readContent_instruction parent fuel starts]
    exact congrArg (· >>= fun found => Xml.readContent parent fuel found.2) skip

/-- Text in front of markup is read as its node, and then the markup. -/
theorem Raw.readContent (lead : Raw) {tail rest : List Char} {nodes : List Node} {need fuel : Nat}
    (starts : tail.head? = some '<')
    (reads : ∀ fuel, need < fuel → readContent parent fuel tail = .ok (nodes, rest))
    (enough : lead.val.length + need < fuel) :
    readContent parent fuel (lead.val ++ tail) = .ok (Raw.nodes lead ++ nodes, rest) := by
  obtain ⟨raw, free⟩ := lead
  by_cases blank : raw = []
  · subst blank
    exact reads fuel (by simpa using enough)
  · obtain ⟨fuel, rfl⟩ := Nat.exists_eq_add_one.mpr (Nat.zero_lt_of_lt enough)
    have := List.length_pos_iff.mpr blank
    have behind := reads fuel (by simp only at enough; omega)
    rw [readContent_text parent fuel blank free starts, behind]
    simp [Raw.nodes, blank, bind, Except.bind, pure, Except.pure]

end

theorem plain_innerMarks : ∀ mark ∈ innerMarks, ∀ c ∈ mark.toList, isNameEnd c = false := by
  simp [innerMarks, isNameEnd, isBlank]

/-- The name of a child is taken for no other markup. -/
theorem readContent_tag (parent : String) (fuel : Nat) (tag : Tag innerMarks) {stop : List Char}
    (bounded : Bounded stop) :
    readContent parent (fuel + 1) ('<' :: (tag.written ++ stop)) = (do
      let (element, afterElement) ← readElement fuel (tag.written ++ stop)
      let (nodes, rest) ← readContent parent fuel afterElement
      pure (.element element :: nodes, rest)) := by
  have behind := tag.bounded bounded
  have shape : tag.written ++ stop = tag.name.toList ++
      (attributesWritten tag.attributes ++ (tag.margin.val ++ stop)) := by simp [Tag.written]
  have free (mark : String) (among : mark ∈ innerMarks) :
      startsWith mark (tag.written ++ stop) = false := by
    rw [shape]
    exact startsWith_name (plain_innerMarks mark among) behind (tag.unreserved mark among)
  have noEnd : startsWith "/" (tag.written ++ stop) = false := by
    obtain ⟨c, tail, chars, inside⟩ := tag.isName.some
    rw [shape, chars]
    exact startsWith_of_ne rfl (ne_of_isNameEnd inside rfl).symm
  exact readContent_child parent fuel noEnd (free _ (by decide)) (free _ (by decide))
    (free _ (by decide))

theorem Body.bounded (body : Body) (name : String) (rest : List Char) :
    Bounded (body.written name ++ rest) := by
  cases body <;> exact bounded_cons (by decide) _

theorem Body.length_pos (body : Body) (name : String) : 0 < (body.written name).length := by
  cases body <;> simp [written]

mutual

/-- An element behind its opening bracket is read, with anything behind it. -/
theorem readElement_markup {reserved : List String} (tag : Tag reserved) :
    (body : Body) → (fuel : Nat) → (body.written tag.name).length ≤ fuel → (rest : List Char) →
      readElement fuel (tag.written ++ (body.written tag.name ++ rest)) =
        .ok (.mk tag.name tag.entries body.nodes, rest)
  | .closed, fuel, enough, rest => by
    obtain ⟨fuel, rfl⟩ := Nat.exists_eq_add_one.mpr (Nat.lt_of_lt_of_le Nat.two_pos enough)
    obtain ⟨afterName, named, tagged⟩ := tag.reads (bounded_cons (by decide) ('>' :: rest))
      fun fuel => readTag_closed tag.name fuel (trimLeft_blanks tag.margin.property (by decide) _)
    rw [readElement, Body.written, List.cons_append, List.cons_append, List.nil_append, named]
    simp [bind, Except.bind, tagged, Body.nodes, pure, Except.pure]
  | .open_ inner margin, fuel, enough, rest => by
    simp only [Body.written, List.length_cons, List.length_append] at enough
    obtain ⟨fuel, rfl⟩ := Nat.exists_eq_add_one.mpr (show 0 < fuel by omega)
    obtain ⟨afterName, named, tagged⟩ := tag.reads (bounded_cons (by decide) _)
      fun fuel => readTag_close tag.name fuel (trimLeft_blanks tag.margin.property (by decide) _)
    have content := readContent_markup tag.isName margin inner fuel (by omega) rest
    have shape : (Body.open_ inner margin).written tag.name ++ rest = '>' :: (inner.written ++
        '<' :: '/' :: (tag.name.toList ++ (margin.val ++ '>' :: rest))) := by
      simp [Body.written]
    rw [readElement, shape, named]
    simp [bind, Except.bind, tagged, content, Body.nodes, pure, Except.pure]

/-- What an element holds is read, together with its end tag. -/
theorem readContent_markup {parent : String} (isName : IsName parent) (margin : Blanks) :
    (content : Content) → (fuel : Nat) → content.written.length < fuel → (rest : List Char) →
      readContent parent fuel
          (content.written ++ '<' :: '/' :: (parent.toList ++ (margin.val ++ '>' :: rest))) =
        .ok (content.nodes, rest)
  | .done lead, fuel, enough, rest => by
    have ended := readEnd_written isName margin.property rest
    have reads : ∀ fuel, 0 < fuel → readContent parent fuel
        ('<' :: '/' :: (parent.toList ++ (margin.val ++ '>' :: rest))) = .ok ([], rest) := by
      intro fuel some_
      obtain ⟨fuel, rfl⟩ := Nat.exists_eq_add_one.mpr some_
      rw [readContent_end, ended]
      rfl
    have whole := Raw.readContent parent lead rfl reads enough
    rwa [List.append_nil] at whole
  | .aside lead skipped more, fuel, enough, rest => by
    simp only [Content.written, List.length_append] at enough ⊢
    have taken := skipped.length_pos
    have reads : ∀ fuel, skipped.written.length + more.written.length < fuel →
        readContent parent fuel (skipped.written ++ (more.written ++ '<' :: '/' ::
          (parent.toList ++ (margin.val ++ '>' :: rest)))) = .ok (more.nodes, rest) := by
      intro fuel enough
      obtain ⟨fuel, rfl⟩ := Nat.exists_eq_add_one.mpr (Nat.zero_lt_of_lt enough)
      rw [skipped.readContent]
      exact readContent_markup isName margin more fuel (by omega) rest
    rw [List.append_assoc, List.append_assoc]
    exact Raw.readContent parent lead (skipped.head?_written _) reads (by omega)
  | .data lead data more, fuel, enough, rest => by
    simp only [Content.written, List.length_append] at enough ⊢
    have marked : 0 < "]]>".toList.length := by decide
    have reads : ∀ fuel, "]]>".toList.length + more.written.length < fuel →
        readContent parent fuel ("<![CDATA[".toList ++ (data.val ++ ("]]>".toList ++
          (more.written ++ '<' :: '/' :: (parent.toList ++ (margin.val ++ '>' :: rest)))))) =
            .ok (.text (String.ofList data.val) :: more.nodes, rest) := by
      intro fuel enough
      obtain ⟨fuel, rfl⟩ := Nat.exists_eq_add_one.mpr (Nat.zero_lt_of_lt enough)
      have cut := skipPast_endsAt "]]>" .cdata (by decide) data.property
        (more.written ++ '<' :: '/' :: (parent.toList ++ (margin.val ++ '>' :: rest)))
      have behind := readContent_markup isName margin more fuel (by omega) rest
      rw [readContent_data, cut]
      simp [bind, Except.bind, behind, pure, Except.pure]
    simp only [List.append_assoc]
    exact Raw.readContent parent lead rfl reads (by omega)
  | .child lead tag body more, fuel, enough, rest => by
    simp only [Content.written, List.length_append, List.length_cons] at enough ⊢
    have reads : ∀ fuel, (body.written tag.name).length + more.written.length < fuel →
        readContent parent fuel ('<' :: (tag.written ++ (body.written tag.name ++ (more.written ++
          '<' :: '/' :: (parent.toList ++ (margin.val ++ '>' :: rest)))))) =
            .ok (.element (.mk tag.name tag.entries body.nodes) :: more.nodes, rest) := by
      intro fuel enough
      have some_ := body.length_pos tag.name
      obtain ⟨fuel, rfl⟩ := Nat.exists_eq_add_one.mpr (Nat.zero_lt_of_lt enough)
      have first := readElement_markup tag body fuel (by omega)
        (more.written ++ '<' :: '/' :: (parent.toList ++ (margin.val ++ '>' :: rest)))
      have behind := readContent_markup isName margin more fuel (by omega) rest
      rw [readContent_tag parent fuel tag (body.bounded tag.name _), first]
      simp [bind, Except.bind, behind, pure, Except.pure]
    simp only [List.append_assoc, List.cons_append]
    exact Raw.readContent parent lead rfl reads (by omega)

end

/-! ### Around the root -/

theorem skipMisc_trimLeft (fuel : Nat) (chars : List Char) :
    skipMisc (fuel + 1) (trimLeft chars) = skipMisc (fuel + 1) chars := by
  rw [skipMisc, skipMisc, trimLeft_trimLeft]

theorem afterDocumentType?_append {depth : Nat} {chars left : List Char}
    (found : afterDocumentType? depth chars = some left) (rest : List Char) :
    afterDocumentType? depth (chars ++ rest) = some (left ++ rest) := by
  induction chars generalizing depth with
  | nil => cases found
  | cons c tail ih =>
    rw [List.cons_append]
    rw [afterDocumentType?] at found ⊢
    split at found
    · rename_i opens
      rw [if_pos opens, ih found]
    · rename_i noOpening
      rw [if_neg noOpening]
      split at found
      · rename_i closes
        rw [if_pos closes, ih found]
      · rename_i noClosing
        rw [if_neg noClosing]
        split at found
        · rename_i last
          cases found
          rw [if_pos last]
        · rename_i more
          rw [if_neg more, ih found]

theorem Aside.skipMisc (skipped : Aside) (fuel : Nat) (rest : List Char) :
    skipMisc (fuel + 1) (skipped.written ++ rest) = skipMisc fuel rest := by
  have starts := skipped.starts rest
  have skip := skipped.skipPast rest
  cases kind : skipped.kind with
  | comment =>
    rw [kind] at starts skip
    rw [skipMisc_comment fuel starts]
    exact congrArg (· >>= fun found => Xml.skipMisc fuel found.2) skip
  | instruction =>
    rw [kind] at starts skip
    rw [skipMisc_instruction fuel starts]
    exact congrArg (· >>= fun found => Xml.skipMisc fuel found.2) skip

theorem DocumentType.skipMisc (type : DocumentType) (fuel : Nat) (rest : List Char) :
    skipMisc (fuel + 1) (type.written ++ rest) = skipMisc fuel rest := by
  refine skipMisc_documentType fuel ?_ (afterDocumentType?_append type.ends rest)
  exact type.opens.imp (fun starts => startsWith_iff.mpr
    ((startsWith_iff.mp starts).trans (List.prefix_append _ rest))) (fun starts =>
    startsWith_iff.mpr ((startsWith_iff.mp starts).trans (List.prefix_append _ rest)))

/-- Everything around the root is skipped, up to what is not. -/
theorem skipMisc_misc {stop : List Char} (settled : Settled (trimLeft stop)) {items : List Misc}
    {fuel : Nat} (enough : items.length < fuel) :
    skipMisc fuel (miscWritten items ++ stop) = .ok (trimLeft stop) := by
  induction items generalizing fuel with
  | nil =>
    obtain ⟨fuel, rfl⟩ := Nat.exists_eq_add_one.mpr (Nat.zero_lt_of_lt enough)
    exact skipMisc_settled fuel settled
  | cons item more ih =>
    obtain ⟨fuel, rfl⟩ := Nat.exists_eq_add_one.mpr (Nat.zero_lt_of_lt enough)
    have behind := ih (show more.length < fuel by simpa using enough)
    have again := ih (show more.length < fuel + 1 from Nat.lt_of_succ_lt enough)
    rw [miscWritten, List.flatMap_cons, List.append_assoc, ← miscWritten]
    cases item with
    | blank c isBlank =>
      rw [← skipMisc_trimLeft, Misc.written, trimLeft_append_of_nil, skipMisc_trimLeft, again]
      simpa [trimLeft_eq_nil] using isBlank
    | aside skipped => rw [Misc.written, skipped.skipMisc, behind]
    | documentType type => rw [Misc.written, type.skipMisc, behind]

theorem Misc.length_pos (item : Misc) : 0 < item.written.length := by
  cases item with
  | blank => exact Nat.one_pos
  | aside skipped => exact skipped.length_pos
  | documentType type =>
    rw [written, List.length_pos_iff]
    intro none
    have ends := type.ends
    rw [none] at ends
    cases ends

theorem length_miscWritten (items : List Misc) : items.length ≤ (miscWritten items).length := by
  induction items with
  | nil => exact Nat.le_refl 0
  | cons item more ih =>
    have := item.length_pos
    simp only [miscWritten, List.flatMap_cons, List.length_append, List.length_cons] at ih ⊢
    omega

/-- All of the pieces around the root are skipped, however many there are. -/
theorem skipMisc_all {stop : List Char} (settled : Settled (trimLeft stop)) (items : List Misc) :
    skipMisc ((miscWritten items ++ stop).length + 1) (miscWritten items ++ stop) =
      .ok (trimLeft stop) := by
  refine skipMisc_misc settled ?_
  have := length_miscWritten items
  rw [List.length_append]
  omega

theorem plain_outerMarks : ∀ mark ∈ outerMarks, ∀ c ∈ mark.toList, isNameEnd c = false := by
  simp [outerMarks, isNameEnd, isBlank]

/-- The tag of the root is not skipped. -/
theorem Tag.settled (tag : Tag outerMarks) {stop : List Char} (bounded : Bounded stop) :
    Settled ('<' :: (tag.written ++ stop)) := by
  have behind := tag.bounded bounded
  have free (mark inner : String) (shape : mark.toList = '<' :: inner.toList)
      (among : inner ∈ outerMarks) : startsWith mark ('<' :: (tag.written ++ stop)) = false := by
    have own := startsWith_name (plain_outerMarks inner among) behind (tag.unreserved inner among)
    rw [Tag.written, List.append_assoc, List.append_assoc]
    simpa [startsWith, shape] using own
  exact ⟨free _ "?" rfl (by decide), free _ "!--" rfl (by decide),
    free _ "!DOCTYPE" rfl (by decide), free _ "!doctype" rfl (by decide)⟩

/-- Up to the end of the root a document is read as it is written. -/
theorem readDocument_root (before : List Misc) (tag : Tag outerMarks) (body : Body)
    (rest : List Char) :
    readDocument (miscWritten before ++ '<' :: (tag.written ++ (body.written tag.name ++ rest))) =
      (do
        let remaining ← skipMisc (rest.length + 1) rest
        if remaining.isEmpty then pure (.mk tag.name tag.entries body.nodes)
        else throw ⟨.contentAfterRoot, remaining⟩) := by
  have bounded := body.bounded tag.name rest
  have visible : trimLeft ('<' :: (tag.written ++ (body.written tag.name ++ rest))) =
      '<' :: (tag.written ++ (body.written tag.name ++ rest)) := trimLeft_cons_visible (by decide)
  have settled : Settled (trimLeft ('<' :: (tag.written ++ (body.written tag.name ++ rest)))) :=
    visible ▸ tag.settled bounded
  have start := skipMisc_all settled before
  have element := readElement_markup tag body
    ((tag.written ++ (body.written tag.name ++ rest)).length + 1)
    (by simp only [List.length_append]; omega) rest
  rw [readDocument, start, visible]
  simp only [bind, Except.bind, element]

theorem readDocument_markup (markup : Markup) :
    readDocument markup.written = .ok markup.root := by
  have settled : Settled (trimLeft []) := ⟨rfl, rfl, rfl, rfl⟩
  have skipped := skipMisc_all settled markup.after
  rw [List.append_nil] at skipped
  rw [Markup.written, readDocument_root, skipped]
  rfl

theorem read_eq_ok {document : String} {root : Element} :
    read document = .ok root ↔ readDocument document.toList = .ok root := by
  cases outcome : readDocument document.toList <;> simp [read, outcome]

/-- Markup is read as the tree that it stands for. -/
theorem read_markup (markup : Markup) : read (String.ofList markup.written) = .ok markup.root := by
  rw [read_eq_ok, String.toList_ofList, readDocument_markup]

end ApiProbe.Xml
