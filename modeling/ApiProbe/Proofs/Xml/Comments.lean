import ApiProbe.Proofs.Xml.Escaping
import ApiProbe.Proofs.Xml.Markup
import ApiProbe.Proofs.Xml.Markup.Origin

/-!
Comments in a document. A comment that is put into a gap of a document leaves the tree as it was, unless
its text starts in such a way that its end is found in its opening mark. The rest of such a comment is
text of the document.
-/
namespace ApiProbe.Xml
open Text Attempt
variable {text : List Char}

/-- What may stand in a comment. -/
structure IsCommentText (text : List Char) : Prop where
  noDashes : ¬['-', '-'] <:+: text
  noDash : text.getLast? ≠ some '-'

def commented (text : List Char) : List Char := "<!--".toList ++ (text ++ "-->".toList)

/-- The dashes of the opening mark and the first signs of the text are taken for the closing mark. -/
def ClosesEarly (text : List Char) : Prop := ['>'] <+: text ∨ ['-', '>'] <+: text

instance (text : List Char) : Decidable (ClosesEarly text) := inferInstanceAs (Decidable (_ ∨ _))

/-! ### Where a comment ends -/

theorem IsCommentText.tail {c : Char} (isComment : IsCommentText (c :: text)) :
    IsCommentText text where
  noDashes inside := isComment.noDashes (inside.trans (List.suffix_cons c text).isInfix)
  noDash last := isComment.noDash (by
    cases text with
    | nil => cases last
    | cons d rest => rwa [List.getLast?_cons_cons])

theorem closing : "-->".toList = ['-', '-', '>'] := rfl

theorem IsCommentText.endsAt (isComment : IsCommentText text) : EndsAt "-->".toList text := by
  rw [closing]
  induction text with
  | nil => decide
  | cons c rest ih =>
    refine endsAt_cons (fun begins => ?_) (ih isComment.tail)
    rw [List.cons_prefix_cons] at begins
    obtain ⟨rfl, begins⟩ := begins
    cases rest with
    | nil => exact isComment.noDash rfl
    | cons d more =>
      rw [List.cons_append, List.cons_prefix_cons] at begins
      obtain ⟨rfl, -⟩ := begins
      exact isComment.noDashes ⟨[], more, rfl⟩

/-- A comment that does not close early ends at its own closing mark. -/
theorem IsCommentText.endsAt_opening (isComment : IsCommentText text) (late : ¬ClosesEarly text) :
    EndsAt "-->".toList ("<!--".toList ++ text) := by
  obtain ⟨noClose, noDashClose⟩ := not_or.mp late
  have ends := isComment.endsAt
  rw [closing] at ends ⊢
  have dash : EndsAt ['-', '-', '>'] ('-' :: text) := by
    refine endsAt_cons (fun begins => ?_) ends
    obtain ⟨-, begins⟩ := List.cons_prefix_cons.mp begins
    match text with
    | [] => exact absurd begins (by decide)
    | ['-'] => exact isComment.noDash rfl
    | c :: d :: more =>
      obtain ⟨dash, behind⟩ := List.cons_prefix_cons.mp begins
      obtain ⟨close, -⟩ := List.cons_prefix_cons.mp behind
      exact noDashClose ⟨more, by rw [← dash, ← close]; rfl⟩
  have dashes : EndsAt ['-', '-', '>'] ('-' :: '-' :: text) := by
    refine endsAt_cons (fun begins => ?_) dash
    obtain ⟨-, begins⟩ := List.cons_prefix_cons.mp begins
    obtain ⟨-, begins⟩ := List.cons_prefix_cons.mp begins
    match text with
    | [] => exact absurd begins (by decide)
    | c :: more =>
      obtain ⟨close, -⟩ := List.cons_prefix_cons.mp begins
      exact noClose ⟨more, by rw [← close]; rfl⟩
  change EndsAt ['-', '-', '>'] ('<' :: '!' :: '-' :: '-' :: text)
  exact endsAt_cons (by simp) (endsAt_cons (by simp) dashes)

/-- What is left to be read of a comment when the reader thinks that it is over. -/
def unread : List Char → List Char
  | '>' :: rest => rest ++ "-->".toList
  | '-' :: '>' :: rest => rest ++ "-->".toList
  | _ => []

theorem unread_of_late (late : ¬ClosesEarly text) : unread text = [] := by
  unfold unread
  split
  · exact absurd (.inl ⟨_, rfl⟩) late
  · exact absurd (.inr ⟨_, rfl⟩) late
  · rfl

/-- What is left of a comment that closes early still holds the closing mark. -/
theorem unread_of_early (early : ClosesEarly text) :
    ∃ rest, (∀ c ∈ rest, c ∈ text) ∧ unread text = rest ++ "-->".toList := by
  rcases early with ⟨rest, rfl⟩ | ⟨rest, rfl⟩
  · exact ⟨rest, fun c member => .tail _ member, rfl⟩
  · exact ⟨rest, fun c member => .tail _ (.tail _ member), rfl⟩

/-- A comment is passed up to what is left of it. -/
theorem exists_aside (isComment : IsCommentText text) :
    ∃ skipped : Aside, skipped.written ++ unread text = commented text := by
  by_cases early : ClosesEarly text
  · rcases early with ⟨rest, rfl⟩ | ⟨rest, rfl⟩
    · exact ⟨⟨.comment, "<!".toList, by decide, by decide⟩, by rfl⟩
    · exact ⟨⟨.comment, "<!-".toList, by decide, by decide⟩, by rfl⟩
  · refine ⟨⟨.comment, "<!--".toList ++ text, ?_, isComment.endsAt_opening early⟩, ?_⟩
    · exact startsWith_iff.mpr ⟨_, (List.append_assoc ..).symm⟩
    · rw [unread_of_late early]
      simp [Aside.written, AsideKind.closing, commented]

/-! ### Comments that are passed -/

section
variable {markup : Markup} {before after : List Char}

/-- A comment or an instruction in a gap does not show. -/
theorem Markup.Gap.exists_filled (gap : markup.Gap before after) (skipped : Aside) :
    ∃ filled : Markup, filled.written = before ++ (skipped.written ++ after) ∧
      filled.root = markup.root := by
  cases gap with
  | beforeRoot front back tag body rest =>
    refine ⟨⟨front ++ .aside skipped :: back, tag, body, rest⟩, ?_, rfl⟩
    simp [written, miscWritten, Misc.written]
  | afterRoot misc tag body front back =>
    refine ⟨⟨misc, tag, body, front ++ .aside skipped :: back⟩, ?_, rfl⟩
    simp [written, miscWritten, Misc.written]
  | inRoot misc tag margin rest gap =>
    have shows (content : Content) : content.nodes = (content.filled skipped noText).nodes := by
      have same : content.withLead ⟨[] ++ content.lead.val, content.lead.property⟩ = content :=
        content.withLead_lead
      exact (congrArg Content.nodes same).symm
    obtain ⟨filled, written', same⟩ := gap.exists_filled contextual_eq shows
    refine ⟨⟨misc, tag, .open_ filled margin, rest⟩, ?_, ?_⟩
    · simp [written, Body.written, written', noText]
    · rw [root, root, Body.nodes, Body.nodes, same]

end

/-! ### What is left of a comment -/

theorem nodesText_append (first second : List Node) :
    nodesText (first ++ second) = nodesText first ++ nodesText second := by
  induction first with
  | nil => simp [nodesText]
  | cons node rest ih => cases node <;> simp [nodesText, ih, String.append_assoc]

theorem nodesText_raw (raw : Raw) :
    nodesText raw.nodes = String.ofList (decodeReferences raw.val) := by
  rw [Raw.nodes]
  split
  · rename_i blank
    rw [blank, decodeReferences]
    rfl
  · simp [nodesText]

/-- The nodes hold more text. -/
def Longer (first second : List Node) : Prop :=
  (nodesText first).length < (nodesText second).length

theorem contextual_longer : Contextual Longer where
  behind front {first second} longer := by
    simp only [Longer, nodesText_append, String.length_append] at longer ⊢
    omega
  inside name entries rest {first second} longer := by
    simp only [Longer, nodesText, Element.innerText, String.length_append] at longer ⊢
    omega

/-- Text that ends in a closing angle bracket lengthens the text that it is put in front of. -/
theorem Content.longer_filled {text : Raw} {front : List Char} (ends : text.val = front ++ ['>'])
    (skipped : Aside) (content : Content) :
    Longer content.nodes (content.filled skipped text).nodes := by
  have own : content.nodes = content.lead.nodes ++ content.bare.nodes := by
    rw [← nodes_withLead, withLead_lead]
  have split : text.val ++ content.lead.val = front ++ '>' :: content.lead.val := by simp [ends]
  rw [own, filled, nodes, nodes_withLead, Longer]
  simp only [nodesText_append, nodesText_raw, split, decodeReferences_append, String.length_append,
    String.length_ofList, List.length_append, List.length_cons]
  omega

/-- Text that can be seen stops the reader around the root, and is no element. -/
theorem exists_stop {text : List Char} (free : '<' ∉ text) (visible : trimLeft text ≠ [])
    (rest : List Char) :
    ∃ c tail, trimLeft (text ++ rest) = c :: tail ∧ c ≠ '<' ∧ Settled (c :: tail) := by
  obtain ⟨c, tail, shape⟩ := List.exists_cons_of_ne_nil visible
  have member : c ∈ text := (List.dropWhile_sublist isBlank).subset (by
    rw [← trimLeft, shape]
    exact List.mem_cons_self)
  have different : '<' ≠ c := fun same => free (same ▸ member)
  refine ⟨c, tail ++ rest, ?_, different.symm, ?_⟩
  · rw [trimLeft_append_of_ne_nil visible, shape, List.cons_append]
  · exact ⟨startsWith_of_ne rfl different, startsWith_of_ne rfl different,
      startsWith_of_ne rfl different, startsWith_of_ne rfl different⟩

theorem skipMisc_skipped {stop : List Char} (items : List Misc) (skipped : Aside)
    (settled : Settled (trimLeft stop)) :
    skipMisc ((miscWritten items ++ (skipped.written ++ stop)).length + 1)
        (miscWritten items ++ (skipped.written ++ stop)) = .ok (trimLeft stop) := by
  have whole := skipMisc_all settled (items ++ [.aside skipped])
  have shape : miscWritten (items ++ [.aside skipped]) ++ stop =
      miscWritten items ++ (skipped.written ++ stop) := by simp [miscWritten, Misc.written]
  rwa [shape] at whole

/-- Text that ends in a closing angle bracket and holds no opening one shows in every gap. -/
theorem Markup.Gap.shows {markup : Markup} {before after : List Char}
    (gap : markup.Gap before after) (skipped : Aside) (text : Raw) {front : List Char}
    (ends : text.val = front ++ ['>']) :
    readDocument (before ++ (skipped.written ++ (text.val ++ after))) ≠ .ok markup.root := by
  have visible : trimLeft text.val ≠ [] := by
    intro blank
    have inside : '>' ∈ text.val := by simp [ends]
    exact absurd (trimLeft_eq_nil.mp blank '>' inside) (by decide)
  cases gap with
  | beforeRoot misc back tag body rest =>
    obtain ⟨c, tail, start, noBracket, settled⟩ := exists_stop text.property visible
      (miscWritten back ++ '<' :: (tag.written ++ (body.written tag.name ++ miscWritten rest)))
    have stopped := skipMisc_skipped misc skipped (start ▸ settled)
    rw [readDocument, stopped, start]
    simp only [bind, Except.bind]
    split
    · rename_i same
      cases same
      exact absurd rfl noBracket
    · exact throw_ne_ok
  | afterRoot misc tag body behind back =>
    obtain ⟨c, tail, start, -, settled⟩ := exists_stop text.property visible (miscWritten back)
    have stopped := skipMisc_skipped behind skipped (start ▸ settled)
    have whole := readDocument_root misc tag body
      (miscWritten behind ++ (skipped.written ++ (text.val ++ miscWritten back)))
    rw [stopped, start] at whole
    have shape : miscWritten misc ++ '<' :: (tag.written ++ (body.written tag.name ++
          miscWritten behind)) ++ (skipped.written ++ (text.val ++ miscWritten back)) =
        miscWritten misc ++ '<' :: (tag.written ++ (body.written tag.name ++
          (miscWritten behind ++ (skipped.written ++ (text.val ++ miscWritten back))))) := by simp
    rw [shape, whole]
    exact throw_ne_ok
  | @inRoot misc tag inner margin rest front back gap =>
    obtain ⟨filled, written', longer⟩ :=
      gap.exists_filled contextual_longer (Content.longer_filled ends skipped)
    have whole := readDocument_markup ⟨misc, tag, .open_ filled margin, rest⟩
    have shape : Markup.written ⟨misc, tag, .open_ filled margin, rest⟩ =
        miscWritten misc ++ '<' :: (tag.written ++ '>' :: front) ++ (skipped.written ++ (text.val ++
          (back ++ '<' :: '/' :: (tag.name.toList ++ (margin.val ++ '>' :: miscWritten rest))))) := by
      simp [Markup.written, Body.written, written']
    rw [← shape, whole]
    intro same
    simp only [Markup.root, Body.nodes, Except.ok.injEq, Element.mk.injEq, true_and] at same
    rw [Longer, same] at longer
    exact Nat.lt_irrefl _ longer

/-! ### Comments in documents -/

/-- A comment in a gap of a document that is read does not show if it does not close early; and if it
does, it shows whenever it holds no angle bracket that opens markup. -/
theorem comments_invisible {document : String} {root : Element} (found : read document = .ok root) :
    (∃ markup : Markup, String.ofList markup.written = document) ∧
      ∀ markup : Markup, String.ofList markup.written = document →
        ∀ before after, markup.Gap before after →
          document = String.ofList (before ++ after) ∧
          ∀ text, IsCommentText text →
            (¬ClosesEarly text →
              read (String.ofList (before ++ (commented text ++ after))) = .ok root) ∧
            (ClosesEarly text → '<' ∉ text →
              read (String.ofList (before ++ (commented text ++ after))) ≠ .ok root) := by
  obtain ⟨markup, origin, -⟩ := exists_markup_of_read found
  refine ⟨⟨markup, origin⟩, fun markup written before after gap => ⟨?_, fun text isComment => ?_⟩⟩
  · rw [gap.split, written]
  have same : markup.root = root := by
    have whole := read_markup markup
    rw [written, found] at whole
    exact (Except.ok.inj whole).symm
  obtain ⟨skipped, passed⟩ := exists_aside isComment
  constructor
  · intro late
    rw [unread_of_late late, List.append_nil] at passed
    obtain ⟨filled, written', root'⟩ := gap.exists_filled skipped
    rw [← passed, ← written', read_markup, root', same]
  · intro early noBracket
    obtain ⟨rest, inside, left⟩ := unread_of_early early
    have free : '<' ∉ unread text := by
      rw [left, List.mem_append]
      rintro (member | member)
      · exact noBracket (inside _ member)
      · exact absurd member (by decide)
    have ends : unread text = (rest ++ ['-', '-']) ++ ['>'] := by
      rw [left, List.append_assoc]
      rfl
    have shows := gap.shows skipped ⟨unread text, free⟩ ends
    rw [Ne, read_eq_ok, String.toList_ofList, ← passed, List.append_assoc, ← same]
    exact shows

/-- Between a text and an element, a comment with an arrow does not show, and one that starts with the
head of an arrow does. -/
theorem comments_invisible_arrows :
    let root : Element := .mk "a" [] [.text "x", .element (.mk "b" [] [])]
    read "<a>x<b/></a>" = .ok root ∧
      (∃ markup : Markup, String.ofList markup.written = "<a>x<b/></a>" ∧
        markup.Gap "<a>x".toList "<b/></a>".toList) ∧
      (IsCommentText " ->".toList ∧ ¬ClosesEarly " ->".toList) ∧
      (IsCommentText "> ".toList ∧ ClosesEarly "> ".toList ∧ '<' ∉ "> ".toList) ∧
      read "<a>x<!-- ->--><b/></a>" = .ok root ∧ read "<a>x<!--> --><b/></a>" ≠ .ok root := by
  intro root
  let tag (name : String) (isName : IsName name) (reserved : List String)
      (unreserved : ∀ mark ∈ reserved, ¬mark.toList <+: name.toList) : Tag reserved :=
    ⟨name, isName, unreserved, [], nofun, noBlanks⟩
  let inner : Content := .child ⟨['x'], by decide⟩
    (tag "b" ⟨by decide, by simp [isBlank]⟩ innerMarks (by decide)) .closed (.done noText)
  let outer : Tag outerMarks := tag "a" ⟨by decide, by simp [isBlank]⟩ outerMarks (by decide)
  let markup : Markup := ⟨[], outer, .open_ inner noBlanks, []⟩
  have written : String.ofList markup.written = "<a>x<b/></a>" := by decide
  have plain : decodeReferences ['x'] = ['x'] := by
    rw [decodeReferences_plain (by decide), decodeReferences]
  have same : markup.root = root := by
    simp [markup, Markup.root, outer, tag, Tag.entries, Body.nodes, inner, Content.nodes, Raw.nodes,
      noText, plain, root]
  have found : read "<a>x<b/></a>" = .ok root := by rw [← written, read_markup, same]
  have gap : markup.Gap "<a>x".toList "<b/></a>".toList := by
    have front : "<a>x".toList = miscWritten [] ++ '<' :: (outer.written ++ '>' :: inner.lead.val) := by
      decide
    have back : "<b/></a>".toList = inner.bare.written ++
        '<' :: '/' :: (outer.name.toList ++ (noBlanks.val ++ '>' :: miscWritten [])) := by decide
    rw [front, back]
    exact .inRoot [] outer noBlanks [] (.afterText inner)
  have arrow : IsCommentText " ->".toList := ⟨by decide, by decide⟩
  have head : IsCommentText "> ".toList := ⟨by decide, by decide⟩
  have shown := ((comments_invisible found).2 markup written _ _ gap).2
  exact ⟨found, ⟨markup, written, gap⟩, ⟨arrow, by decide⟩, ⟨head, by decide, by decide⟩,
    (shown _ arrow).1 (by decide), (shown _ head).2 (by decide) (by decide)⟩

end ApiProbe.Xml
