import ApiProbe.Proofs.Script.AlikeHeads

/-!
Outputs that read alike, piece by piece, and states with such outputs. What is written in a gap may
differ: blanks and comments on one line in the first output, blanks in the second.
-/
namespace ApiProbe.Script.Lowering
variable {strict : Prop}

/-- True of comments without a line end. -/
def IsAside (piece : String) : Prop := IsComment piece.toList ∧ '\n' ∉ piece.toList

/-- Pieces that are written as they are in both outputs, and are no gap: line ends, comments that span
lines, and the signs that may run into a slash. Nothing is written for a parenthesis of a loop. -/
def IsShared (piece : String) : Prop :=
  piece ∈ ["\n", "/", "*", "*=", ""] ∨ IsComment piece.toList ∧ '\n' ∈ piece.toList

/-- Pieces of two outputs, last one first. -/
inductive Written (strict : Prop) : List String → List String → Prop
  | nil : Written strict [] []
  | text {first second : String} {before before' : List String} (twins : Twins strict first second)
    (written : Written strict before before') : Written strict (first :: before) (second :: before')
  | shared {piece : String} {before before' : List String} (own : IsShared piece)
    (written : Written strict before before') : Written strict (piece :: before) (piece :: before')
  | gap {piece : String} {before before' : List String}
    (gap : Output.isInline piece = true ∨ IsAside piece) (written : Written strict before before') :
    Written strict (piece :: before) before'
  | blank {piece : String} {before before' : List String} (gap : Output.isInline piece = true)
    (written : Written strict before before') : Written strict before (piece :: before')

theorem Written.append {first second before before' : List String}
    (one : Written strict first second) (two : Written strict before before') :
    Written strict (first ++ before) (second ++ before') := by
  induction one with
  | nil => exact two
  | text twins _ ih => exact .text twins ih
  | shared own _ ih => exact .shared own ih
  | gap gap _ ih => exact .gap gap ih
  | blank gap _ ih => exact .blank gap ih

/-- Pieces that can stand one behind the other: a comment up to the end of its line has a line end
behind it, and a slash starts no comment with the next piece. -/
structure Precedes (strict : Prop) (earlier later : String) : Prop where
  line : isLineMark earlier.toList = true → later.toList.head? = some '\n'
  slash : strict → earlier = "/" → startsApart later = true

/-- Pieces that can stand together, last one first. -/
def Chained (strict : Prop) (pieces : List String) : Prop :=
  pieces.IsChain fun later earlier => Precedes strict earlier later

/-- Pieces behind which a text can stand. -/
def Takes (strict : Prop) (pieces : List String) (text : String) : Prop :=
  ∀ top ∈ pieces.head?, Precedes strict top text

theorem chained_cons {text : String} {pieces : List String} :
    Chained strict (text :: pieces) ↔ Takes strict pieces text ∧ Chained strict pieces := by
  cases pieces with
  | nil => simp [Chained, Takes]
  | cons top rest =>
    rw [Chained, List.isChain_cons_cons]
    simp [Takes, Chained]

section Reading

/-- A piece as atoms. -/
structure PieceReads (strict : Prop) (piece : String) (atoms : List Atom) : Prop where
  legible : Legible strict atoms
  spells : spelled atoms = piece.toList
  line : ∀ last ∈ atoms.getLast?, last.isComment = true → isLineMark last.text = true →
    isLineMark piece.toList = true
  slash : ∀ last ∈ atoms.getLast?, last = .char '/' → piece = "/"

theorem pieceReads_of_reads {text : String} {atoms : List Atom} (reads : Reads strict text atoms)
    (ends : endsApart text = true ∨ text = "/") : PieceReads strict text atoms where
  legible := reads.legible
  spells := reads.spells
  line := by
    intro last is comment
    rw [reads.plain last (List.mem_of_getLast? is)] at comment
    cases comment
  slash := by
    rintro last is rfl
    refine ends.resolve_left fun apart => ?_
    have final := Atom.getLast?_spelled is
    rw [reads.spells] at final
    simp [endsApart, final] at apart

theorem pieceReads_comment {piece : String} (is : IsComment piece.toList) :
    PieceReads strict piece [.comment piece.toList] where
  legible := ⟨List.forall_mem_singleton.mpr is, .singleton _⟩
  spells := by simp [spelled, Atom.text]
  line := by
    rintro _ ⟨⟩ - mark
    exact mark
  slash := by
    rintro _ ⟨⟩ is
    cases is

theorem isInlineBlank_of_isInline {piece : String} (inline : Output.isInline piece = true) :
    ∀ c ∈ piece.toList, isInlineBlank c = true := by
  simp only [Output.isInline, Text.isBlankText, Bool.and_eq_true, List.all_eq_true,
    Bool.not_eq_true', List.contains_eq_mem, decide_eq_false_iff_not] at inline
  intro c member
  have apart : c ≠ '\n' := fun same => inline.2 (same ▸ member)
  simp [isInlineBlank, inline.1 c member, apart]

/-- Nothing is kept of blanks. -/
theorem pieceReads_blank {piece : String} (inline : Output.isInline piece = true) :
    ∃ atoms, PieceReads strict piece atoms ∧ atoms.filter Atom.isKept = [] := by
  have each := isInlineBlank_of_isInline inline
  have apart := fun c member => inlineBlank_apart (each c member)
  have reads : Reads strict piece (piece.toList.map .char) :=
    .of_chars (fun c member => (apart c member).2.2)
      (isChain_chars fun member => (apart '/' member).1 rfl)
  refine ⟨_, pieceReads_of_reads reads (.inl ?_), ?_⟩
  · exact bne_iff_ne.mpr fun last => (apart '/' (List.mem_of_getLast? last)).1 rfl
  · refine List.filter_eq_nil_iff.mpr fun atom member => ?_
    obtain ⟨c, inside, rfl⟩ := List.mem_map.mp member
    simp [Atom.isKept, each c inside]

theorem pieceReads_shared {piece : String} (own : IsShared piece) :
    ∃ atoms, PieceReads strict piece atoms := by
  rcases own with member | ⟨comment, -⟩
  · have special : (piece = "/" ∨ isPlain piece = true) := by
      revert piece
      decide
    rcases special with rfl | plain
    · exact ⟨_, pieceReads_of_reads (.of_chars (by simp) (.singleton _)) (.inr rfl)⟩
    · exact ⟨_, pieceReads_of_reads (.of_isPlain plain) (.inl (endsApart_of_isPlain plain))⟩
  · exact ⟨_, pieceReads_comment comment⟩

theorem PieceReads.toList_eq_nil {piece : String} {atoms : List Atom}
    (reads : PieceReads strict piece atoms) (none_ : atoms.getLast? = none) : piece.toList = [] := by
  rw [← reads.spells, List.getLast?_eq_none_iff.mp none_]
  rfl

/-- All pieces of an output, last one first, as atoms. -/
structure Stands (strict : Prop) (pieces : List String) (atoms : List Atom) : Prop where
  legible : Legible strict atoms
  spells : spelled atoms = (String.join pieces.reverse).toList
  line : ∀ last ∈ atoms.getLast?, last.isComment = true → isLineMark last.text = true →
    ∃ top ∈ pieces.head?, isLineMark top.toList = true
  slash : strict → ∀ last ∈ atoms.getLast?, last = .char '/' → pieces.head? = some "/"

/-- One more piece. -/
theorem Stands.cons {piece : String} {pieces : List String} {atoms own : List Atom}
    (stands : Stands strict pieces atoms) (reads : PieceReads strict piece own)
    (takes : Takes strict pieces piece) : Stands strict (piece :: pieces) (atoms ++ own) where
  legible := by
    refine ⟨List.forall_mem_append.mpr ⟨stands.legible.sound, reads.legible.sound⟩,
      List.isChain_append.mpr ⟨stands.legible.apart, reads.legible.apart,
        fun x last y next => ⟨fun comment mark => ?_, fun strict_ slash c here => ?_⟩⟩⟩
    · obtain ⟨top, first, line⟩ := stands.line x last comment mark
      rw [← Atom.head?_spelled reads.legible.sound next, reads.spells]
      exact (takes top first).line line
    · have first := stands.slash strict_ x last slash
      have starts := (takes "/" first).slash strict_ rfl
      refine head?_of_startsApart starts c ?_
      rw [← reads.spells, Atom.head?_spelled reads.legible.sound next]
      exact here
  spells := by
    rw [spelled_append, stands.spells, reads.spells, List.reverse_cons]
    simp
  line := by
    intro last is comment mark
    rw [List.getLast?_append] at is
    cases final : own.getLast? with
    | none =>
      rw [final] at is
      obtain ⟨top, first, line⟩ := stands.line last is comment mark
      have starts := (takes top first).line line
      rw [reads.toList_eq_nil final] at starts
      cases starts
    | some other =>
      rw [final] at is
      cases is
      exact ⟨piece, rfl, reads.line last final comment mark⟩
  slash := by
    intro strict_ last is slash
    rw [List.getLast?_append] at is
    cases final : own.getLast? with
    | none =>
      rw [final] at is
      have starts := (takes "/" (stands.slash strict_ last is slash)).slash strict_ rfl
      simp [startsApart, reads.toList_eq_nil final] at starts
    | some other =>
      rw [final] at is
      cases is
      rw [List.head?_cons, reads.slash last final slash]

theorem Stands.nil : Stands strict [] [] where
  legible := ⟨(fun _ member => by cases member), .nil⟩
  spells := rfl
  line := fun _ is => by cases is
  slash := fun _ _ is => by cases is

/-- Outputs written alike read alike. -/
theorem Written.stands {first second : List String} (written : Written strict first second)
    (chained : Chained strict first) (chained' : Chained strict second) :
    ∃ one two, Stands strict first one ∧ Stands strict second two ∧
      one.filter Atom.isKept = two.filter Atom.isKept := by
  induction written with
  | nil => exact ⟨[], [], .nil, .nil, rfl⟩
  | text twins _ ih =>
    obtain ⟨takes, chained⟩ := chained_cons.mp chained
    obtain ⟨takes', chained'⟩ := chained_cons.mp chained'
    obtain ⟨one, two, stands, stands', same⟩ := ih chained chained'
    obtain ⟨atoms, atoms', reads, reads', alike⟩ := twins.paired
    exact ⟨_, _, stands.cons (pieceReads_of_reads reads (.inl twins.ends.1)) takes,
      stands'.cons (pieceReads_of_reads reads' (.inl twins.ends.2)) takes',
      by rw [List.filter_append, List.filter_append, same, alike]⟩
  | shared own _ ih =>
    obtain ⟨takes, chained⟩ := chained_cons.mp chained
    obtain ⟨takes', chained'⟩ := chained_cons.mp chained'
    obtain ⟨one, two, stands, stands', same⟩ := ih chained chained'
    obtain ⟨atoms, reads⟩ : ∃ atoms, PieceReads strict _ atoms := pieceReads_shared own
    exact ⟨_, _, stands.cons reads takes, stands'.cons reads takes',
      by rw [List.filter_append, List.filter_append, same]⟩
  | @gap piece before before' gap _ ih =>
    obtain ⟨takes, chained⟩ := chained_cons.mp chained
    obtain ⟨one, two, stands, stands', same⟩ := ih chained chained'
    have own : ∃ atoms, PieceReads strict piece atoms ∧ atoms.filter Atom.isKept = [] := by
      rcases gap with inline | aside
      · exact pieceReads_blank inline
      · exact ⟨_, pieceReads_comment aside.1, rfl⟩
    obtain ⟨atoms, reads, none_⟩ := own
    exact ⟨_, two, stands.cons reads takes, stands',
      by rw [List.filter_append, none_, List.append_nil, same]⟩
  | blank gap _ ih =>
    obtain ⟨takes', chained'⟩ := chained_cons.mp chained'
    obtain ⟨one, two, stands, stands', same⟩ := ih chained chained'
    obtain ⟨atoms, reads, none_⟩ : ∃ atoms, PieceReads strict _ atoms ∧ _ := pieceReads_blank gap
    exact ⟨one, _, stands, stands'.cons reads takes',
      by rw [List.filter_append, none_, List.append_nil, same]⟩

end Reading

section Joining

/-- True of pieces that are comments without a line end. -/
def isAsidePiece (piece : String) : Bool :=
  (isLineMark piece.toList || ['/', '*'].isPrefixOf piece.toList) && !piece.toList.contains '\n'

namespace Output

/-- The output without its comments on one line. -/
def withoutAsides (output : Output) : Output :=
  ⟨output.done.filter fun piece => !isAsidePiece piece,
    output.loose.filter fun piece => !isAsidePiece piece⟩

/-- Whether a closing parenthesis at the end can be taken back for one more argument, and if so,
whether that is the only one. -/
def joins (output : Output) : Option Bool := output.reopen?.map endsOpen

end Output

/-- What stands before a closing parenthesis that only inline blanks follow. -/
def beforeClosing? (pieces : List String) : Option (List String) :=
  match pieces.dropWhile Output.isInline with
  | last :: before => if last == ")" then some before else none
  | [] => none

theorem reopen?_eq (output : Output) :
    output.reopen? = (beforeClosing? output.pieces).map fun before => ⟨before, []⟩ := by
  unfold Output.reopen? beforeClosing?
  cases output.pieces.dropWhile Output.isInline with
  | nil => rfl
  | cons last before =>
    simp only
    split <;> rfl

theorem beforeClosing?_inline {piece : String} (inline : Output.isInline piece = true)
    (pieces : List String) : beforeClosing? (piece :: pieces) = beforeClosing? pieces := by
  rw [beforeClosing?, List.dropWhile_cons_of_pos inline]
  rfl

theorem beforeClosing?_visible {piece : String} (visible : Output.isInline piece = false)
    (pieces : List String) :
    beforeClosing? (piece :: pieces) = if piece == ")" then some pieces else none := by
  rw [beforeClosing?, List.dropWhile_cons_of_neg (by simp [visible])]

theorem isBlankText_of_closes {text : String} (closes : Closes text) :
    Text.isBlankText text = false := by
  refine Bool.eq_false_iff.mpr fun blank => ?_
  have own := List.all_eq_true.mp blank ')' (List.mem_of_getLast? closes.1)
  exact absurd own (by decide)

theorem isInline_of_closes {text : String} (closes : Closes text) :
    Output.isInline text = false := by
  rw [Output.isInline, isBlankText_of_closes closes, Bool.false_and]

/-- Twins cannot be told apart by what is looked for in the output. -/
theorem Twins.looks {first second : String} (twins : Twins strict first second) :
    Output.isInline first = Output.isInline second ∧
      Text.isBlankText first = Text.isBlankText second ∧ (first == ")") = (second == ")") ∧
      (first.toList.getLast? == some '(') = (second.toList.getLast? == some '(') := by
  rcases twins.shape with rfl | ⟨closes, closes'⟩
  · exact ⟨rfl, rfl, rfl, rfl⟩
  · rw [isInline_of_closes closes, isInline_of_closes closes', isBlankText_of_closes closes,
      isBlankText_of_closes closes', beq_eq_false_iff_ne.mpr closes.2,
      beq_eq_false_iff_ne.mpr closes'.2, closes.1, closes'.1]
    exact ⟨rfl, rfl, rfl, rfl⟩

theorem comment_starts {text : List Char} (is : IsComment text) :
    (isLineMark text || ['/', '*'].isPrefixOf text) = true ∧ '/' ∈ text := by
  cases is
  · exact ⟨rfl, List.mem_cons_self⟩
  · exact ⟨by simp [List.isPrefixOf], List.mem_cons_self⟩

theorem isAsidePiece_of_isAside {piece : String} (aside : IsAside piece) :
    isAsidePiece piece = true := by
  rw [isAsidePiece, (comment_starts aside.1).1]
  simp [aside.2]

theorem isBlankText_of_isAside {piece : String} (aside : IsAside piece) :
    Text.isBlankText piece = false := by
  refine Bool.eq_false_iff.mpr fun blank => ?_
  have own := List.all_eq_true.mp blank '/' (comment_starts aside.1).2
  exact absurd own (by decide)

theorem isAsidePiece_of_head {piece : String} (apart : ∀ c ∈ piece.toList.head?, c ≠ '/') :
    isAsidePiece piece = false := by
  unfold isAsidePiece isLineMark
  cases text : piece.toList with
  | nil => rfl
  | cons c rest =>
    have other : c ≠ '/' := apart c (by rw [text]; rfl)
    simp [List.isPrefixOf, Ne.symm other]

theorem isAsidePiece_of_isShared {piece : String} (own : IsShared piece) :
    isAsidePiece piece = false := by
  rcases own with member | ⟨-, broken⟩
  · revert piece
    decide
  · simp [isAsidePiece, broken]

theorem isAsidePiece_of_isInline {piece : String} (inline : Output.isInline piece = true) :
    isAsidePiece piece = false := by
  refine isAsidePiece_of_head fun c first => ?_
  exact (inlineBlank_apart (isInlineBlank_of_isInline inline c (List.mem_of_mem_head? first))).1

theorem isAsidePiece_of_startsApart {text : String} (starts : startsApart text = true) :
    isAsidePiece text = false :=
  isAsidePiece_of_head fun c first => (head?_of_startsApart starts c first).1

variable {first second : List String}

/-- What stands before the parenthesis is written alike. -/
theorem Written.beforeClosing? (written : Written strict first second) {before : List String}
    (is : beforeClosing? first = some before) :
    ∃ before', beforeClosing? second = some before' ∧ Written strict before before' := by
  induction written with
  | nil => cases is
  | @text piece piece' rest rest' twins written ih =>
    obtain ⟨inline, -, closes, -⟩ := twins.looks
    cases own : Output.isInline piece with
    | true =>
      rw [beforeClosing?_inline own] at is
      rw [beforeClosing?_inline (inline ▸ own)]
      exact ih is
    | false =>
      rw [beforeClosing?_visible own] at is
      rw [beforeClosing?_visible (inline ▸ own), ← closes]
      split at is
      · rename_i same
        cases is
        exact ⟨rest', if_pos same, written⟩
      · cases is
  | @shared piece rest rest' shared written ih =>
    cases own : Output.isInline piece with
    | true =>
      rw [beforeClosing?_inline own] at is ⊢
      exact ih is
    | false =>
      rw [beforeClosing?_visible own] at is ⊢
      split at is
      · rename_i same
        cases is
        exact ⟨rest', if_pos same, written⟩
      · cases is
  | @gap piece rest rest' gap written ih =>
    rcases gap with inline | aside
    · rw [beforeClosing?_inline inline] at is
      exact ih is
    · have visible : Output.isInline piece = false := by
        rw [Output.isInline, isBlankText_of_isAside aside, Bool.false_and]
      have other : piece ≠ ")" := by
        rintro rfl
        exact absurd (comment_starts aside.1).2 (by decide)
      rw [beforeClosing?_visible visible, if_neg (by simpa using other)] at is
      cases is
  | blank inline written ih =>
    rw [beforeClosing?_inline inline]
    exact ih is

def withoutAsides (pieces : List String) : List String :=
  pieces.filter fun piece => !isAsidePiece piece

theorem withoutAsides_cons {piece : String} (other : isAsidePiece piece = false)
    (rest : List String) : withoutAsides (piece :: rest) = piece :: withoutAsides rest :=
  List.filter_cons_of_pos (by simp [other])

/-- The last piece that is seen. -/
def opensLast (pieces : List String) : Bool :=
  match pieces.find? fun piece => !Text.isBlankText piece with
  | some piece => piece.toList.getLast? == some '('
  | none => false

theorem opensLast_cons (piece : String) (pieces : List String) :
    opensLast (piece :: pieces) = if Text.isBlankText piece then opensLast pieces
      else piece.toList.getLast? == some '(' := by
  unfold opensLast
  rw [List.find?_cons]
  cases Text.isBlankText piece <;> rfl

theorem Written.opensLast (written : Written strict first second) :
    opensLast (withoutAsides first) = opensLast second := by
  induction written with
  | nil => rfl
  | text twins written ih =>
    obtain ⟨-, blank, -, opens⟩ := twins.looks
    rw [withoutAsides_cons (isAsidePiece_of_startsApart twins.starts.1), opensLast_cons,
      opensLast_cons, blank, opens, ih]
  | shared own written ih =>
    rw [withoutAsides_cons (isAsidePiece_of_isShared own), opensLast_cons, opensLast_cons, ih]
  | gap gap written ih =>
    rcases gap with inline | aside
    · have blank := (Bool.and_eq_true_iff.mp inline).1
      rw [withoutAsides_cons (isAsidePiece_of_isInline inline), opensLast_cons, if_pos blank, ih]
    · rw [withoutAsides, List.filter_cons_of_neg (by simp [isAsidePiece_of_isAside aside])]
      exact ih
  | blank inline written ih =>
    rw [opensLast_cons, if_pos (Bool.and_eq_true_iff.mp inline).1, ih]

/-- Without the comments, a closing parenthesis is found in both or in neither. -/
theorem Written.beforeClosing?_withoutAsides (written : Written strict first second) :
    Both (fun before before' => ∃ whole, before = withoutAsides whole ∧ Written strict whole before')
      (Lowering.beforeClosing? (withoutAsides first)) (Lowering.beforeClosing? second) := by
  induction written with
  | nil => exact .inl ⟨rfl, rfl⟩
  | @text piece piece' rest rest' twins written ih =>
    obtain ⟨inline, -, closes, -⟩ := twins.looks
    rw [withoutAsides_cons (isAsidePiece_of_startsApart twins.starts.1)]
    cases own : Output.isInline piece with
    | true =>
      rw [beforeClosing?_inline own, beforeClosing?_inline (inline ▸ own)]
      exact ih
    | false =>
      rw [beforeClosing?_visible own, beforeClosing?_visible (inline ▸ own), ← closes]
      split
      · exact .inr ⟨_, _, rfl, rfl, rest, rfl, written⟩
      · exact .inl ⟨rfl, rfl⟩
  | @shared piece rest rest' shared written ih =>
    rw [withoutAsides_cons (isAsidePiece_of_isShared shared)]
    cases own : Output.isInline piece with
    | true =>
      rw [beforeClosing?_inline own, beforeClosing?_inline own]
      exact ih
    | false =>
      rw [beforeClosing?_visible own, beforeClosing?_visible own]
      split
      · exact .inr ⟨_, _, rfl, rfl, rest, rfl, written⟩
      · exact .inl ⟨rfl, rfl⟩
  | gap gap written ih =>
    rcases gap with inline | aside
    · rw [withoutAsides_cons (isAsidePiece_of_isInline inline), beforeClosing?_inline inline]
      exact ih
    · rw [withoutAsides, List.filter_cons_of_neg (by simp [isAsidePiece_of_isAside aside])]
      exact ih
  | blank inline written ih =>
    rw [beforeClosing?_inline inline]
    exact ih

/-- If the comments do not matter to the first output, a call is reopened in both outputs or in
neither, and what stands before its parenthesis is written alike. -/
theorem Written.reopens (written : Written strict first second)
    (same : (Lowering.beforeClosing? first).map Lowering.opensLast
      = (Lowering.beforeClosing? (withoutAsides first)).map Lowering.opensLast) :
    Both (fun before before' => Written strict before before' ∧
        Lowering.opensLast before = Lowering.opensLast before')
      (Lowering.beforeClosing? first) (Lowering.beforeClosing? second) := by
  rcases written.beforeClosing?_withoutAsides with ⟨absent, absent'⟩ |
    ⟨kept, before', is, is', whole, rfl, wholes⟩
  · rw [absent, Option.map_none, Option.map_eq_none_iff] at same
    exact .inl ⟨same, absent'⟩
  · rw [is, Option.map_some, Option.map_eq_some_iff] at same
    obtain ⟨before, found, opens⟩ := same
    obtain ⟨before'', found', inner⟩ := written.beforeClosing? found
    obtain rfl : before'' = before' := Option.some.inj (found'.symm.trans is')
    exact .inr ⟨before, before'', found, found', inner, opens.trans wholes.opensLast⟩

/-- What stands before a parenthesis can stand alone, and a text can stand in its place. -/
theorem Chained.beforeClosing? {pieces before : List String} (chained : Chained strict pieces)
    (is : Lowering.beforeClosing? pieces = some before) :
    Takes strict before ")" ∧ Chained strict before := by
  unfold Lowering.beforeClosing? at is
  have suffix := List.dropWhile_suffix (l := pieces) Output.isInline
  split at is
  · rename_i last rest rest_is
    split at is
    · rename_i closes
      cases is
      rw [rest_is, beq_iff_eq.mp closes] at suffix
      exact chained_cons.mp (List.IsChain.suffix chained suffix)
    · cases is
  · cases is

end Joining

end ApiProbe.Script.Lowering
