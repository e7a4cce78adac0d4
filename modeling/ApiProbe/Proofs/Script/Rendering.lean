import ApiProbe.Proofs.Script.Reading

/-!
How tokens read where they are written: one by one, and rendered on one line. Rendering drops the
comments, so what is rendered of tokens that are alike reads alike.
-/
namespace ApiProbe.Script

/-- Signs behind a slash that would make a comment of it, and the parenthesis, in place of which
nothing may be written. -/
def slashTails : List String := ["/", "/=", "*", "*=", ")"]

def Kind.isComment : Kind → Bool
  | .comment _ => true
  | _ => false

/-- Tokens that may stand behind a slash: no comment comes next, and no such sign is the next token
that has a meaning. -/
def FollowsSlash (tokens : List Token) : Prop :=
  (∀ token ∈ tokens.head?, token.kind.isComment = false) ∧
    ∀ token ∈ (Lowering.meaningful tokens).head?, ∀ text ∈ slashTails, token.kind ≠ .sign text

instance (tokens : List Token) : Decidable (FollowsSlash tokens) :=
  inferInstanceAs (Decidable (_ ∧ _))

/-- No slash runs into what follows it. -/
def SlashesApart : List Token → Prop
  | [] => True
  | token :: rest => (token.kind = .sign "/" → FollowsSlash rest) ∧ SlashesApart rest

instance decidableSlashesApart : (tokens : List Token) → Decidable (SlashesApart tokens)
  | [] => isTrue trivial
  | token :: rest =>
    have := decidableSlashesApart rest
    inferInstanceAs (Decidable ((token.kind = .sign "/" → FollowsSlash rest) ∧ SlashesApart rest))

/-- No back tick stands in the template that a token is written as, if any. -/
def Kind.TickFree (language : Language) : Kind → Prop
  | .template body => Char.ofNat 96 ∉ body
  | .quoted body quote => language = .groovy → quote = '"' → Literal.interpolates body = true →
    Char.ofNat 96 ∉ Literal.interpolated body
  | _ => True

instance (language : Language) : (kind : Kind) → Decidable (kind.TickFree language)
  | .template body => inferInstanceAs (Decidable (Char.ofNat 96 ∉ body))
  | .quoted body quote =>
    inferInstanceAs (Decidable (language = .groovy → quote = '"' →
      Literal.interpolates body = true → Char.ofNat 96 ∉ Literal.interpolated body))
  | .word _ | .number _ | .space _ | .comment _ | .sign _ | .regex .. | .newline => isTrue trivial

/-- Tokens that can be told apart where they are written: no slash runs into what follows it, and no
template ends before its end. -/
structure Orderly (language : Language) (tokens : List Token) : Prop where
  slashes : SlashesApart tokens
  ticks : ∀ token ∈ tokens, token.kind.TickFree language

instance (language : Language) (tokens : List Token) : Decidable (Orderly language tokens) :=
  decidable_of_iff
    (SlashesApart tokens ∧ ∀ token ∈ tokens, token.kind.TickFree language)
    ⟨fun both => ⟨both.1, both.2⟩, fun orderly => ⟨orderly.slashes, orderly.ticks⟩⟩

theorem Orderly.tail {language : Language} {token : Token} {rest : List Token}
    (orderly : Orderly language (token :: rest)) : Orderly language rest :=
  ⟨orderly.slashes.2, (List.forall_mem_cons.mp orderly.ticks).2⟩

/-- The atoms of a token as it is written without regard to its surroundings. -/
def Kind.atoms : Kind → List Atom
  | .word text | .number text | .sign text | .space text => text.toList.map .char
  | .quoted body _ => [.literal (Literal.quote body)]
  | .template body => [.literal (Literal.template body)]
  | .regex pattern flags => [.literal (Literal.regex pattern flags)]
  | .newline => [.char '\n']
  | .comment text => [.comment text.toList]

namespace Lowering
variable {strict : Prop} {language : Language}

/-- A kind of characters that has none of the marks of literals and comments. -/
theorem isPlainChar_of {kind : Char → Bool} {c : Char} (is : kind c = true)
    (apart : ['"', Char.ofNat 96, '/', '\\', '*'].all (fun d => !kind d) = true) :
    isPlainChar c = true ∧ c ≠ '*' := by
  have other (d : Char) (mark : d ∈ ['"', Char.ofNat 96, '/', '\\', '*']) : c ≠ d := by
    rintro rfl
    have outside := List.all_eq_true.mp apart c mark
    rw [is] at outside
    cases outside
  have tick : c.toNat ≠ 96 := by
    intro same
    refine other (Char.ofNat 96) (by simp) ?_
    rw [← same, Char.ofNat_toNat]
  simp only [isPlainChar, Bool.and_eq_true, bne_iff_ne]
  exact ⟨⟨⟨⟨other '"' (by simp), tick⟩, other '/' (by simp)⟩, other '\\' (by simp)⟩,
    other '*' (by simp)⟩

theorem startsApart_of_forall {text : String} (some_ : text.toList ≠ [])
    (plain : ∀ c ∈ text.toList, isPlainChar c = true ∧ c ≠ '*') : startsApart text = true := by
  obtain ⟨c, rest, same⟩ := List.exists_cons_of_ne_nil some_
  have own := plain c (by rw [same]; exact List.mem_cons_self)
  simp only [isPlainChar, Bool.and_eq_true, bne_iff_ne] at own
  simp [startsApart, same, own.1.1.2, own.2]

theorem endsApart_of_isPlain {text : String} (plain : isPlain text = true) :
    endsApart text = true := by
  refine bne_iff_ne.mpr fun last => ?_
  have own := List.all_eq_true.mp plain '/' (List.mem_of_getLast? last)
  exact absurd own (by decide)

/-- A word starts and ends apart from anything, and is plain. -/
theorem plain_word {text : String} (sound : (Kind.word text).Sound) :
    isPlain text = true ∧ startsApart text = true := by
  have each := fun c member => isPlainChar_of (sound.2 c member) (by decide)
  exact ⟨List.all_eq_true.mpr fun c member => (each c member).1, startsApart_of_forall sound.1 each⟩

theorem plain_number {text : String} (sound : (Kind.number text).Sound) :
    isPlain text = true ∧ startsApart text = true := by
  obtain ⟨c, rest, same, -, part⟩ := sound
  have each := fun c member => isPlainChar_of (part c member) (by decide)
  exact ⟨List.all_eq_true.mpr fun c member => (each c member).1,
    startsApart_of_forall (by simp [same]) each⟩

theorem plain_sign : ∀ text ∈ signs,
    (text = "/" ∨ text = "/=" ∨ isPlain text = true) ∧
      (text ∈ slashTails ∨ startsApart text = true) := by decide

theorem inlineBlank_apart {c : Char} (blank : isInlineBlank c = true) :
    c ≠ '/' ∧ c ≠ '*' ∧ c ≠ '"' ∧ c ≠ Char.ofNat 96 := by
  refine ⟨?_, ?_, ?_, ?_⟩ <;> rintro rfl <;> exact absurd blank (by decide)

theorem reads_literal {text : List Char} (literal : IsLiteral strict text) :
    Reads strict (String.ofList text) [.literal text] := by
  have reads : Reads strict (String.ofList text) _ := .of_literal (by rwa [String.toList_ofList])
  rwa [String.toList_ofList] at reads

/-- A token without its surroundings reads as itself. -/
theorem reads_plainText {kind : Kind} (sound : kind.Sound) (ticks : strict → kind.TickFree language)
    (other : ∀ text, kind ≠ .comment text) : Reads strict (plainText kind) kind.atoms := by
  cases kind with
  | word text => exact .of_isPlain (plain_word sound).1
  | number text => exact .of_isPlain (plain_number sound).1
  | sign text =>
    rcases (plain_sign text sound).1 with rfl | rfl | plain
    · exact .of_chars (by simp [plainText]) (.singleton _)
    · refine .of_chars (by simp [plainText]) (List.isChain_cons_cons.mpr ⟨⟨(fun is => by cases is), ?_⟩,
        .singleton _⟩)
      rintro - - c ⟨⟩
      decide
    · exact .of_isPlain plain
  | space text =>
    have each := fun c member => inlineBlank_apart (sound.2 c member)
    exact .of_chars (fun c member => (each c member).2.2)
      (isChain_chars fun member => (each '/' member).1 rfl)
  | quoted body quote => exact reads_literal (isLiteral_quote body)
  | template body => exact reads_literal (isLiteral_template ticks)
  | regex pattern flags => exact reads_literal (isLiteral_regex pattern flags)
  | newline => exact .of_isPlain (by decide)
  | comment text => exact absurd rfl (other text)

section Trimming
variable {atoms : List Atom}

/-- Blanks outside literals. -/
def isBlankAtom : Atom → Bool
  | .char c => Text.isBlank c
  | _ => false

/-- A literal starts and ends with a mark that is seen. -/
theorem literal_visible {text : List Char} (literal : IsLiteral strict text) :
    (∀ c, text.head? = some c → Text.isBlank c = false) ∧
      ∀ c, text.getLast? = some c → Text.isBlank c = false := by
  cases literal <;> rw [← List.cons_append, List.getLast?_concat] <;>
    exact ⟨by rintro c ⟨⟩; decide, by rintro c ⟨⟩; decide⟩

theorem trimLeft_spelled (sound : ∀ atom ∈ atoms, atom.Sound strict)
    (plain : ∀ atom ∈ atoms, atom.isComment = false) :
    Text.trimLeft (spelled atoms) = spelled (atoms.dropWhile isBlankAtom) := by
  induction atoms with
  | nil => rfl
  | cons atom rest ih =>
    obtain ⟨own, others⟩ := List.forall_mem_cons.mp sound
    obtain ⟨apart, plain'⟩ := List.forall_mem_cons.mp plain
    cases atom with
    | char c =>
      have rest' := ih others plain'
      cases blank : Text.isBlank c with
      | true =>
        rw [List.dropWhile_cons_of_pos (by exact blank), ← rest']
        exact List.dropWhile_cons_of_pos blank
      | false =>
        rw [List.dropWhile_cons_of_neg (by simp [isBlankAtom, blank])]
        exact Text.trimLeft_cons_visible blank
    | comment text => cases apart
    | literal text =>
      rw [List.dropWhile_cons_of_neg (by simp [isBlankAtom])]
      refine Text.trimLeft_eq_self fun c first => (literal_visible own).1 c ?_
      rw [← first]
      exact (Atom.head?_spelled sound rfl).symm

theorem trimRight_spelled (sound : ∀ atom ∈ atoms, atom.Sound strict)
    (plain : ∀ atom ∈ atoms, atom.isComment = false) :
    Text.trimRight (spelled atoms) = spelled (atoms.reverse.dropWhile isBlankAtom).reverse := by
  induction atoms using List.reverseRecOn with
  | nil => rfl
  | append_singleton front atom ih =>
    have others := fun other member => sound other (List.mem_append_left [atom] member)
    have own : atom.Sound strict := sound atom (by simp)
    have apart : atom.isComment = false := plain atom (by simp)
    have rest' := ih others fun other member => plain other (List.mem_append_left [atom] member)
    rw [List.reverse_append, List.reverse_singleton, List.singleton_append, spelled_append]
    cases atom with
    | char c =>
      cases blank : Text.isBlank c with
      | true =>
        rw [List.dropWhile_cons_of_pos (by exact blank), ← rest']
        exact Text.trimRight_append_blanks (by simpa [spelled, Atom.text] using blank) _
      | false =>
        rw [List.dropWhile_cons_of_neg (by simp [isBlankAtom, blank]), List.reverse_cons,
          List.reverse_reverse, spelled_append]
        exact Text.trimRight_append_visible blank _ []
    | comment text => cases apart
    | literal text =>
      rw [List.dropWhile_cons_of_neg (by simp [isBlankAtom]), List.reverse_cons,
        List.reverse_reverse, spelled_append]
      refine Text.trimRight_eq_self fun c last => (literal_visible own).2 c ?_
      have same : spelled [Atom.literal text] = text := by simp [spelled, Atom.text]
      have some_ : text ≠ [] := own.ne_nil
      rwa [same, List.getLast?_append_of_ne_nil _ some_] at last

/-- Trimming drops blanks alone. -/
theorem filter_dropWhile (inLine : ∀ atom ∈ atoms, atom ≠ .char '\n') :
    (atoms.dropWhile isBlankAtom).filter Atom.isKept = atoms.filter Atom.isKept := by
  induction atoms with
  | nil => rfl
  | cons atom rest ih =>
    obtain ⟨own, others⟩ := List.forall_mem_cons.mp inLine
    cases blank : isBlankAtom atom with
    | false => rw [List.dropWhile_cons_of_neg (by simp [blank])]
    | true =>
      have dropped : atom.isKept = false := by
        cases atom with
        | char c =>
          have apart : c ≠ '\n' := fun same => own (congrArg Atom.char same)
          have is : Text.isBlank c = true := blank
          simp [Atom.isKept, isInlineBlank, apart, is]
        | comment text | literal text => cases blank
      rw [List.dropWhile_cons_of_pos blank, ih others, List.filter_cons_of_neg (by simp [dropped])]

theorem reads_trim {text : String} (reads : Reads strict text atoms)
    (inLine : ∀ atom ∈ atoms, atom ≠ .char '\n') :
    ∃ kept, Reads strict (Text.trim text) kept ∧
      kept.filter Atom.isKept = atoms.filter Atom.isKept := by
  have left := List.dropWhile_suffix (l := atoms) isBlankAtom
  have right := List.dropWhile_suffix (l := (atoms.dropWhile isBlankAtom).reverse) isBlankAtom
  have part := List.reverse_prefix.mpr right
  rw [List.reverse_reverse] at part
  have sound := fun atom member => reads.legible.sound atom (left.subset member)
  have plain := fun atom member => reads.plain atom (left.subset member)
  refine ⟨_, ⟨⟨fun atom member => sound atom (part.subset member),
    List.IsChain.prefix (reads.legible.apart.suffix left) part⟩, ?_,
    fun atom member => plain atom (part.subset member)⟩, ?_⟩
  · rw [Text.toList_trim, Text.trimChars, ← reads.spells, trimLeft_spelled reads.legible.sound
      reads.plain, trimRight_spelled sound plain]
  · rw [List.filter_reverse, filter_dropWhile, List.filter_reverse, List.reverse_reverse,
      filter_dropWhile inLine]
    exact fun atom member => inLine atom (left.subset (List.mem_reverse.mp member))

end Trimming

/-- The atoms of tokens on one line, without the comments. -/
def renderedAtoms (tokens : List Token) : List Atom :=
  (tokens.filter isRendered).flatMap fun token => token.kind.atoms

def renderedText (tokens : List Token) : String :=
  String.join ((tokens.filter isRendered).map fun token => plainText token.kind)

theorem renderedText_cons {token : Token} (is : isRendered token = true) (rest : List Token) :
    renderedText (token :: rest) = plainText token.kind ++ renderedText rest := by
  simp [renderedText, is]

theorem renderedText_cons_of_neg {token : Token} (is : isRendered token = false)
    (rest : List Token) : renderedText (token :: rest) = renderedText rest := by
  simp [renderedText, is]

theorem startsApart_literal {text : List Char} (literal : IsLiteral False text) :
    startsApart (String.ofList text) = true := by
  cases literal <;> simp [startsApart]

theorem endsApart_literal {text : List Char} (literal : IsLiteral False text) :
    endsApart (String.ofList text) = true := by
  cases literal <;>
    rw [endsApart, String.toList_ofList, ← List.cons_append, List.getLast?_concat] <;> decide

/-- Only signs can start so that they make a comment of a slash. -/
theorem startsApart_plainText {kind : Kind} (sound : kind.Sound) (meant : kind.isMeaningful = true)
    (other : ∀ text ∈ slashTails, kind ≠ .sign text) : startsApart (plainText kind) = true := by
  cases kind with
  | word text => exact (plain_word sound).2
  | number text => exact (plain_number sound).2
  | sign text =>
    exact (plain_sign text sound).2.resolve_left fun tail => other text tail rfl
  | quoted body quote => exact startsApart_literal (isLiteral_quote body)
  | template body => exact startsApart_literal (isLiteral_template False.elim)
  | regex pattern flags => exact startsApart_literal (isLiteral_regex pattern flags)
  | space text | newline | comment text => cases meant

/-- What is rendered behind a slash makes no comment of it. -/
theorem head?_renderedText {tokens : List Token} (sound : ∀ token ∈ tokens, token.kind.Sound)
    (next : ∀ token ∈ (meaningful tokens).head?, ∀ text ∈ slashTails, token.kind ≠ .sign text) :
    ∀ c ∈ (renderedText tokens).toList.head?, c ≠ '/' ∧ c ≠ '*' := by
  induction tokens with
  | nil => exact fun c member => by cases member
  | cons token rest ih =>
    obtain ⟨own, others⟩ := List.forall_mem_cons.mp sound
    by_cases meant : token.isMeaningful = true
    · have rendered : isRendered token = true := by
        unfold isRendered
        unfold Token.isMeaningful at meant
        cases kind : token.kind <;> rw [kind] at meant <;> first | rfl | cases meant
      rw [meaningful, List.filter_cons_of_pos meant] at next
      have starts := startsApart_append
        (startsApart_plainText own meant (next token rfl)) (renderedText rest)
      rw [renderedText_cons rendered]
      exact head?_of_startsApart starts
    · rw [meaningful, List.filter_cons_of_neg meant] at next
      cases kind : token.kind with
      | space text =>
        rw [kind] at own
        obtain ⟨c, more, same⟩ := List.exists_cons_of_ne_nil own.1
        have blank := inlineBlank_apart (own.2 c (by rw [same]; exact List.mem_cons_self))
        rw [renderedText_cons (by simp [isRendered, kind]), kind]
        intro d here
        obtain rfl : c = d := by simpa [plainText, same] using here
        exact ⟨blank.1, blank.2.1⟩
      | newline | comment text =>
        rw [renderedText_cons_of_neg (by simp [isRendered, kind])]
        exact ih others next
      | _ => simp [Token.isMeaningful, Kind.isMeaningful, kind] at meant

/-- Only the slash ends with a slash. -/
theorem endsApart_plainText {kind : Kind} (sound : kind.Sound) (other : kind ≠ .sign "/")
    (noComment : ∀ text, kind ≠ .comment text) : endsApart (plainText kind) = true := by
  cases kind with
  | word text => exact endsApart_of_isPlain (plain_word sound).1
  | number text => exact endsApart_of_isPlain (plain_number sound).1
  | sign text =>
    rcases (plain_sign text sound).1 with rfl | rfl | plain
    · exact absurd rfl other
    · decide
    · exact endsApart_of_isPlain plain
  | space text =>
    refine bne_iff_ne.mpr fun last => ?_
    exact (inlineBlank_apart (sound.2 '/' (List.mem_of_getLast? last))).1 rfl
  | quoted body quote => exact endsApart_literal (isLiteral_quote body)
  | template body => exact endsApart_literal (isLiteral_template False.elim)
  | regex pattern flags => exact endsApart_literal (isLiteral_regex pattern flags)
  | newline => decide
  | comment text => exact absurd rfl (noComment text)

theorem reads_renderedText {tokens : List Token} (sound : ∀ token ∈ tokens, token.kind.Sound)
    (orderly : strict → Orderly language tokens) :
    Reads strict (renderedText tokens) (renderedAtoms tokens) := by
  induction tokens with
  | nil => exact .of_isPlain (by decide)
  | cons token rest ih =>
    obtain ⟨own, others⟩ := List.forall_mem_cons.mp sound
    have inner := ih others fun strict_ => (orderly strict_).tail
    cases is : isRendered token with
    | false =>
      rw [renderedText_cons_of_neg is, renderedAtoms, List.filter_cons_of_neg (by simp [is])]
      exact inner
    | true =>
      rw [renderedText_cons is, renderedAtoms, List.filter_cons_of_pos is, List.flatMap_cons]
      have noComment : ∀ text, token.kind ≠ .comment text := by
        intro text kind
        simp [isRendered, kind] at is
      have free : strict → token.kind.TickFree language := fun strict_ =>
        (orderly strict_).ticks token List.mem_cons_self
      refine (reads_plainText own free noComment).append inner ?_
      by_cases slash : token.kind = .sign "/"
      · exact fun strict_ _ => head?_renderedText others ((orderly strict_).slashes.1 slash).2
      · exact .of_endsApart (endsApart_plainText own slash noComment) _

theorem inLine_renderedAtoms {tokens : List Token} (sound : ∀ token ∈ tokens, token.kind.Sound) :
    ∀ atom ∈ renderedAtoms tokens, atom ≠ .char '\n' := by
  rintro _ member rfl
  obtain ⟨token, inside, own⟩ := List.mem_flatMap.mp member
  obtain ⟨present, rendered⟩ := List.mem_filter.mp inside
  have kindSound := sound token present
  have outside {text : String} (free : '\n' ∉ text.toList) :
      Atom.char '\n' ∉ text.toList.map Atom.char := by
    intro here
    obtain ⟨c, there, same⟩ := List.mem_map.mp here
    cases same
    exact free there
  cases kind : token.kind with
  | word text =>
    rw [kind] at kindSound own
    exact outside (fun here => absurd (kindSound.2 _ here) (by decide)) own
  | number text =>
    rw [kind] at kindSound own
    obtain ⟨_, _, -, -, part⟩ := kindSound
    exact outside (fun here => absurd (part _ here) (by decide)) own
  | sign text =>
    rw [kind] at kindSound own
    exact outside (signs_neat text kindSound) own
  | space text =>
    rw [kind] at kindSound own
    exact outside (fun here => absurd (kindSound.2 _ here) (by decide)) own
  | newline | comment text => simp [isRendered, kind] at rendered
  | quoted body quote | template body | regex pattern flags =>
    rw [kind] at own
    simp [Kind.atoms] at own

/-- Nothing is kept of what is rendered of a gap. -/
theorem filter_renderedGap {tokens : List Token} (sound : ∀ token ∈ tokens, token.kind.Sound)
    (gaps : ∀ token ∈ tokens, token.kind.isGap = true) :
    (renderedAtoms tokens).filter Atom.isKept = [] := by
  refine List.filter_eq_nil_iff.mpr fun atom member => ?_
  obtain ⟨token, inside, own⟩ := List.mem_flatMap.mp member
  obtain ⟨present, rendered⟩ := List.mem_filter.mp inside
  have blank := gaps token present
  have kindSound := sound token present
  cases kind : token.kind with
  | space text =>
    rw [kind] at kindSound own
    obtain ⟨c, there, rfl⟩ := List.mem_map.mp own
    simp [Atom.isKept, kindSound.2 c there]
  | comment text => simp [isRendered, kind] at rendered
  | _ => simp [kind, Kind.isGap, Kind.isAside] at blank

theorem renderedAtoms_append (first second : List Token) :
    renderedAtoms (first ++ second) = renderedAtoms first ++ renderedAtoms second := by
  simp [renderedAtoms]

theorem filter_renderedAtoms {first second : List Token} (alike : Alike first second)
    (sound : ∀ token ∈ first, token.kind.Sound) (sound' : ∀ token ∈ second, token.kind.Sound) :
    (renderedAtoms first).filter Atom.isKept = (renderedAtoms second).filter Atom.isKept := by
  induction alike with
  | nil => rfl
  | @cons token first second solid alike ih =>
    have rest := ih (fun other member => sound other (List.mem_cons_of_mem _ member))
      fun other member => sound' other (List.mem_cons_of_mem _ member)
    rw [← List.singleton_append, ← List.singleton_append (l := second), renderedAtoms_append,
      renderedAtoms_append, List.filter_append, List.filter_append, rest]
  | @gap passed first second some_ gaps text line alike ih =>
    obtain ⟨inGap, behind⟩ := List.forall_mem_append.mp sound
    obtain ⟨inSpace, behind'⟩ := List.forall_mem_cons.mp sound'
    rw [← List.singleton_append (l := second), renderedAtoms_append, renderedAtoms_append,
      List.filter_append, List.filter_append, ih behind behind', filter_renderedGap inGap gaps,
      filter_renderedGap (List.forall_mem_singleton.mpr inSpace)
        (List.forall_mem_singleton.mpr rfl)]

/-- Texts that stand in the same place and read alike. -/
def Paired (strict : Prop) (first second : String) : Prop :=
  ∃ one two, Reads strict first one ∧ Reads strict second two ∧
    one.filter Atom.isKept = two.filter Atom.isKept

theorem Paired.refl {text : String} {atoms : List Atom} (reads : Reads strict text atoms) :
    Paired strict text text :=
  ⟨atoms, atoms, reads, reads, rfl⟩

theorem Paired.append {first second first' second' : String} (paired : Paired strict first second)
    (paired' : Paired strict first' second') (joins : Joins strict first first')
    (joins' : Joins strict second second') :
    Paired strict (first ++ first') (second ++ second') := by
  obtain ⟨one, two, reads, reads', same⟩ := paired
  obtain ⟨three, four, more, more', same'⟩ := paired'
  exact ⟨one ++ three, two ++ four, reads.append more joins, reads'.append more' joins',
    by rw [List.filter_append, List.filter_append, same, same']⟩

/-- What is rendered of tokens that are alike reads alike. -/
theorem paired_render {first second : List Token} (alike : Alike first second)
    (sound : ∀ token ∈ first, token.kind.Sound) (sound' : ∀ token ∈ second, token.kind.Sound)
    (orderly : strict → Orderly language first ∧ Orderly language second) :
    Paired strict (render first) (render second) := by
  obtain ⟨one, reads, kept⟩ := reads_trim (reads_renderedText sound fun strict_ => (orderly strict_).1)
    (inLine_renderedAtoms sound)
  obtain ⟨two, reads', kept'⟩ := reads_trim
    (reads_renderedText sound' fun strict_ => (orderly strict_).2) (inLine_renderedAtoms sound')
  exact ⟨one, two, reads, reads', by rw [kept, kept', filter_renderedAtoms alike sound sound']⟩

end Lowering
end ApiProbe.Script
