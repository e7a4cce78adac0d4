import ApiProbe.Proofs.Script.Uncommented
import ApiProbe.Proofs.Script.WrittenBreaks
import Mathlib.Data.List.Chain

/-!
How lowered scripts read. A text of the plain language is made of characters, comments and literals.
Two texts read alike if they are the same once the comments and the blanks outside literals are
dropped.
-/
namespace ApiProbe.Script

/-- A part of a text of the plain language. -/
inductive Atom
  | char (c : Char)
  | comment (text : List Char)
  | literal (text : List Char)

/-- True of what may stand between double quotes: a quote and a backslash stand behind a backslash
only. -/
def isClosed : List Char → Bool
  | [] => true
  | '\\' :: _ :: rest => isClosed rest
  | c :: rest => c != '\\' && c != '"' && isClosed rest

/-- A literal stands between double quotes or between back ticks. Where it is `strict`, no back tick
stands in it. -/
inductive IsLiteral (strict : Prop) : List Char → Prop
  | string {body : List Char} (closed : isClosed body = true) :
    IsLiteral strict ('"' :: (body ++ ['"']))
  | template {body : List Char} (free : strict → Char.ofNat 96 ∉ body) :
    IsLiteral strict (Char.ofNat 96 :: (body ++ [Char.ofNat 96]))

theorem IsLiteral.weaken {strict : Prop} {text : List Char} (literal : IsLiteral strict text) :
    IsLiteral False text := by
  cases literal with
  | string closed => exact .string closed
  | template => exact .template False.elim

namespace Atom

def text : Atom → List Char
  | .char c => [c]
  | .comment text | .literal text => text

/-- Comments are dropped, and blanks that end no line. -/
def isKept : Atom → Bool
  | .char c => !isInlineBlank c
  | .comment _ => false
  | .literal _ => true

def isComment : Atom → Bool
  | .comment _ => true
  | _ => false

/-- What stands outside comments and literals starts none. -/
def Sound (strict : Prop) : Atom → Prop
  | .char c => c ≠ '"' ∧ c ≠ Char.ofNat 96
  | .comment text => IsComment text
  | .literal text => IsLiteral strict text

end Atom

/-- Atoms that can stand side by side: a comment up to the end of its line has that end behind it, and
a slash does not start a comment with what follows, where it is `strict`. -/
structure Apart (strict : Prop) (first second : Atom) : Prop where
  line : first.isComment = true → isLineMark first.text = true → second.text.head? = some '\n'
  slash : strict → first = .char '/' → ∀ c ∈ second.text.head?, c ≠ '/' ∧ c ≠ '*'

/-- Atoms as which their text can be read. -/
structure Legible (strict : Prop) (atoms : List Atom) : Prop where
  sound : ∀ atom ∈ atoms, atom.Sound strict
  apart : atoms.IsChain (Apart strict)

def spelled (atoms : List Atom) : List Char := atoms.flatMap Atom.text

@[simp] theorem spelled_append (first second : List Atom) :
    spelled (first ++ second) = spelled first ++ spelled second :=
  List.flatMap_append

/-- The texts are the same once comments are dropped and, outside literals, blanks that end no
line. -/
def SameReading (strict : Prop) (a b : String) : Prop :=
  ∃ first second, Legible strict first ∧ Legible strict second ∧
    spelled first = a.toList ∧ spelled second = b.toList ∧
    first.filter Atom.isKept = second.filter Atom.isKept

namespace Atom
variable {strict : Prop} {atom : Atom} {atoms : List Atom}

theorem Sound.ne_nil (sound : atom.Sound strict) : atom.text ≠ [] := by
  cases atom with
  | char c => simp [text]
  | comment text => cases sound <;> simp [Atom.text]
  | literal text => cases sound <;> simp [Atom.text]

/-- The first character of a text is that of its first atom. -/
theorem head?_spelled (sound : ∀ other ∈ atoms, other.Sound strict)
    (first : atoms.head? = some atom) :
    (spelled atoms).head? = atom.text.head? := by
  obtain ⟨rest, rfl⟩ := List.head?_eq_some_iff.mp first
  have some_ := (sound atom List.mem_cons_self).ne_nil
  obtain ⟨c, more, same⟩ := List.exists_cons_of_ne_nil some_
  simp [spelled, same]

theorem getLast?_spelled {c : Char} (last : atoms.getLast? = some (.char c)) :
    (spelled atoms).getLast? = some c := by
  obtain ⟨front, rfl⟩ := List.getLast?_eq_some_iff.mp last
  simp [spelled, text]

end Atom

/-- True of texts that start with a character, which starts no comment behind a slash. -/
def startsApart (text : String) : Bool :=
  match text.toList.head? with
  | some c => c != '/' && c != '*'
  | none => false

/-- True of texts that do not end with a slash. -/
def endsApart (text : String) : Bool := text.toList.getLast? != some '/'

theorem head?_of_startsApart {text : String} (starts : startsApart text = true) :
    ∀ c ∈ text.toList.head?, c ≠ '/' ∧ c ≠ '*' := by
  intro c here
  simpa [startsApart, Option.mem_def.mp here] using starts

theorem startsApart_append {first : String} (starts : startsApart first = true) (second : String) :
    startsApart (first ++ second) = true := by
  unfold startsApart at *
  rw [String.toList_append]
  cases text : first.toList with
  | nil =>
    rw [text] at starts
    cases starts
  | cons c rest =>
    rw [text] at starts
    exact starts

/-- A slash at the end of a text starts no comment with another one behind it. -/
def Joins (strict : Prop) (first second : String) : Prop :=
  strict → first.toList.getLast? = some '/' → ∀ c ∈ second.toList.head?, c ≠ '/' ∧ c ≠ '*'

theorem Joins.of_endsApart {strict : Prop} {first : String} (ends : endsApart first = true)
    (second : String) : Joins strict first second := by
  intro _ last
  simp [endsApart, last] at ends

theorem Joins.of_startsApart {strict : Prop} {second : String} (first : String)
    (starts : startsApart second = true) : Joins strict first second := by
  exact fun _ _ => head?_of_startsApart starts

/-- A text as atoms, with no comment among them. -/
structure Reads (strict : Prop) (text : String) (atoms : List Atom) : Prop where
  legible : Legible strict atoms
  spells : spelled atoms = text.toList
  plain : ∀ atom ∈ atoms, atom.isComment = false

namespace Reads
variable {strict : Prop} {text first second : String} {atoms one two : List Atom}

theorem append (reads : Reads strict first one) (reads' : Reads strict second two)
    (joins : Joins strict first second) : Reads strict (first ++ second) (one ++ two) where
  legible := by
    refine ⟨List.forall_mem_append.mpr ⟨reads.legible.sound, reads'.legible.sound⟩,
      List.isChain_append.mpr ⟨reads.legible.apart, reads'.legible.apart,
        fun x last y next => ⟨?_, ?_⟩⟩⟩
    · have plain := reads.plain x (List.mem_of_getLast? last)
      intro is
      rw [plain] at is
      cases is
    · rintro strict_ rfl c here
      have ends : first.toList.getLast? = some '/' := by
        rw [← reads.spells, Atom.getLast?_spelled last]
      refine joins strict_ ends c ?_
      rw [← reads'.spells, Atom.head?_spelled reads'.legible.sound next]
      exact here
  spells := by rw [spelled_append, reads.spells, reads'.spells, String.toList_append]
  plain := List.forall_mem_append.mpr ⟨reads.plain, reads'.plain⟩

end Reads

/-- Characters that stand for themselves: they start no literal and no comment. -/
def isPlainChar (c : Char) : Bool := c != '"' && c.toNat != 96 && c != '/' && c != '\\'

/-- A text of such characters. -/
def isPlain (text : String) : Bool := text.toList.all isPlainChar

theorem ne_mark_of_isPlainChar {c : Char} (plain : isPlainChar c = true) :
    c ≠ '"' ∧ c ≠ Char.ofNat 96 := by
  simp only [isPlainChar, Bool.and_eq_true, bne_iff_ne] at plain
  refine ⟨plain.1.1.1, ?_⟩
  rintro rfl
  exact plain.1.1.2 rfl

/-- Characters that are no slashes are apart from all that follows. -/
theorem isChain_chars {strict : Prop} {chars : List Char} (noSlash : '/' ∉ chars) :
    (chars.map Atom.char).IsChain (Apart strict) := by
  induction chars with
  | nil => exact .nil
  | cons c rest ih =>
    have others := ih fun member => noSlash (List.mem_cons_of_mem _ member)
    cases rest with
    | nil => exact .singleton _
    | cons d rest =>
      refine List.isChain_cons_cons.mpr ⟨⟨(fun is => by cases is), ?_⟩, others⟩
      rintro - ⟨⟩
      exact absurd List.mem_cons_self noSlash

theorem spelled_chars (chars : List Char) : spelled (chars.map Atom.char) = chars := by
  induction chars with
  | nil => rfl
  | cons c rest ih => exact congrArg (c :: ·) ih

/-- A text that starts no literal, read by its characters. -/
theorem Reads.of_chars {strict : Prop} {text : String}
    (each : ∀ c ∈ text.toList, c ≠ '"' ∧ c ≠ Char.ofNat 96)
    (apart : (text.toList.map Atom.char).IsChain (Apart strict)) :
    Reads strict text (text.toList.map Atom.char) := by
  refine ⟨⟨?_, apart⟩, spelled_chars _, ?_⟩ <;> intro atom member <;>
    obtain ⟨c, inside, rfl⟩ := List.mem_map.mp member
  · exact each c inside
  · rfl

theorem Reads.of_isPlain {strict : Prop} {text : String} (plain : isPlain text = true) :
    Reads strict text (text.toList.map Atom.char) := by
  have each : ∀ c ∈ text.toList, isPlainChar c = true := List.all_eq_true.mp plain
  exact .of_chars (fun c member => ne_mark_of_isPlainChar (each c member))
    (isChain_chars fun member => absurd (each '/' member) (by decide))

theorem Reads.of_literal {strict : Prop} {text : String} (literal : IsLiteral strict text.toList) :
    Reads strict text [.literal text.toList] := by
  refine ⟨⟨?_, .singleton _⟩, by simp [spelled, Atom.text], ?_⟩
  · intro atom member
    rw [List.mem_singleton.mp member]
    exact literal
  · intro atom member
    rw [List.mem_singleton.mp member]
    rfl

section Literals
variable {strict : Prop} {first second : List Char}

theorem isClosed_cons {c : Char} (plain : c ≠ '\\') (rest : List Char) :
    isClosed (c :: rest) = (c != '"' && isClosed rest) := by
  rw [isClosed]
  · rw [bne_iff_ne.mpr plain, Bool.true_and]
  · exact fun _ _ escape => absurd escape plain

theorem isClosed_append (one : isClosed first = true) (two : isClosed second = true) :
    isClosed (first ++ second) = true := by
  fun_induction isClosed first with
  | case1 => exact two
  | case2 c rest ih =>
    rw [List.cons_append, List.cons_append, isClosed]
    exact ih one
  | case3 c rest _ ih =>
    simp only [Bool.and_eq_true, bne_iff_ne] at one
    rw [List.cons_append, isClosed_cons one.1.1, bne_iff_ne.mpr one.1.2, Bool.true_and]
    exact ih one.2

theorem isClosed_of_plain {chars : List Char} (plain : ∀ c ∈ chars, isPlainChar c = true) :
    isClosed chars = true := by
  induction chars with
  | nil => rfl
  | cons c rest ih =>
    obtain ⟨own, others⟩ := List.forall_mem_cons.mp plain
    simp only [isPlainChar, Bool.and_eq_true, bne_iff_ne] at own
    rw [isClosed_cons own.2, ih others, bne_iff_ne.mpr own.1.1.1]
    rfl

/-- Whatever a string holds, it is closed once it is put between double quotes. -/
theorem isClosed_requote (body : List Char) : isClosed (Literal.requote body) = true := by
  fun_induction Literal.requote body with
  | case1 => rfl
  | case2 => rfl
  | case3 c rest dropped ih =>
    have plain : c ≠ '\\' ∧ c ≠ '"' := by
      constructor <;> rintro rfl <;> exact absurd dropped (by decide)
    rw [isClosed_cons plain.1, ih, bne_iff_ne.mpr plain.2]
    rfl
  | case4 c rest _ ih => rwa [isClosed]
  | case5 c rest _ _ _ ih => rwa [isClosed]
  | case6 c rest lone escape mark ih =>
    have plain : c ≠ '\\' := by
      rintro rfl
      cases rest with
      | nil => exact lone rfl rfl
      | cons d more => exact escape d more rfl rfl
    rw [isClosed_cons plain, ih, bne_iff_ne.mpr (by simpa using mark)]
    rfl

theorem isClosed_patternBody (pattern : List Char) :
    isClosed (Literal.patternBody pattern) = true := by
  fun_induction Literal.patternBody pattern with
  | case1 => rfl
  | case2 rest ih =>
    rw [isClosed_cons (by decide), ih]
    rfl
  | case3 c rest _ _ ih => rwa [isClosed]
  | case4 c rest _ _ _ ih => rwa [isClosed]
  | case5 c rest _ escape mark ih =>
    rw [isClosed_cons (by simpa using escape), ih, bne_iff_ne.mpr (by simpa using mark)]
    rfl

theorem isLiteral_quote (body : List Char) : IsLiteral strict (Literal.quote body) := by
  have literal : IsLiteral strict ('"' :: (Literal.requote body ++ ['"'])) :=
    .string (isClosed_requote body)
  simpa [Literal.quote] using literal

theorem isLiteral_template {body : List Char} (free : strict → Char.ofNat 96 ∉ body) :
    IsLiteral strict (Literal.template body) :=
  .template free

theorem isLiteral_withDollars {body : List Char}
    (free : strict → Literal.interpolates body = true → Char.ofNat 96 ∉ Literal.interpolated body) :
    IsLiteral strict (Literal.withDollars body) := by
  unfold Literal.withDollars
  split
  · rename_i dollars
    exact isLiteral_template fun strict_ => free strict_ dollars
  · exact isLiteral_quote body

theorem isLiteral_regex (pattern flags : List Char) :
    IsLiteral strict (Literal.regex pattern flags) := by
  have start : isClosed (Literal.patternPrefix flags) = true := by
    refine isClosed_of_plain fun c member => ?_
    have letter : ∀ c ∈ flags.filter Literal.isPatternFlag, isPlainChar c = true := by
      intro c inside
      have flag := (List.mem_filter.mp inside).2
      simp only [Literal.isPatternFlag, Bool.or_eq_true, beq_iff_eq] at flag
      rcases flag with (rfl | rfl) | rfl <;> decide
    simp only [Literal.patternPrefix] at member
    split at member
    · cases member
    · simp only [List.cons_append, List.nil_append, List.mem_cons, List.mem_append,
        List.not_mem_nil, or_false] at member
      rcases member with rfl | rfl | inside | rfl
      · decide
      · decide
      · exact letter c inside
      · decide
  have literal : IsLiteral strict
      ('"' :: (Literal.patternPrefix flags ++ Literal.patternBody pattern ++ ['"'])) :=
    .string (isClosed_append start (isClosed_patternBody pattern))
  simpa [Literal.regex] using literal

end Literals

def isNumberPart (c : Char) : Bool := c.isAlphanum || c == '_' || c == '.' || c == '+' || c == '-'

/-- What is known of the text of a token. -/
def Kind.Sound : Kind → Prop
  | .word text => text.toList ≠ [] ∧ ∀ c ∈ text.toList, isWordPart c = true
  | .number text => ∃ c rest, text.toList = c :: rest ∧ c.isDigit = true ∧
      ∀ d ∈ text.toList, isNumberPart d = true
  | .sign text => text ∈ signs
  | .space text => text.toList ≠ [] ∧ ∀ c ∈ text.toList, isInlineBlank c = true
  | .comment text => IsComment text.toList
  | .quoted .. | .template _ | .regex .. | .newline => True

/-- A comment up to the end of its line has that end behind it. -/
def Ended : List Token → Prop
  | [] => True
  | token :: rest =>
    (∀ text, token.kind = .comment text → isLineMark text.toList = true →
      ∀ next, rest.head? = some next → next.kind = .newline) ∧ Ended rest

theorem Ended.right {front back : List Token} (ended : Ended (front ++ back)) : Ended back := by
  induction front with
  | nil => exact ended
  | cons token rest ih => exact ih ended.2

theorem Ended.drop {tokens : List Token} (ended : Ended tokens) (n : Nat) :
    Ended (tokens.drop n) := by
  rw [← List.take_append_drop n tokens] at ended
  exact ended.right

theorem isNumberPart_numberRest {taken chars : List Char}
    (part : ∀ d ∈ taken, isNumberPart d = true) :
    ∀ d ∈ (numberRest taken chars).1, isNumberPart d = true := by
  fun_induction numberRest taken chars with
  | case1 => simpa using part
  | case2 taken d rest afterMark exponentSign point goesOn ih =>
    refine ih (List.forall_mem_cons.mpr ⟨?_, part⟩)
    simp only [Bool.or_eq_true] at goesOn
    simp only [isNumberPart, Bool.or_eq_true]
    rcases goesOn with ((one | two) | three) | four
    · exact .inl (.inl (.inl (.inl one)))
    · exact .inl (.inl (.inl (.inr two)))
    · simp only [point, Bool.and_eq_true] at three
      exact .inl (.inl (.inr three.1))
    · simp only [exponentSign, Bool.and_eq_true, Bool.or_eq_true] at four
      rcases four.1.1 with plus | minus
      · exact .inl (.inr plus)
      · exact .inr minus
  | case3 => simpa using part

theorem isWordPart_of_isWordStart {c : Char} (start : isWordStart c = true) :
    isWordPart c = true := by
  simp only [isWordStart, isWordPart, Text.isAlphanumeric, Bool.or_eq_true] at start ⊢
  tauto

theorem cut_sound {last : Option Kind} {c : Char} {rest : List Char} {piece : Cut}
    (found : cut last c rest = .ok piece) : ∀ kind ∈ piece.kind, kind.Sound := by
  intro kind is
  obtain ⟨front, same, spells⟩ := cut_spells found
  generalize given : piece.kind = read at spells
  obtain rfl : read = some kind := given.symm.trans is
  cases kind with
  | word text =>
    cases spells
    rename_i d more start part
    simp only [Kind.Sound, String.toList_ofList, ne_eq, reduceCtorEq, not_false_eq_true, true_and]
    exact List.forall_mem_cons.mpr ⟨isWordPart_of_isWordStart start, part⟩
  | number text =>
    cases spells
    rename_i d more digit
    obtain ⟨others, starts⟩ := numberRest_prefix [d] more
    refine ⟨d, others, by rw [String.toList_ofList, ← starts]; rfl, digit, ?_⟩
    rw [String.toList_ofList]
    refine isNumberPart_numberRest fun e member => ?_
    rw [List.mem_singleton.mp member]
    simp [isNumberPart, Char.isAlphanum, digit]
  | sign text =>
    cases spells
    assumption
  | space text =>
    cases spells
    rename_i some_ blank
    obtain ⟨d, more, rfl⟩ := List.exists_cons_of_ne_nil some_
    obtain ⟨rfl, -⟩ := List.cons.inj same
    have noReturn : c ≠ '\r' := by
      rintro rfl
      obtain rfl : ⟨none, rest, 0⟩ = piece := Except.ok.inj found
      cases given
    rw [Kind.Sound, withoutReturns, String.toList_ofList]
    refine ⟨List.ne_nil_of_mem (List.mem_filter.mpr ⟨List.mem_cons_self, by simpa using noReturn⟩),
      fun e member => blank e (List.mem_filter.mp member).1⟩
  | comment text => exact (cut_comment found is).2.1
  | _ => trivial

/-- What is known of the tokens of a script. -/
theorem tokensFrom_sound {line : Nat} {last : Option Kind} {chars : List Char} {found : List Token}
    (read : tokensFrom line last chars = .ok found) :
    (∀ token ∈ found, token.kind.Sound) ∧ Ended found := by
  fun_induction tokensFrom line last chars generalizing found with
  | case1 =>
    cases read
    exact ⟨(fun _ member => by cases member), trivial⟩
  | case2 => cases read
  | case3 line last c rest piece cutOff none_ ih => exact ih read
  | case4 line last c rest piece cutOff kind some_ next =>
    rename_i ih
    cases inner : tokensFrom (line + piece.breaks) next piece.rest with
    | error error =>
      rw [inner] at read
      cases read
    | ok more =>
      rw [inner] at read
      cases read
      obtain ⟨sound, ended⟩ := ih inner
      refine ⟨List.forall_mem_cons.mpr ⟨cut_sound cutOff kind some_, sound⟩, ?_, ended⟩
      rintro text rfl mark token first
      have lineEnd := (cut_comment cutOff some_).2.2 mark
      cases text' : piece.rest with
      | nil =>
        rw [text', tokensFrom] at inner
        cases inner
        cases first
      | cons d others =>
        obtain rfl : d = '\n' := lineEnd d (by rw [text']; rfl)
        have newline : cut next '\n' others = .ok ⟨some .newline, others, 1⟩ := rfl
        rw [text', tokensFrom_of_ok newline] at inner
        revert inner
        cases tokensFrom (line + piece.breaks + 1) (behind next (some .newline)) others with
        | error error => exact fun inner => by cases inner
        | ok later =>
          rintro ⟨⟩
          cases first
          rfl

theorem tokens_sound {script : String} {found : List Token} (read : tokens script = .ok found) :
    (∀ token ∈ found, token.kind.Sound) ∧ Ended found :=
  tokensFrom_sound read

end ApiProbe.Script
