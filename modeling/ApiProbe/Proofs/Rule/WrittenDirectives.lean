import ApiProbe.Proofs.Text.Cutting
import ApiProbe.Proofs.Text.Trimming
import ApiProbe.Rule.Directive

/-!
Directives as they are written. A directive that fits on a line is read back from every line that holds
it, however its parts are spaced, and the directives of a text are those of its lines.
-/
namespace ApiProbe.Rule
open Text

/-! ### Names -/

theorem visible_of_isIdentifierPart {c : Char} (part : isIdentifierPart c = true) : isBlank c = false := by
  rw [isIdentifierPart, Bool.or_eq_true, beq_iff_eq] at part
  rcases part with sign | rfl
  · exact visible_of_isAlphanum sign
  · decide

theorem isIdentifierPart_of_isIdentifier {name : List Char} (named : isIdentifier name = true) :
    name ≠ [] ∧ ∀ c ∈ name, isIdentifierPart c = true := by
  cases name with
  | nil => cases named
  | cons first rest =>
    rw [isIdentifier, Bool.and_eq_true, List.all_eq_true] at named
    refine ⟨List.cons_ne_nil first rest, fun c member => ?_⟩
    rcases List.mem_cons.mp member with rfl | later
    · have start := named.1
      simp only [isIdentifierPart, Char.isAlphanum, Bool.or_eq_true] at start ⊢
      exact start.imp_left .inl
    · exact named.2 c later

/-! ### Lines -/

/-- What a comment starts with. -/
inductive CommentMark
  | hash | slashes
  deriving Repr, DecidableEq

def CommentMark.chars : CommentMark → List Char
  | .hash => ['#']
  | .slashes => ['/', '/']

/-- The blanks between the parts of a directive. Only those behind its `@capture` may not be missing. -/
structure Spacing where
  margin : List Char
  inner : List Char
  gap : List Char
  before : List Char
  behind : List Char
  ending : List Char
  blank : ∀ part ∈ [margin, inner, gap, before, behind, ending], ∀ c ∈ part, isBlank c = true
  apart : gap ≠ []

/-- One blank between any two parts. -/
def Spacing.single : Spacing := ⟨[], [' '], [' '], [' '], [' '], [], by simp [isBlank], List.cons_ne_nil _ _⟩

/-- A line that asks for a variable to be captured from a path. -/
def Spacing.line (spacing : Spacing) (mark : CommentMark) (name path : List Char) : List Char :=
  spacing.margin ++ (mark.chars ++ (spacing.inner ++ ("@capture".toList ++ (spacing.gap ++
    (name ++ (spacing.before ++ '=' :: (spacing.behind ++ (path ++ spacing.ending))))))))

theorem afterStart?_append (start rest : List Char) : afterStart? start (start ++ rest) = some rest := by
  rw [afterStart?, if_pos (List.isPrefixOf_iff_prefix.mpr (List.prefix_append start rest)), List.drop_left]

section Line
variable {name path : List Char}

/-- A comment is found behind its mark. -/
theorem afterComment?_line (spacing : Spacing) (mark : CommentMark) (rest : List Char) :
    afterComment? (trimLeft (spacing.margin ++ (mark.chars ++ rest))) = some rest := by
  have margin := spacing.blank spacing.margin (by simp)
  cases mark with
  | hash =>
    change afterComment? (trimLeft (spacing.margin ++ '#' :: rest)) = some rest
    rw [trimLeft_blanks margin (by decide)]
    rfl
  | slashes =>
    change afterComment? (trimLeft (spacing.margin ++ '/' :: '/' :: rest)) = some rest
    rw [trimLeft_blanks margin (by decide)]
    rfl

/-- The name of a directive ends in front of its sign, and its path is what stands behind the sign. -/
theorem assignment?_line (spacing : Spacing) (named : isIdentifier name = true) (some_ : trimChars path ≠ [])
    (oneLine : '\n' ∉ trimChars path) :
    assignment? (spacing.gap ++ (name ++ (spacing.before ++ '=' ::
      (spacing.behind ++ (path ++ spacing.ending))))) = some (name, trimChars path) := by
  obtain ⟨present, parts⟩ := isIdentifierPart_of_isIdentifier named
  let rest := spacing.before ++ '=' :: (spacing.behind ++ (path ++ spacing.ending))
  have start : trimLeft (spacing.gap ++ (name ++ rest)) = name ++ rest := by
    obtain ⟨c, tail, rfl⟩ := List.exists_cons_of_ne_nil present
    exact trimLeft_blanks (spacing.blank spacing.gap (by simp))
      (visible_of_isIdentifierPart (parts c List.mem_cons_self)) _
  have boundary : ∀ c, rest.head? = some c → isIdentifierPart c = false := by
    intro c first
    rw [List.head?_append] at first
    cases between : spacing.before.head? with
    | none =>
      rw [between] at first
      cases first
      decide
    | some d =>
      rw [between] at first
      cases first
      have blank := spacing.blank spacing.before (by simp) c (List.mem_of_head? between)
      by_contra part
      rw [Bool.not_eq_false] at part
      rw [visible_of_isIdentifierPart part] at blank
      cases blank
  have whole : (name ++ rest).takeWhile isIdentifierPart = name :=
    (span_of_boundary isIdentifierPart parts boundary).1
  have sign : trimLeft rest = '=' :: (spacing.behind ++ (path ++ spacing.ending)) :=
    trimLeft_blanks (spacing.blank spacing.before (by simp)) (by decide) _
  have trimmed : trimChars (spacing.behind ++ (path ++ spacing.ending)) = trimChars path := by
    have behind := trimLeft_eq_nil.mpr (spacing.blank spacing.behind (by simp))
    rw [← List.append_assoc, trimChars_append_blanks (spacing.blank spacing.ending (by simp)), trimChars,
      trimLeft_append_of_nil behind, ← trimChars]
  change assignment? (spacing.gap ++ (name ++ rest)) = _
  simp [assignment?, start, whole, named, spacing.apart, sign, trimmed, some_, oneLine]

/-- A line is read for its name and for what its path, without outer blanks, is taken for. -/
theorem directive?_line (spacing : Spacing) (mark : CommentMark) {method : Method} {pattern : List Char}
    (named : isIdentifier name = true) (oneLine : '\n' ∉ trimChars path)
    (sought : classify (trimChars path) = (method, pattern)) (some_ : pattern ≠ []) :
    directive? (spacing.line mark name path) =
      some ⟨String.ofList name, method, String.ofList pattern⟩ := by
  have present : trimChars path ≠ [] := by
    intro nothing
    rw [nothing] at sought
    exact some_ (congrArg Prod.snd sought).symm
  have word (rest : List Char) :
      afterStart? "@capture".toList (trimLeft (spacing.inner ++ ("@capture".toList ++ rest))) = some rest := by
    have start : trimLeft (spacing.inner ++ ("@capture".toList ++ rest)) = "@capture".toList ++ rest :=
      trimLeft_blanks (spacing.blank spacing.inner (by simp)) (by decide) _
    rw [start, afterStart?_append]
  have kept : pattern.isEmpty = false := by simpa using some_
  simp only [directive?, Spacing.line, afterComment?_line, word, assignment?_line spacing named present oneLine,
    Option.bind_eq_bind, Option.bind_some, sought, kept]
  rfl

end Line

/-! ### Patterns -/

/-- What stands in front of the pattern of a method. -/
def Method.lead : Method → List Char
  | .header => "headers.".toList
  | .regex => "regex:".toList
  | .jsonPath | .xmlPath => []

/-- What the pattern of a method has to start with. -/
def Method.sign? : Method → Option Char
  | .jsonPath => some '$'
  | .xmlPath => some '/'
  | .header | .regex => none

/-- A pattern that stands for itself behind the lead of its method. -/
structure Method.Fits (method : Method) (pattern : List Char) : Prop where
  some_ : pattern ≠ []
  trimmed : trimChars pattern = pattern
  signed : ∀ c, method.sign? = some c → pattern.head? = some c

theorem Method.Fits.trimChars_lead {method : Method} {pattern : List Char} (fits : method.Fits pattern) :
    trimChars (method.lead ++ pattern) = method.lead ++ pattern := by
  have last : ∀ c, (method.lead ++ pattern).getLast? = some c → isBlank c = false := by
    intro c last
    rw [List.getLast?_append_of_ne_nil _ fits.some_, ← fits.trimmed] at last
    exact visible_of_trimRight last
  cases method with
  | header | regex => exact trimChars_eq_self (by rintro _ ⟨⟩; decide) last
  | jsonPath | xmlPath => exact fits.trimmed

section Form
variable {path rest : List Char}

theorem classify_header (found : afterStart? "headers.".toList (trimChars path) = some rest) :
    classify path = (.header, trimChars rest) := by
  rw [classify, found]

theorem classify_regex (noHeader : afterStart? "headers.".toList (trimChars path) = none)
    (found : afterStart? "regex:".toList (trimChars path) = some rest) :
    classify path = (.regex, trimChars rest) := by
  rw [classify, noHeader, found]

end Form

/-- The method of a path is told by its lead or its sign, and the pattern is what stands behind the lead. -/
theorem classify_lead {method : Method} {pattern : List Char} (fits : method.Fits pattern) :
    classify (method.lead ++ pattern) = (method, pattern) := by
  have whole := fits.trimChars_lead
  cases method with
  | header =>
    have found : afterStart? "headers.".toList (trimChars (Method.header.lead ++ pattern)) = some pattern := by
      rw [whole]
      exact afterStart?_append "headers.".toList pattern
    rw [classify_header found, fits.trimmed]
  | regex =>
    have found : afterStart? "regex:".toList (trimChars (Method.regex.lead ++ pattern)) = some pattern := by
      rw [whole]
      exact afterStart?_append "regex:".toList pattern
    have noHeader : afterStart? "headers.".toList (trimChars (Method.regex.lead ++ pattern)) = none := by
      rw [whole]
      rfl
    rw [classify_regex noHeader found, fits.trimmed]
  | jsonPath =>
    obtain ⟨rest, rfl⟩ := List.head?_eq_some_iff.mp (fits.signed '$' rfl)
    have noHeader : afterStart? "headers.".toList ('$' :: rest) = none := rfl
    have noRegex : afterStart? "regex:".toList ('$' :: rest) = none := rfl
    change classify ('$' :: rest) = _
    rw [classify, fits.trimmed, noHeader, noRegex]
    rfl
  | xmlPath =>
    obtain ⟨rest, rfl⟩ := List.head?_eq_some_iff.mp (fits.signed '/' rfl)
    have noHeader : afterStart? "headers.".toList ('/' :: rest) = none := rfl
    have noRegex : afterStart? "regex:".toList ('/' :: rest) = none := rfl
    change classify ('/' :: rest) = _
    rw [classify, fits.trimmed, noHeader, noRegex]
    simp

/-- A directive that can be written on a line. -/
structure Directive.Writable (directive : Directive) : Prop where
  named : isIdentifier directive.variable_.toList = true
  fits : directive.method.Fits directive.pattern.toList
  oneLine : '\n' ∉ directive.pattern.toList

def Directive.written (directive : Directive) (spacing : Spacing) (mark : CommentMark) : List Char :=
  spacing.line mark directive.variable_.toList (directive.method.lead ++ directive.pattern.toList)

theorem Directive.Writable.directive?_written {directive : Directive} (writable : directive.Writable)
    (spacing : Spacing) (mark : CommentMark) :
    directive? (directive.written spacing mark) = some directive := by
  have whole := writable.fits.trimChars_lead
  have oneLine : '\n' ∉ trimChars (directive.method.lead ++ directive.pattern.toList) := by
    rw [whole, List.mem_append, not_or]
    refine ⟨?_, writable.oneLine⟩
    cases directive.method <;> decide
  have sought : classify (trimChars (directive.method.lead ++ directive.pattern.toList)) =
      (directive.method, directive.pattern.toList) := by
    rw [whole, classify_lead writable.fits]
  rw [Directive.written, directive?_line spacing mark writable.named oneLine sought writable.fits.some_,
    String.ofList_toList, String.ofList_toList]

/-! ### Texts -/

/-- The directives of a text are those of its lines, in their order. -/
theorem directives_eq {text : String} {lines : List (List Char)} (cut : LinesOf text.toList lines) :
    directives text = lines.filterMap directive? := by
  rw [directives, cut.eq_lines]

/-- Every directive that can be written on a line is read back from it, whatever its mark and its spacing;
and the directives of a text, whose lines are well defined, are those of its lines in order. -/
theorem directives_read_back :
    (∀ (directive : Directive) (spacing : Spacing) (mark : CommentMark), directive.Writable →
      directive? (directive.written spacing mark) = some directive) ∧
    ∀ text : String, (∃ lines, LinesOf text.toList lines) ∧
      ∀ lines, LinesOf text.toList lines → directives text = lines.filterMap directive? :=
  ⟨fun _ spacing mark writable => writable.directive?_written spacing mark,
    fun text => ⟨⟨lines text.toList, linesOf_lines text.toList⟩, fun _ => directives_eq⟩⟩

/-- A pattern may hold signs, comment marks and brackets, and the parts of a line may stand close together. -/
theorem directives_read_back_order :
    let directive : Directive := ⟨"order", .regex, "a = #@capture [b]"⟩
    let line := "\t//@capture  order= regex:a = #@capture [b] ".toList
    let text := String.ofList ("# note".toList ++ '\r' :: '\n' :: line)
    directive.Writable ∧ directive? line = some directive ∧ LinesOf text.toList ["# note".toList, line] ∧
      directives text = [directive] := by
  intro directive line text
  let spacing : Spacing := ⟨['\t'], [], [' ', ' '], [], [' '], [' '], by simp [isBlank], List.cons_ne_nil _ _⟩
  have writable : directive.Writable := ⟨by decide, ⟨by decide, by decide, nofun⟩, by decide⟩
  have shape : directive.written spacing .slashes = line := by decide +kernel
  have read : directive? line = some directive := by
    rw [← shape]
    exact directives_read_back.1 directive spacing .slashes writable
  have cut : LinesOf text.toList ["# note".toList, line] := by
    rw [String.toList_ofList]
    exact .returnFeed (by decide) (.unended (by decide) (by decide))
  have note : directive? "# note".toList = none := by decide +kernel
  refine ⟨writable, read, cut, ?_⟩
  rw [(directives_read_back.2 text).2 _ cut, List.filterMap_cons_none note, List.filterMap_cons_some read,
    List.filterMap_nil]

end ApiProbe.Rule
