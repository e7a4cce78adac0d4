import ApiProbe.Plain.Token
import ApiProbe.Proofs.Script.Requoting
import ApiProbe.Proofs.Script.SourceLines

/-!
Regular expressions put between double quotes. Undoing the escapes of the literal gives the flags that
the pattern can carry and the pattern without the backslashes in front of its slashes. A backslash that
another one escapes is taken for one that escapes the slash behind it, so a pattern is kept exactly if
it has no such place.
-/
namespace ApiProbe.Script
open Literal
variable {c : Char} {text rest pattern after : List Char}

/-- A text as it is written between double quotes. -/
def escaped (text : List Char) : List Char :=
  text.flatMap fun c => if c == '\\' || c == '"' then ['\\', c] else [c]

/-- Escapes undone: of every pair of a backslash and a character the character stays. -/
def unescaped : List Char → List Char
  | [] => []
  | '\\' :: c :: rest => c :: unescaped rest
  | c :: rest => c :: unescaped rest

/-- A pattern with its escapes of the slash undone. Escapes are pairs, read from left to right. -/
def slashesFreed : List Char → List Char
  | [] => []
  | '\\' :: c :: rest => if c == '/' then '/' :: slashesFreed rest else '\\' :: c :: slashesFreed rest
  | c :: rest => c :: slashesFreed rest

/-- A pattern without the backslashes that stand in front of a slash, whatever is in front of them. -/
def slashesBared : List Char → List Char
  | [] => []
  | '\\' :: '/' :: rest => '/' :: slashesBared rest
  | c :: rest => c :: slashesBared rest

/-- Patterns in which a slash stands behind an escaped backslash. -/
inductive SlashBehindEscape : List Char → Prop
  | here (rest : List Char) : SlashBehindEscape ('\\' :: '\\' :: '/' :: rest)
  | escape (c : Char) {rest : List Char} (behind : SlashBehindEscape rest) :
    SlashBehindEscape ('\\' :: c :: rest)
  | plain {c : Char} {rest : List Char} (noEscape : c ≠ '\\') (behind : SlashBehindEscape rest) :
    SlashBehindEscape (c :: rest)

section Escaping

theorem escaped_cons (c : Char) (rest : List Char) :
    escaped (c :: rest) = if c = '\\' ∨ c = '"' then '\\' :: c :: escaped rest else c :: escaped rest := by
  simp only [escaped, List.flatMap_cons, Bool.or_eq_true, beq_iff_eq]
  split <;> rfl

theorem escaped_append (front back : List Char) : escaped (front ++ back) = escaped front ++ escaped back :=
  List.flatMap_append

theorem unescaped_plain (noEscape : c ≠ '\\') (rest : List Char) :
    unescaped (c :: rest) = c :: unescaped rest := by
  rw [unescaped]
  exact fun _ _ escape => absurd escape noEscape

theorem unescaped_escaped (text : List Char) : unescaped (escaped text) = text := by
  induction text with
  | nil => rfl
  | cons c rest ih =>
    rw [escaped_cons]
    split
    · rw [unescaped, ih]
    · rename_i unmarked
      rw [unescaped_plain fun escape => unmarked (.inl escape), ih]

section Reader
open Plain
variable {start column : Nat}

theorem stringBody_escape (mark : c = '\\' ∨ c = '"') (done rest : List Char) :
    stringBody '"' start column 0 done ('\\' :: c :: rest) =
      stringBody '"' start (column + 2) 0 (c :: done) rest := by
  rcases mark with rfl | rfl <;> simp [stringBody, escapeDigits?, escapedChar?]

theorem stringBody_plain {next : Char} (unmarked : ¬(c = '\\' ∨ c = '"')) (inLine : c ≠ '\n')
    (done rest : List Char) :
    stringBody '"' start column 0 done (c :: next :: rest) =
      stringBody '"' start (column + 1) 0 (c :: done) (next :: rest) := by
  obtain ⟨noEscape, open_⟩ := not_or.mp unmarked
  rw [stringBody, if_neg (by simpa using open_), if_neg (by simp)]
  · exact inLine
  · exact fun escape _ => noEscape escape
  · exact noEscape

/-- The reader of texts in double quotes reads what was written, unless a line ends in it. -/
theorem stringBody_escaped (start column : Nat) (done text after : List Char)
    (ends : after.head? ≠ some '"') :
    stringBody '"' start column 0 done (escaped text ++ '"' :: after) =
      if '\n' ∈ text then .error .unterminated else .ok (done.reverse ++ text, after) := by
  induction text generalizing column done with
  | nil =>
    cases after with
    | nil => simp [escaped, stringBody]
    | cons d more => simp_all [escaped, stringBody]
  | cons c rest ih =>
    rw [escaped_cons]
    split
    · rename_i mark
      have inLine : '\n' ≠ c := by rcases mark with rfl | rfl <;> decide
      rw [List.cons_append, List.cons_append, stringBody_escape mark, ih]
      simp [inLine]
    · rename_i unmarked
      by_cases line : c = '\n'
      · subst line
        simp [stringBody]
      · obtain ⟨next, more, shape⟩ : ∃ next more, escaped rest ++ '"' :: after = next :: more := by
          cases escaped rest <;> simp
        rw [List.cons_append, shape, stringBody_plain unmarked line, ← shape, ih]
        simp [Ne.symm line]

end Reader

end Escaping

section Slashes

/-- Only a backslash in front of a slash is left out. -/
theorem slashesBared_other (other : c = '\\' → rest.head? ≠ some '/') :
    slashesBared (c :: rest) = c :: slashesBared rest := by
  rw [slashesBared]
  rintro more rfl rfl
  exact other rfl rfl

/-- Nothing but backslashes is left out. -/
theorem mem_slashesBared_iff {d : Char} (noEscape : d ≠ '\\') : d ∈ slashesBared pattern ↔ d ∈ pattern := by
  fun_induction slashesBared pattern with
  | case1 => rfl
  | case2 rest ih => simp [ih, noEscape]
  | case3 c rest _ ih => simp [ih]

/-- Leaving out the backslashes in front of slashes is all that is done to a pattern besides escaping. -/
theorem patternBody_eq (pattern : List Char) : patternBody pattern = escaped (slashesBared pattern) := by
  fun_induction slashesBared pattern with
  | case1 => rfl
  | case2 rest ih =>
    rw [patternBody, ih, escaped_cons, if_neg (by decide)]
  | case3 c rest other ih =>
    rw [patternBody, ih, escaped_cons]
    · by_cases escape : c = '\\'
      · simp [escape]
      · by_cases mark : c = '"' <;> simp [escape, mark]
    · exact other

/-- The flags are written without escapes. -/
theorem patternPrefix_eq (flags : List Char) : patternPrefix flags = escaped (patternPrefix flags) := by
  have plain : ∀ chars : List Char, (∀ c ∈ chars, ¬(c = '\\' ∨ c = '"')) → escaped chars = chars := by
    intro chars unmarked
    induction chars with
    | nil => rfl
    | cons c rest ih =>
      rw [escaped_cons, if_neg (unmarked c List.mem_cons_self),
        ih fun d member => unmarked d (List.mem_cons_of_mem c member)]
  refine (plain _ fun c member => ?_).symm
  rintro (rfl | rfl) <;> simp [patternPrefix, isPatternFlag] at member

theorem SlashBehindEscape.escape_iff :
    SlashBehindEscape ('\\' :: c :: rest) ↔
      (c = '\\' ∧ rest.head? = some '/') ∨ SlashBehindEscape rest := by
  constructor
  · intro behind
    cases behind with
    | here rest => exact .inl ⟨rfl, rfl⟩
    | escape _ behind => exact .inr behind
    | plain noEscape => exact absurd rfl noEscape
  · rintro (⟨rfl, slash⟩ | behind)
    · obtain ⟨more, rfl⟩ := List.head?_eq_some_iff.mp slash
      exact .here more
    · exact .escape c behind

theorem SlashBehindEscape.plain_iff (noEscape : c ≠ '\\') :
    SlashBehindEscape (c :: rest) ↔ SlashBehindEscape rest := by
  constructor
  · intro behind
    cases behind with
    | plain _ behind => exact behind
    | _ => exact absurd rfl noEscape
  · exact .plain noEscape

/-- A slash behind an escaped backslash loses that backslash; in all other places both readings of a
pattern agree. -/
theorem slashesBared_eq_slashesFreed_iff (pattern : List Char) :
    slashesBared pattern = slashesFreed pattern ↔ ¬SlashBehindEscape pattern := by
  fun_induction slashesFreed pattern with
  | case1 =>
    refine iff_of_true rfl fun behind => ?_
    cases behind
  | case2 c rest slash ih =>
    obtain rfl := beq_iff_eq.mp slash
    simp [slashesBared, ih, SlashBehindEscape.escape_iff]
  | case3 c rest noSlash ih =>
    have noSlash : c ≠ '/' := by simpa using noSlash
    rw [SlashBehindEscape.escape_iff]
    by_cases slip : c = '\\' ∧ rest.head? = some '/'
    · obtain ⟨rfl, slash⟩ := slip
      obtain ⟨more, rfl⟩ := List.head?_eq_some_iff.mp slash
      simp [slashesBared]
    · have inner : slashesBared (c :: rest) = c :: slashesBared rest :=
        slashesBared_other fun escape slash => slip ⟨escape, slash⟩
      rw [slashesBared_other (by simpa using noSlash), inner]
      simp [slip, ih]
  | case4 c rest pairs ih =>
    cases rest with
    | nil =>
      rw [slashesBared_other (by simp)]
      refine iff_of_true rfl fun behind => ?_
      cases behind with
      | plain _ behind => cases behind
    | cons d more =>
      have noEscape : c ≠ '\\' := fun escape => pairs d more escape rfl
      rw [slashesBared_other fun escape => absurd escape noEscape, SlashBehindEscape.plain_iff noEscape]
      simp [ih]

end Slashes

section Tokens
variable {inBrackets : Bool} {flags : List Char}

/-- A slash outside of brackets ends the pattern. -/
theorem regexBody?_head (found : regexBody? false rest = some (pattern, after)) :
    pattern.head? ≠ some '/' := by
  intro slash
  obtain ⟨more, rfl⟩ := List.head?_eq_some_iff.mp slash
  rw [regexBody?_eq found, List.cons_append, regexBody?] at found
  · simp at found
  · simp

/-- Without brackets a pattern has slashes only behind backslashes that escape them. -/
theorem regexBody?_unbracketed (found : regexBody? false rest = some (pattern, after))
    (unbracketed : '[' ∉ pattern) : ¬SlashBehindEscape pattern := by
  generalize bracketed : false = inBrackets at found
  fun_induction regexBody? inBrackets rest generalizing pattern after with
  | case1 => cases found
  | case2 _ c rest ih =>
    obtain ⟨⟨inner, tail⟩, inside, same⟩ := Option.map_eq_some_iff.mp found
    cases same
    subst bracketed
    simp only [List.mem_cons, not_or] at unbracketed
    rw [SlashBehindEscape.escape_iff, not_or]
    exact ⟨fun slip => regexBody?_head inside slip.2, ih unbracketed.2.2 rfl inside⟩
  | case3 => cases found
  | case4 =>
    cases found
    intro behind
    cases behind
  | case5 inBrackets c rest pairs line closing ih =>
    obtain ⟨⟨inner, tail⟩, inside, same⟩ := Option.map_eq_some_iff.mp found
    cases same
    subst bracketed
    simp only [List.mem_cons, not_or] at unbracketed
    have outside : false = bracketsAfter false c := by
      simp [bracketsAfter, Ne.symm unbracketed.1]
    have kept := ih unbracketed.2 outside inside
    by_cases escape : c = '\\'
    · -- A backslash at the end of the text would leave the pattern open.
      subst escape
      cases rest with
      | nil => cases inside
      | cons d more => exact absurd rfl (pairs d more rfl)
    · rwa [SlashBehindEscape.plain_iff escape]

/-- Behind what a regular expression may follow, a slash that starts no comment starts one. -/
theorem cut_slash (last : Option Kind) (rest : List Char) :
    cut last '/' rest =
      if rest.head? == some '/' then
        .ok ⟨some (.comment (withoutReturns (('/' :: rest).takeWhile (· != '\n')))),
          rest.dropWhile (· != '\n'), 0⟩
      else if rest.head? == some '*' then
        match Text.cutAt? ['*', '/'] (rest.drop 1) with
        | some (body, after) =>
          .ok ⟨some (.comment ("/*" ++ String.ofList body ++ "*/")), after, body.count '\n'⟩
        | none => .error (.unfinished .comment)
      else if regexMayFollow last then
        match regexBody? false rest with
        | some (pattern, after) =>
          .ok ⟨some (.regex pattern (after.takeWhile Char.isAlpha)), after.dropWhile Char.isAlpha, 0⟩
        | none => .error (.unfinished .regex)
      else cutSign ('/' :: rest) := rfl

theorem cut_regex {last : Option Kind} {piece : Cut} (found : cut last c rest = .ok piece)
    (is : piece.kind = some (.regex pattern flags)) :
    ∃ after, regexBody? false rest = some (pattern, after) := by
  obtain ⟨front, same, spells⟩ := cut_spells found
  rw [is] at spells
  cases spells with
  | regex pattern letters =>
    obtain ⟨rfl, -⟩ := List.cons.inj same
    rw [cut_slash] at found
    split at found
    case isTrue =>
      cases found
      cases is
    split at found
    case isTrue =>
      split at found
      · cases found
        cases is
      · cases found
    split at found
    case isTrue =>
      split at found
      · rename_i inner after cutOff
        cases found
        cases is
        exact ⟨after, cutOff⟩
      · cases found
    case isFalse =>
      obtain ⟨text, sign, -⟩ := cutSign_eq found
      rw [is] at sign
      cases sign

/-- What is known of the regular expressions of a script. -/
theorem tokens_regex {script : String} {found : List Token} (read : tokens script = .ok found)
    {token : Token} (member : token ∈ found) (is : token.kind = .regex pattern flags) :
    ∃ rest after, regexBody? false rest = some (pattern, after) := by
  obtain ⟨last, c, rest, piece, cutOff, kind⟩ := exists_cut read token member
  exact ⟨rest, cut_regex cutOff (kind.trans (congrArg some is))⟩

end Tokens

/-- A regular expression of a script becomes one literal in double quotes. It is read as the flags that
the pattern can carry and the pattern without the backslashes in front of its slashes, unless a line ends
in it, which a literal cannot hold. This is the pattern with its escapes of the slash undone, and nothing
else changed, exactly if no slash stands behind an escaped backslash; such a slash is always in
brackets. -/
theorem pattern_kept_iff {script : String} {found : List Token} {pattern flags : List Char} {line : Nat}
    (read : tokens script = .ok found) (member : ⟨.regex pattern flags, line⟩ ∈ found) :
    ∃ inner, Literal.regex pattern flags = '"' :: (inner ++ ['"']) ∧
      (∀ start column after, after.head? ≠ some '"' →
        Plain.stringBody '"' start column 0 [] (inner ++ '"' :: after) =
          if '\n' ∈ pattern then .error .unterminated else .ok (unescaped inner, after)) ∧
      unescaped inner = patternPrefix flags ++ slashesBared pattern ∧
      (unescaped inner = patternPrefix flags ++ slashesFreed pattern ↔ ¬SlashBehindEscape pattern) ∧
      ('[' ∉ pattern → ¬SlashBehindEscape pattern) := by
  obtain ⟨rest, after, cutOff⟩ := tokens_regex read member rfl
  have written : patternPrefix flags ++ patternBody pattern
      = escaped (patternPrefix flags ++ slashesBared pattern) := by
    rw [escaped_append, ← patternPrefix_eq, patternBody_eq]
  have undone : unescaped (patternPrefix flags ++ patternBody pattern)
      = patternPrefix flags ++ slashesBared pattern := by
    rw [written, unescaped_escaped]
  have line : '\n' ∈ patternPrefix flags ++ slashesBared pattern ↔ '\n' ∈ pattern := by
    rw [List.mem_append, mem_slashesBared_iff (by decide)]
    simp [patternPrefix, isPatternFlag]
  refine ⟨patternPrefix flags ++ patternBody pattern, by simp [Literal.regex], fun start column after ends => ?_,
    undone, ?_, regexBody?_unbracketed cutOff⟩
  · rw [undone, written, stringBody_escaped _ _ _ _ _ ends]
    simp only [line, List.reverse_nil, List.nil_append]
  · rw [undone, List.append_cancel_left_eq, slashesBared_eq_slashesFreed_iff]

/-- A backslash or a slash, in brackets: of the two only the slash is left. -/
theorem pattern_kept_iff_brackets :
    tokens "/[\\\\/]/i" = .ok [⟨.regex "[\\\\/]".toList ['i'], 1⟩] ∧
      ∃ inner, Literal.regex "[\\\\/]".toList ['i'] = '"' :: (inner ++ ['"']) ∧
        unescaped inner = "(?i)[\\/]".toList ∧
        unescaped inner ≠ patternPrefix ['i'] ++ slashesFreed "[\\\\/]".toList := by
  have read : tokens "/[\\\\/]/i" = .ok [⟨.regex "[\\\\/]".toList ['i'], 1⟩] := by decide +kernel
  obtain ⟨inner, shape, -, undone, kept, -⟩ := pattern_kept_iff read List.mem_cons_self
  refine ⟨read, inner, shape, undone.trans (by decide), ?_⟩
  rw [Ne, kept, not_not]
  exact .plain (by decide) (.here _)

end ApiProbe.Script
