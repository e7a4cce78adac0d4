import ApiProbe.Text.Classes
import ApiProbe.Text.Split
import ApiProbe.Text.Blank

/-!
Tokens of scripts. The text of a script is cut into words, numbers, strings, templates, regular
expressions, signs, blanks, line ends and comments, each with the number of the line on which it
starts.
-/
namespace ApiProbe.Script

inductive Kind
  | word (text : String)
  | number (text : String)
  | quoted (body : List Char) (quote : Char)
  | template (body : List Char)
  | regex (pattern flags : List Char)
  | sign (text : String)
  | space (text : String)
  | newline
  | comment (text : String)
  deriving Repr, DecidableEq

structure Token where
  kind : Kind
  line : Nat
  deriving Repr, DecidableEq

/-- Blanks, line ends and comments carry no meaning. -/
def Kind.isMeaningful : Kind → Bool
  | .space _ | .newline | .comment _ => false
  | _ => true

namespace Token

def isMeaningful (token : Token) : Bool := token.kind.isMeaningful

def isSign (token : Token) (text : String) : Bool := token.kind == .sign text

def isWord (token : Token) (text : String) : Bool := token.kind == .word text

def sign? (token : Token) : Option String :=
  match token.kind with
  | .sign text => some text
  | _ => none

def word? (token : Token) : Option String :=
  match token.kind with
  | .word text => some text
  | _ => none

end Token

/-- What a script may leave open at its end. -/
inductive Unfinished
  | comment | string | template | regex
  deriving Repr, DecidableEq

def Unfinished.name : Unfinished → String
  | .comment => "comment"
  | .string => "string"
  | .template => "template string"
  | .regex => "regex"

/-- Why a script cannot be read. -/
inductive SyntaxFault
  | unfinished (what : Unfinished)
  | strangeChar (c : Char)
  | unclosed
  | unexpected (sign : String)
  | unbalanced (sign : String)
  | asyncCode
  | classCode
  | functionIncomplete
  | functionParenthesis
  | functionBody
  | plainParameters
  | loopForm
  | typeofOperand
  | newOperand
  | stepInFront (sign : String)
  | divideAssign
  deriving Repr, DecidableEq

def SyntaxFault.reason : SyntaxFault → String
  | .unfinished what => s!"unterminated {what.name}"
  | .strangeChar c => s!"unexpected character '{c}'"
  | .unclosed => "unclosed bracket"
  | .unexpected sign => s!"unexpected '{sign}'"
  | .unbalanced sign => s!"unbalanced '{sign}'"
  | .asyncCode => "async code is not supported in scripts"
  | .classCode => "classes are not supported in scripts"
  | .functionIncomplete => "incomplete function"
  | .functionParenthesis => "expected '(' after function"
  | .functionBody => "expected '\x7b' to start the function body"
  | .plainParameters => "only plain parameter names are supported"
  | .loopForm => "unsupported for loop; use for (x of items)"
  | .typeofOperand => "typeof needs a variable or property"
  | .newOperand => "'new' is only supported for error values"
  | .stepInFront sign => s!"prefix {sign} is not supported"
  | .divideAssign => "'/=' is not supported; write x = x / y"

structure SyntaxError where
  fault : SyntaxFault
  line : Nat
  deriving Repr, DecidableEq

def SyntaxError.message (error : SyntaxError) : String :=
  s!"Syntax error: {error.fault.reason} (line {error.line})"

/-- Signs, longer ones before those they start with. -/
def signs : List String :=
  ["===", "!==", "...", "..<", "?.", "?:", "??", "=>", "->", "==", "!=", "<=", ">=", "&&", "||",
    "++", "--", "+=", "-=", "*=", "/=", "%=", "..", "::", "\x7b", "\x7d", "(", ")", "[", "]", ";",
    ",", ".", ":", "?", "=", "<", ">", "+", "-", "*", "/", "%", "!", "&", "|", "^", "~", "@", "#"]

/-- Words behind which a slash starts a regular expression. -/
def regexWords : List String := ["return", "typeof", "case", "in", "of", "throw"]

/-- Whether a slash may start a regular expression behind the last meaningful token. -/
def regexMayFollow : Option Kind → Bool
  | none => true
  | some (.sign text) => !([")", "]", "\x7d", "++", "--"].contains text)
  | some (.word text) => regexWords.contains text
  | some _ => false

def isWordStart (c : Char) : Bool := Text.isAlphabetic c || c == '_' || c == '$'

def isWordPart (c : Char) : Bool := Text.isAlphanumeric c || c == '_' || c == '$'

def isInlineBlank (c : Char) : Bool := Text.isBlank c && c != '\n'

def withoutReturns (chars : List Char) : String := String.ofList (chars.filter (· != '\r'))

/-- The body of a string up to its closing quote, which is on the same line unless the line end
stands behind a backslash. -/
def quotedBody? (quote : Char) : List Char → Option (List Char × List Char)
  | [] => none
  | '\\' :: c :: rest => (quotedBody? quote rest).map fun (body, after) => ('\\' :: c :: body, after)
  | c :: rest =>
    if c == '\n' then none
    else if c == quote then some ([], rest)
    else (quotedBody? quote rest).map fun (body, after) => (c :: body, after)

/-- The body of a template up to its closing tick, and the number of line ends in it that do not
stand behind a backslash. -/
def templateBody? : List Char → Option (List Char × Nat × List Char)
  | [] => none
  | '\\' :: c :: rest =>
    (templateBody? rest).map fun (body, breaks, after) => ('\\' :: c :: body, breaks, after)
  | c :: rest =>
    if c.toNat == 96 then some ([], 0, rest)
    else (templateBody? rest).map fun (body, breaks, after) =>
      (c :: body, if c == '\n' then breaks + 1 else breaks, after)

/-- Whether a pattern stands in brackets behind a character. -/
def bracketsAfter (inBrackets : Bool) (c : Char) : Bool :=
  if c == '[' then true else if c == ']' then false else inBrackets

/-- The pattern of a regular expression up to its closing slash; a slash in brackets does not
close it. -/
def regexBody? (inBrackets : Bool) : List Char → Option (List Char × List Char)
  | [] => none
  | '\\' :: c :: rest =>
    (regexBody? inBrackets rest).map fun (body, after) => ('\\' :: c :: body, after)
  | c :: rest =>
    if c == '\n' then none
    else if c == '/' && !inBrackets then some ([], rest)
    else
      (regexBody? (bracketsAfter inBrackets c) rest).map fun (body, after) => (c :: body, after)

/-- True of digits with a hexadecimal mark in front, given last digit first. -/
def isHexadecimal (taken : List Char) : Bool :=
  match taken.reverse with
  | '0' :: x :: _ => x == 'x' || x == 'X'
  | _ => false

/-- The rest of a number: letters, digits and underscores, a point before a digit, and a sign
behind the mark of an exponent. `taken` is what has been read, last character first. -/
def numberRest (taken : List Char) : List Char → List Char × List Char
  | [] => (taken.reverse, [])
  | d :: rest =>
    let afterMark := taken.head? == some 'e' || taken.head? == some 'E'
    let exponentSign := (d == '+' || d == '-') && afterMark && !isHexadecimal taken
    let point := d == '.' && (rest.head?.map Char.isDigit).getD false
    if d.isAlphanum || d == '_' || point || exponentSign then numberRest (d :: taken) rest
    else (taken.reverse, d :: rest)

/-- A token cut off the front of a text, what is left, and the number of line ends passed. A lone
carriage return is passed without a token. -/
structure Cut where
  kind : Option Kind
  rest : List Char
  breaks : Nat

/-- Cuts the sign off the front of a text. -/
def cutSign (chars : List Char) : Except SyntaxFault Cut :=
  match signs.find? fun sign => sign.toList.isPrefixOf chars with
  | some sign => .ok ⟨some (.sign sign), chars.drop (max sign.length 1), 0⟩
  | none => .error (.strangeChar (chars.headD ' '))

/-- Cuts the first token off a text that starts with `c`. `last` is the last meaningful token. -/
def cut (last : Option Kind) (c : Char) (rest : List Char) : Except SyntaxFault Cut :=
  let chars := c :: rest
  if c == '\n' then .ok ⟨some .newline, rest, 1⟩
  else if c == '\r' then .ok ⟨none, rest, 0⟩
  else if Text.isBlank c then
    let run := chars.takeWhile isInlineBlank
    .ok ⟨some (.space (withoutReturns run)), rest.dropWhile isInlineBlank, 0⟩
  else if c == '/' && rest.head? == some '/' then
    let line := chars.takeWhile (· != '\n')
    .ok ⟨some (.comment (withoutReturns line)), rest.dropWhile (· != '\n'), 0⟩
  else if c == '/' && rest.head? == some '*' then
    match Text.cutAt? ['*', '/'] (rest.drop 1) with
    | some (body, after) =>
      let text := "/*" ++ String.ofList body ++ "*/"
      .ok ⟨some (.comment text), after, body.count '\n'⟩
    | none => .error (.unfinished .comment)
  else if c == '"' || c == '\'' then
    match quotedBody? c rest with
    | some (body, after) => .ok ⟨some (.quoted body c), after, 0⟩
    | none => .error (.unfinished .string)
  else if c.toNat == 96 then
    match templateBody? rest with
    | some (body, breaks, after) => .ok ⟨some (.template body), after, breaks⟩
    | none => .error (.unfinished .template)
  else if c == '/' && regexMayFollow last then
    match regexBody? false rest with
    | some (pattern, after) =>
      .ok ⟨some (.regex pattern (after.takeWhile Char.isAlpha)), after.dropWhile Char.isAlpha, 0⟩
    | none => .error (.unfinished .regex)
  else if c.isDigit then
    let (digits, after) := numberRest [c] rest
    .ok ⟨some (.number (String.ofList digits)), after, 0⟩
  else if isWordStart c then
    .ok ⟨some (.word (String.ofList (c :: rest.takeWhile isWordPart))), rest.dropWhile isWordPart, 0⟩
  else cutSign chars

theorem quotedBody?_eq {quote : Char} {chars body after : List Char}
    (found : quotedBody? quote chars = some (body, after)) : chars = body ++ quote :: after := by
  fun_induction quotedBody? quote chars generalizing body after with
  | case1 => cases found
  | case2 c rest ih =>
    obtain ⟨⟨inner, tail⟩, inside, same⟩ := Option.map_eq_some_iff.mp found
    cases same
    simp [ih inside]
  | case3 => cases found
  | case4 c rest _ _ closes =>
    cases found
    simp [beq_iff_eq.mp closes]
  | case5 c rest _ _ _ ih =>
    obtain ⟨⟨inner, tail⟩, inside, same⟩ := Option.map_eq_some_iff.mp found
    cases same
    simp [ih inside]

/-- A template is what stands between two ticks. -/
theorem templateBody?_eq {chars body after : List Char} {breaks : Nat}
    (found : templateBody? chars = some (body, breaks, after)) :
    chars = body ++ Char.ofNat 96 :: after := by
  fun_induction templateBody? chars generalizing body breaks after with
  | case1 => cases found
  | case2 c rest ih =>
    obtain ⟨⟨inner, n, tail⟩, inside, same⟩ := Option.map_eq_some_iff.mp found
    cases same
    simp [ih inside]
  | case3 c rest _ closes =>
    cases found
    have tick : c = Char.ofNat 96 := by
      rw [← beq_iff_eq.mp closes, Char.ofNat_toNat]
    rw [tick, List.nil_append]
  | case4 c rest _ _ ih =>
    obtain ⟨⟨inner, n, tail⟩, inside, same⟩ := Option.map_eq_some_iff.mp found
    cases same
    simp [ih inside]

theorem regexBody?_eq {inBrackets : Bool} {chars body after : List Char}
    (found : regexBody? inBrackets chars = some (body, after)) : chars = body ++ '/' :: after := by
  fun_induction regexBody? inBrackets chars generalizing body after with
  | case1 => cases found
  | case2 _ c rest ih =>
    obtain ⟨⟨inner, tail⟩, inside, same⟩ := Option.map_eq_some_iff.mp found
    cases same
    simp [ih inside]
  | case3 => cases found
  | case4 _ c rest _ _ closes =>
    cases found
    simp only [Bool.and_eq_true, beq_iff_eq] at closes
    simp [closes.1]
  | case5 _ c rest _ _ _ ih =>
    obtain ⟨⟨inner, tail⟩, inside, same⟩ := Option.map_eq_some_iff.mp found
    cases same
    simp [ih inside]

/-- A number is cut off after what was read of it before. -/
theorem numberRest_eq (taken chars : List Char) :
    (numberRest taken chars).1 ++ (numberRest taken chars).2 = taken.reverse ++ chars := by
  fun_induction numberRest taken chars with
  | case1 => rfl
  | case2 taken d rest _ _ _ _ ih => simpa using ih
  | case3 => rfl

theorem numberRest_prefix (taken chars : List Char) :
    taken.reverse <+: (numberRest taken chars).1 := by
  fun_induction numberRest taken chars with
  | case1 => exact List.prefix_rfl
  | case2 taken d rest _ _ _ _ ih =>
    rw [List.reverse_cons] at ih
    exact (List.prefix_append _ _).trans ih
  | case3 => exact List.prefix_rfl

theorem signs_ne_nil : ∀ sign ∈ signs, sign.toList ≠ [] := by decide

/-- What a token was in the text. Among blanks and in comments up to the end of a line, carriage
returns are passed over; elsewhere they are by themselves. -/
inductive Spells : Option Kind → List Char → Prop
  | word {c : Char} {rest : List Char} (start : isWordStart c = true)
    (part : ∀ d ∈ rest, isWordPart d = true) :
    Spells (some (.word (String.ofList (c :: rest)))) (c :: rest)
  | number {c : Char} {rest : List Char} (digit : c.isDigit = true) :
    Spells (some (.number (String.ofList (numberRest [c] rest).1))) (numberRest [c] rest).1
  | quoted {quote : Char} (mark : (quote == '"' || quote == '\'') = true) (body : List Char) :
    Spells (some (.quoted body quote)) (quote :: (body ++ [quote]))
  | template (body : List Char) :
    Spells (some (.template body)) (Char.ofNat 96 :: (body ++ [Char.ofNat 96]))
  | regex (pattern : List Char) {flags : List Char} (letters : ∀ f ∈ flags, f.isAlpha = true) :
    Spells (some (.regex pattern flags)) ('/' :: (pattern ++ '/' :: flags))
  | sign {text : String} (known : text ∈ signs) : Spells (some (.sign text)) text.toList
  | space {chars : List Char} (some_ : chars ≠ []) (blank : ∀ d ∈ chars, isInlineBlank d = true) :
    Spells (some (.space (withoutReturns chars))) chars
  | newline : Spells (some .newline) ['\n']
  | lineComment {chars : List Char} (some_ : chars ≠ []) (inLine : ∀ d ∈ chars, d ≠ '\n') :
    Spells (some (.comment (withoutReturns chars))) chars
  | blockComment (body : List Char) :
    Spells (some (.comment ("/*" ++ String.ofList body ++ "*/"))) ("/*".toList ++ body ++ "*/".toList)
  | return_ : Spells none ['\r']

theorem all_takeWhile {p : Char → Bool} {chars : List Char} :
    ∀ c ∈ chars.takeWhile p, p c = true := fun c member =>
  List.all_eq_true.mp List.all_takeWhile c member

/-- A cut takes what its token was in the text. -/
theorem cut_spells {last : Option Kind} {c : Char} {rest : List Char} {piece : Cut}
    (found : cut last c rest = .ok piece) :
    ∃ front, c :: rest = front ++ piece.rest ∧ Spells piece.kind front := by
  unfold cut at found
  by_cases line : c = '\n'
  · subst line
    cases found
    exact ⟨['\n'], rfl, .newline⟩
  by_cases return_ : c = '\r'
  · subst return_
    cases found
    exact ⟨['\r'], rfl, .return_⟩
  simp only [beq_eq_false_iff_ne.mpr line, beq_eq_false_iff_ne.mpr return_, Bool.false_eq_true, ↓reduceIte] at found
  by_cases blank : Text.isBlank c = true
  · rw [if_pos blank] at found
    cases found
    have inline : isInlineBlank c = true := by simp_all [isInlineBlank]
    refine ⟨(c :: rest).takeWhile isInlineBlank, ?_, .space ?_ all_takeWhile⟩
    · simp [inline]
    · simp [inline]
  rw [if_neg blank] at found
  by_cases lineComment : (c == '/' && rest.head? == some '/') = true
  · rw [if_pos lineComment] at found
    cases found
    have inside : (c != '\n') = true := bne_iff_ne.mpr line
    refine ⟨(c :: rest).takeWhile (· != '\n'), ?_, .lineComment ?_ fun d member => ?_⟩
    · simp [inside]
    · simp [inside]
    · exact bne_iff_ne.mp (all_takeWhile d member)
  rw [if_neg lineComment] at found
  by_cases blockComment : (c == '/' && rest.head? == some '*') = true
  · rw [if_pos blockComment] at found
    simp only [Bool.and_eq_true, beq_iff_eq] at blockComment
    obtain ⟨rfl, star⟩ := blockComment
    obtain ⟨more, rfl⟩ := List.head?_eq_some_iff.mp star
    split at found
    · rename_i body after cutOff
      cases found
      refine ⟨_, ?_, .blockComment body⟩
      simpa using Text.cutAt?_eq cutOff
    · cases found
  rw [if_neg blockComment] at found
  by_cases quoted : (c == '"' || c == '\'') = true
  · rw [if_pos quoted] at found
    split at found
    · rename_i body after cutOff
      cases found
      refine ⟨_, ?_, .quoted quoted body⟩
      simpa using quotedBody?_eq cutOff
    · cases found
  rw [if_neg quoted] at found
  by_cases tick : (c.toNat == 96) = true
  · rw [if_pos tick] at found
    have same : c = Char.ofNat 96 := by rw [← beq_iff_eq.mp tick, Char.ofNat_toNat]
    split at found
    · rename_i body breaks after cutOff
      cases found
      refine ⟨_, ?_, .template body⟩
      simpa [same] using templateBody?_eq cutOff
    · cases found
  rw [if_neg tick] at found
  by_cases regex : (c == '/' && regexMayFollow last) = true
  · rw [if_pos regex] at found
    simp only [Bool.and_eq_true, beq_iff_eq] at regex
    obtain ⟨rfl, -⟩ := regex
    split at found
    · rename_i pattern after cutOff
      cases found
      refine ⟨_, ?_, .regex pattern all_takeWhile⟩
      simpa using regexBody?_eq cutOff
    · cases found
  rw [if_neg regex] at found
  by_cases digit : c.isDigit = true
  · rw [if_pos digit] at found
    cases found
    exact ⟨_, (numberRest_eq [c] rest).symm, .number digit⟩
  rw [if_neg digit] at found
  by_cases start : isWordStart c = true
  · rw [if_pos start] at found
    cases found
    refine ⟨c :: rest.takeWhile isWordPart, ?_, .word start all_takeWhile⟩
    rw [List.cons_append, List.takeWhile_append_dropWhile]
  rw [if_neg start] at found
  unfold cutSign at found
  split at found
  · rename_i sign known
    cases found
    have member := List.mem_of_find?_eq_some known
    have here := List.find?_some known
    obtain ⟨tail, same⟩ := List.isPrefixOf_iff_prefix.mp here
    have long : max sign.length 1 = sign.toList.length := by
      have some_ := List.length_pos_iff.mpr (signs_ne_nil sign member)
      rw [String.length_toList] at some_ ⊢
      omega
    refine ⟨sign.toList, ?_, .sign member⟩
    rw [long, ← same, List.drop_left]
  · cases found

/-- No token is without text. -/
theorem Spells.ne_nil {kind : Option Kind} {chars : List Char} (spells : Spells kind chars) :
    chars ≠ [] := by
  cases spells with
  | @number c rest digit =>
    obtain ⟨tail, same⟩ := numberRest_prefix [c] rest
    rw [← same]
    simp
  | sign known => exact signs_ne_nil _ known
  | space some_ => exact some_
  | lineComment some_ => exact some_
  | _ => simp

/-- Every cut takes at least one character. -/
theorem cut_length {last : Option Kind} {c : Char} {rest : List Char} {piece : Cut}
    (found : cut last c rest = .ok piece) : piece.rest.length < rest.length + 1 := by
  obtain ⟨front, same, spells⟩ := cut_spells found
  have taken := List.length_pos_iff.mpr spells.ne_nil
  have whole := congrArg List.length same
  rw [List.length_cons, List.length_append] at whole
  omega

/-- The tokens of a text that starts on a line. `last` is the last meaningful token before it. -/
def tokensFrom (line : Nat) (last : Option Kind) (chars : List Char) :
    Except SyntaxError (List Token) :=
  match chars with
  | [] => .ok []
  | c :: rest =>
    match _found : cut last c rest with
    | .error fault => .error ⟨fault, line⟩
    | .ok piece =>
      match piece.kind with
      | none => tokensFrom (line + piece.breaks) last piece.rest
      | some kind =>
        let next := if kind.isMeaningful then some kind else last
        (tokensFrom (line + piece.breaks) next piece.rest).map fun more => ⟨kind, line⟩ :: more
termination_by chars.length
decreasing_by
  all_goals
    have := cut_length _found
    simp only [List.length_cons]
    omega

/-- The tokens of a script. -/
def tokens (script : String) : Except SyntaxError (List Token) := tokensFrom 1 none script.toList

end ApiProbe.Script
