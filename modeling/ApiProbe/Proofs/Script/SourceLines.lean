import ApiProbe.Proofs.Script.SourceBreaks

/-!
The lines of tokens against the text they were cut from. A line end behind a backslash is passed over
with the backslash and not counted, so every token behind a literal that holds one has a line that is
too low by it; without such literals all lines are right.
-/
namespace ApiProbe.Script

/-- Line ends that stand behind a backslash. -/
def escapedEnds : List Char → Nat
  | [] => 0
  | '\\' :: c :: rest => (if c == '\n' then 1 else 0) + escapedEnds rest
  | _ :: rest => escapedEnds rest

/-- Line ends of a token that stand behind a backslash in a literal. -/
def Kind.escapedEnds : Kind → Nat
  | .quoted body _ | .template body => Script.escapedEnds body
  | .regex pattern _ => Script.escapedEnds pattern
  | .word _ | .number _ | .sign _ | .space _ | .newline | .comment _ => 0

def escapedEndsIn (tokens : List Token) : Nat :=
  (tokens.map fun token => token.kind.escapedEnds).sum

@[simp] theorem escapedEndsIn_nil : escapedEndsIn [] = 0 := rfl

@[simp] theorem escapedEndsIn_cons (token : Token) (rest : List Token) :
    escapedEndsIn (token :: rest) = token.kind.escapedEnds + escapedEndsIn rest := by
  simp [escapedEndsIn]

section Bodies
variable {chars body after : List Char}

theorem count_escape (c : Char) (body : List Char) :
    ('\\' :: c :: body).count '\n' = (if c == '\n' then 1 else 0) + body.count '\n' := by
  simp only [List.count_cons]
  split <;> simp [Nat.add_comm]

/-- A backslash at the front of a body stands in front of another character, unless the text ends
with it. -/
theorem escapedEnds_plain {c closing : Char} {rest : List Char}
    (plain : ∀ (d : Char) (more : List Char), c = '\\' → rest = d :: more → False)
    (closed : rest = body ++ closing :: after) : escapedEnds (c :: body) = escapedEnds body := by
  rw [escapedEnds]
  rintro d more rfl rfl
  exact plain d _ rfl closed

/-- A string goes past a line end only behind a backslash. -/
theorem quotedBody?_count {quote : Char} (found : quotedBody? quote chars = some (body, after)) :
    body.count '\n' = escapedEnds body := by
  fun_induction quotedBody? quote chars generalizing body after with
  | case1 => cases found
  | case2 c rest ih =>
    obtain ⟨⟨inner, tail⟩, inside, same⟩ := Option.map_eq_some_iff.mp found
    cases same
    rw [count_escape, ih inside, escapedEnds]
  | case3 => cases found
  | case4 =>
    cases found
    rfl
  | case5 c rest plain inLine _ ih =>
    obtain ⟨⟨inner, tail⟩, inside, same⟩ := Option.map_eq_some_iff.mp found
    cases same
    rw [escapedEnds_plain plain (quotedBody?_eq inside), ← ih inside, List.count_cons,
      if_neg inLine, Nat.add_zero]

/-- The line ends of a template are counted unless they stand behind a backslash. -/
theorem templateBody?_count {breaks : Nat}
    (found : templateBody? chars = some (body, breaks, after)) :
    body.count '\n' = breaks + escapedEnds body := by
  fun_induction templateBody? chars generalizing body breaks after with
  | case1 => cases found
  | case2 c rest ih =>
    obtain ⟨⟨inner, n, tail⟩, inside, same⟩ := Option.map_eq_some_iff.mp found
    cases same
    rw [count_escape, ih inside, escapedEnds]
    omega
  | case3 =>
    cases found
    rfl
  | case4 c rest plain _ ih =>
    obtain ⟨⟨inner, n, tail⟩, inside, same⟩ := Option.map_eq_some_iff.mp found
    cases same
    rw [escapedEnds_plain plain (templateBody?_eq inside), List.count_cons, ih inside]
    split <;> omega

/-- A regular expression goes past a line end only behind a backslash. -/
theorem regexBody?_count {inBrackets : Bool}
    (found : regexBody? inBrackets chars = some (body, after)) :
    body.count '\n' = escapedEnds body := by
  fun_induction regexBody? inBrackets chars generalizing body after with
  | case1 => cases found
  | case2 _ c rest ih =>
    obtain ⟨⟨inner, tail⟩, inside, same⟩ := Option.map_eq_some_iff.mp found
    cases same
    rw [count_escape, ih inside, escapedEnds]
  | case3 => cases found
  | case4 =>
    cases found
    rfl
  | case5 _ c rest plain inLine _ ih =>
    obtain ⟨⟨inner, tail⟩, inside, same⟩ := Option.map_eq_some_iff.mp found
    cases same
    rw [escapedEnds_plain plain (regexBody?_eq inside), ← ih inside, List.count_cons,
      if_neg inLine, Nat.add_zero]

end Bodies

theorem cutSign_eq {chars : List Char} {piece : Cut} (found : cutSign chars = .ok piece) :
    ∃ sign, piece.kind = some (.sign sign) ∧ piece.breaks = 0 := by
  unfold cutSign at found
  split at found
  · cases found
    exact ⟨_, rfl, rfl⟩
  · cases found

/-- A cut counts the line ends of its token but for those that stand behind a backslash. -/
theorem cut_breaks {last : Option Kind} {c : Char} {rest : List Char} {piece : Cut}
    (found : cut last c rest = .ok piece) :
    (piece.kind.map Kind.breaks).getD 0 =
      piece.breaks + (piece.kind.map Kind.escapedEnds).getD 0 := by
  simp only [cut] at found
  rw [ite_eq_iff] at found
  rcases found with ⟨-, found⟩ | ⟨-, found⟩
  · cases found
    rfl
  rw [ite_eq_iff] at found
  rcases found with ⟨-, found⟩ | ⟨-, found⟩
  · cases found
    rfl
  rw [ite_eq_iff] at found
  rcases found with ⟨-, found⟩ | ⟨-, found⟩
  · cases found
    rfl
  rw [ite_eq_iff] at found
  rcases found with ⟨-, found⟩ | ⟨-, found⟩
  · cases found
    have inLine : ∀ d ∈ (c :: rest).takeWhile (· != '\n'), d ≠ '\n' :=
      fun d member => bne_iff_ne.mp (all_takeWhile d member)
    change (withoutReturns ((c :: rest).takeWhile (· != '\n'))).toList.count '\n' = 0
    rw [count_withoutReturns, List.count_eq_zero]
    exact fun member => inLine '\n' member rfl
  rw [ite_eq_iff] at found
  rcases found with ⟨-, found⟩ | ⟨-, found⟩
  · split at found <;> cases found
    simp [Kind.breaks, Kind.escapedEnds, String.toList_append]
  rw [ite_eq_iff] at found
  rcases found with ⟨-, found⟩ | ⟨-, found⟩
  · split at found <;> cases found
    rename_i body after cutOff
    exact (quotedBody?_count cutOff).trans (Nat.zero_add _).symm
  rw [ite_eq_iff] at found
  rcases found with ⟨-, found⟩ | ⟨-, found⟩
  · split at found <;> cases found
    rename_i body breaks after cutOff
    exact templateBody?_count cutOff
  rw [ite_eq_iff] at found
  rcases found with ⟨-, found⟩ | ⟨-, found⟩
  · split at found <;> cases found
    rename_i pattern after cutOff
    exact (regexBody?_count cutOff).trans (Nat.zero_add _).symm
  rw [ite_eq_iff] at found
  rcases found with ⟨-, found⟩ | ⟨-, found⟩
  · cases found
    rfl
  rw [ite_eq_iff] at found
  rcases found with ⟨-, found⟩ | ⟨-, found⟩
  · cases found
    rfl
  obtain ⟨sign, kind, breaks⟩ := cutSign_eq found
  rw [kind, breaks]
  rfl

/-- A token keeps the line of the text plus the line ends that were counted in front of it. -/
theorem tokensFrom_line {line : Nat} {last : Option Kind} {chars : List Char} {found : List Token}
    (read : tokensFrom line last chars = .ok found) {front back : List Token} {token : Token}
    (shape : found = front ++ token :: back) :
    token.line + escapedEndsIn front = line + breaksIn front := by
  fun_induction tokensFrom line last chars generalizing found front with
  | case1 =>
    cases read
    simp at shape
  | case2 => cases read
  | case3 line last c rest piece cutOff none_ ih =>
    have counted := cut_breaks cutOff
    rw [none_] at counted
    have uncounted : piece.breaks = 0 := counted.symm
    rw [ih read shape, uncounted, Nat.add_zero]
  | case4 line last c rest piece cutOff kind some_ next =>
    rename_i ih
    have counted := cut_breaks cutOff
    rw [some_] at counted
    replace counted : kind.breaks = piece.breaks + kind.escapedEnds := counted
    cases inner : tokensFrom (line + piece.breaks) next piece.rest with
    | error error =>
      rw [inner] at read
      cases read
    | ok more =>
      rw [inner] at read
      cases read
      cases front with
      | nil =>
        obtain ⟨rfl, -⟩ := List.cons.inj shape
        rfl
      | cons first others =>
        obtain ⟨rfl, later⟩ := List.cons.inj shape
        have account := ih inner later
        simp only [escapedEndsIn_cons, breaksIn_cons]
        omega

/-- A part of a script: the text of a token, or one that was passed without a token. -/
structure Piece where
  token : Option Token
  text : List Char

def textOf (pieces : List Piece) : List Char := pieces.flatMap Piece.text

def tokensOf (pieces : List Piece) : List Token := pieces.filterMap Piece.token

@[simp] theorem tokensOf_cons (piece : Piece) (rest : List Piece) :
    tokensOf (piece :: rest) = piece.token.toList ++ tokensOf rest := by
  obtain ⟨token, text⟩ := piece
  cases token <;> simp [tokensOf]

/-- A script cut into pieces, whose tokens are the given ones. -/
structure Layout (script : List Char) (found : List Token) (pieces : List Piece) : Prop where
  text : textOf pieces = script
  tokens : tokensOf pieces = found
  spells : ∀ piece ∈ pieces, Spells (piece.token.map Token.kind) piece.text

theorem tokensFrom_layout {line : Nat} {last : Option Kind} {chars : List Char} {found : List Token}
    (read : tokensFrom line last chars = .ok found) : ∃ pieces, Layout chars found pieces := by
  fun_induction tokensFrom line last chars generalizing found with
  | case1 =>
    cases read
    exact ⟨[], rfl, rfl, fun _ member => by cases member⟩
  | case2 => cases read
  | case3 line last c rest piece cutOff none_ ih =>
    obtain ⟨front, same, spells⟩ := cut_spells cutOff
    rw [none_] at spells
    obtain ⟨pieces, text, tokens, others⟩ := ih read
    refine ⟨⟨none, front⟩ :: pieces, ?_, tokens, ?_⟩
    · rw [same, ← text]
      rfl
    · exact List.forall_mem_cons.mpr ⟨spells, others⟩
  | case4 line last c rest piece cutOff kind some_ next =>
    rename_i ih
    obtain ⟨front, same, spells⟩ := cut_spells cutOff
    rw [some_] at spells
    cases inner : tokensFrom (line + piece.breaks) next piece.rest with
    | error error =>
      rw [inner] at read
      cases read
    | ok more =>
      rw [inner] at read
      cases read
      obtain ⟨pieces, text, tokens, others⟩ := ih inner
      refine ⟨⟨some ⟨kind, line⟩, front⟩ :: pieces, ?_, ?_, ?_⟩
      · rw [same, ← text]
        rfl
      · rw [tokensOf_cons, tokens]
        rfl
      · exact List.forall_mem_cons.mpr ⟨spells, others⟩

/-- Pieces of text have the line ends of their tokens. -/
theorem count_textOf {pieces : List Piece}
    (spells : ∀ piece ∈ pieces, Spells (piece.token.map Token.kind) piece.text) :
    (textOf pieces).count '\n' = breaksIn (tokensOf pieces) := by
  induction pieces with
  | nil => rfl
  | cons piece rest ih =>
    obtain ⟨own, others⟩ := List.forall_mem_cons.mp spells
    have counted := own.breaks.1
    change (piece.text ++ textOf rest).count '\n' = _
    rw [List.count_append, ih others, counted, tokensOf_cons, breaksIn_append]
    cases piece.token <;> simp

/-- The line of every token is that of its first character. -/
def TrueLines (pieces : List Piece) : Prop :=
  ∀ front token text back, pieces = front ++ ⟨some token, text⟩ :: back →
    token.line = 1 + (textOf front).count '\n'

theorem escapedEndsIn_eq_zero_iff {found : List Token} :
    escapedEndsIn found = 0 ↔ ∀ token ∈ found, token.kind.escapedEnds = 0 := by
  induction found with
  | nil => simp
  | cons token rest ih => rw [escapedEndsIn_cons, Nat.add_eq_zero_iff, ih, List.forall_mem_cons]

theorem tokensOf_split {front back : List Piece} {token : Token} {text : List Char} :
    tokensOf (front ++ ⟨some token, text⟩ :: back) = tokensOf front ++ token :: tokensOf back := by
  simp [tokensOf]

/-- The piece of a token. -/
theorem split_of_tokensOf {pieces : List Piece} {before after : List Token} {token : Token}
    (shape : tokensOf pieces = before ++ token :: after) :
    ∃ front text back, pieces = front ++ ⟨some token, text⟩ :: back ∧ tokensOf front = before := by
  obtain ⟨first, second, rfl, own, others⟩ := List.filterMap_eq_append_iff.mp shape
  obtain ⟨passed, ⟨kept, text⟩, back, rfl, none_, same, -⟩ := List.filterMap_eq_cons_iff.mp others
  obtain rfl : kept = some token := same
  refine ⟨first ++ passed, text, back, (List.append_assoc ..).symm, ?_⟩
  rw [tokensOf, List.filterMap_append, own, List.filterMap_eq_nil_iff.mpr none_, List.append_nil]

/-- Tokens of an accepted script stand in its text one behind the other. However they do, the line of a
token falls short of that of its first character by the line ends that stand behind a backslash in
literals in front of it; so all lines are right exactly if only the last token has such line ends. -/
theorem tokens_lines {script : String} {found : List Token} (read : tokens script = .ok found) :
    (∃ pieces, Layout script.toList found pieces) ∧
      ∀ pieces, Layout script.toList found pieces →
        (∀ front token text back, pieces = front ++ ⟨some token, text⟩ :: back →
          token.line + escapedEndsIn (tokensOf front) = 1 + (textOf front).count '\n') ∧
        (TrueLines pieces ↔ ∀ token ∈ found.dropLast, token.kind.escapedEnds = 0) := by
  refine ⟨tokensFrom_layout read, fun pieces ⟨text, tokens, spells⟩ => ?_⟩
  have account (front : List Piece) (token : Token) (own : List Char) (back : List Piece)
      (shape : pieces = front ++ ⟨some token, own⟩ :: back) :
      token.line + escapedEndsIn (tokensOf front) = 1 + (textOf front).count '\n' := by
    subst shape
    rw [tokensOf_split] at tokens
    rw [count_textOf fun piece member => spells piece (List.mem_append_left _ member)]
    exact tokensFrom_line read tokens.symm
  refine ⟨account, fun right => ?_, fun clean => ?_⟩
  · rw [← escapedEndsIn_eq_zero_iff]
    rcases found.eq_nil_or_concat' with rfl | ⟨before, token, rfl⟩
    · rfl
    · obtain ⟨front, own, back, shape, same⟩ := split_of_tokensOf tokens
      have exact_ := right front token own back shape
      have short := account front token own back shape
      rw [List.dropLast_concat, ← same]
      omega
  · intro front token own back shape
    have short := account front token own back shape
    have none_ : escapedEndsIn (tokensOf front) = 0 := by
      rw [escapedEndsIn_eq_zero_iff]
      intro other member
      apply clean
      rw [← tokens, shape, tokensOf_split, List.dropLast_append_cons]
      exact List.mem_append_left _ member
    omega

/-- A word behind a string with such a line end is given the line on which the string starts. -/
theorem tokens_lines_escape :
    tokens "\"\\\n\"x" = .ok [⟨.quoted ['\\', '\n'] '"', 1⟩, ⟨.word "x", 1⟩] ∧
      ∃ pieces, Layout "\"\\\n\"x".toList
        [⟨.quoted ['\\', '\n'] '"', 1⟩, ⟨.word "x", 1⟩] pieces ∧ ¬TrueLines pieces := by
  have read : tokens "\"\\\n\"x" = .ok [⟨.quoted ['\\', '\n'] '"', 1⟩, ⟨.word "x", 1⟩] := by
    decide +kernel
  obtain ⟨⟨pieces, layout⟩, account⟩ := tokens_lines read
  refine ⟨read, pieces, layout, fun right => ?_⟩
  have clean := (account pieces layout).2.mp right _ List.mem_cons_self
  exact absurd clean (by decide)

/-!
### Scripts back from their tokens

Every token has a spelling of its own, and the spellings of all tokens
one behind the other are the script. Only carriage returns can be missing, which are passed over between
tokens, among blanks and in comments up to the end of a line.
-/

/-- How a token is spelled. -/
def Kind.spelling : Kind → List Char
  | .word text | .number text | .sign text | .space text | .comment text => text.toList
  | .quoted body quote => quote :: (body ++ [quote])
  | .template body => Char.ofNat 96 :: (body ++ [Char.ofNat 96])
  | .regex pattern flags => '/' :: (pattern ++ '/' :: flags)
  | .newline => ['\n']

/-- The spellings of tokens one behind the other. -/
def sourceText (tokens : List Token) : List Char :=
  tokens.flatMap fun token => token.kind.spelling

@[simp] theorem sourceText_nil : sourceText [] = [] := rfl

@[simp] theorem sourceText_cons (token : Token) (rest : List Token) :
    sourceText (token :: rest) = token.kind.spelling ++ sourceText rest :=
  List.flatMap_cons

/-- A text of which nothing but carriage returns is left out. -/
structure OmitsReturns (part whole : List Char) : Prop where
  sublist : part.Sublist whole
  others : part.filter (· != '\r') = whole.filter (· != '\r')

namespace OmitsReturns
variable {part whole part' whole' : List Char}

theorem refl (chars : List Char) : OmitsReturns chars chars := ⟨List.Sublist.refl chars, rfl⟩

theorem append (first : OmitsReturns part whole) (second : OmitsReturns part' whole') :
    OmitsReturns (part ++ part') (whole ++ whole') where
  sublist := first.sublist.append second.sublist
  others := by rw [List.filter_append, List.filter_append, first.others, second.others]

theorem withoutReturns (chars : List Char) : OmitsReturns (withoutReturns chars).toList chars where
  sublist := by
    rw [Script.withoutReturns, String.toList_ofList]
    exact List.filter_sublist
  others := by simp [Script.withoutReturns]

/-- Where there are no carriage returns nothing is left out. -/
theorem eq (omits : OmitsReturns part whole) (free : '\r' ∉ whole) : part = whole := by
  have kept {chars : List Char} (free : '\r' ∉ chars) : chars.filter (· != '\r') = chars := by
    rw [List.filter_eq_self]
    intro c member
    exact bne_iff_ne.mpr fun same => free (same ▸ member)
  rw [← kept free, ← omits.others, kept fun member => free (omits.sublist.subset member)]

end OmitsReturns

/-- The spelling of a token is what it was in the text. -/
theorem Spells.spelling {kind : Option Kind} {chars : List Char} (spells : Spells kind chars) :
    OmitsReturns ((kind.map Kind.spelling).getD []) chars := by
  cases spells with
  | space | lineComment => exact .withoutReturns chars
  | return_ => exact ⟨List.nil_sublist _, rfl⟩
  | blockComment body =>
    simpa [Kind.spelling, String.toList_append] using OmitsReturns.refl _
  | word | number | quoted | template | regex | sign | newline =>
    simpa [Kind.spelling] using OmitsReturns.refl _

theorem tokensFrom_spelling {line : Nat} {last : Option Kind} {chars : List Char} {found : List Token}
    (read : tokensFrom line last chars = .ok found) : OmitsReturns (sourceText found) chars := by
  fun_induction tokensFrom line last chars generalizing found with
  | case1 =>
    cases read
    exact .refl []
  | case2 => cases read
  | case3 line last c rest piece cutOff none_ ih =>
    obtain ⟨front, same, spells⟩ := cut_spells cutOff
    rw [none_] at spells
    rw [same]
    exact spells.spelling.append (ih read)
  | case4 line last c rest piece cutOff kind some_ next =>
    rename_i ih
    obtain ⟨front, same, spells⟩ := cut_spells cutOff
    rw [some_] at spells
    cases inner : tokensFrom (line + piece.breaks) next piece.rest with
    | error error =>
      rw [inner] at read
      cases read
    | ok more =>
      rw [inner] at read
      cases read
      rw [same, sourceText_cons]
      exact spells.spelling.append (ih inner)

theorem tokens_spelling {script : String} {found : List Token} (read : tokens script = .ok found) :
    OmitsReturns (sourceText found) script.toList :=
  tokensFrom_spelling read

/-- The spellings of the tokens of a script are the script. If it has carriage returns, some of them may
be missing, and nothing else. -/
theorem tokens_lossless {script : String} {found : List Token} (read : tokens script = .ok found) :
    OmitsReturns (sourceText found) script.toList ∧
      ('\r' ∉ script.toList → String.ofList (sourceText found) = script) := by
  have omits := tokens_spelling read
  refine ⟨omits, fun free => ?_⟩
  rw [omits.eq free, String.ofList_toList]

/-- A regular expression and a string with a quote in it are cut off where they end. -/
theorem tokens_lossless_escapes :
    tokens "/[/]\\//g+'\\''" = .ok [⟨.regex "[/]\\/".toList ['g'], 1⟩, ⟨.sign "+", 1⟩,
        ⟨.quoted "\\'".toList '\'', 1⟩] ∧
      '\r' ∉ "/[/]\\//g+'\\''".toList ∧
      String.ofList (sourceText [⟨.regex "[/]\\/".toList ['g'], 1⟩, ⟨.sign "+", 1⟩,
        ⟨.quoted "\\'".toList '\'', 1⟩]) = "/[/]\\//g+'\\''" := by
  have read : tokens "/[/]\\//g+'\\''" = .ok [⟨.regex "[/]\\/".toList ['g'], 1⟩, ⟨.sign "+", 1⟩,
      ⟨.quoted "\\'".toList '\'', 1⟩] := by decide +kernel
  have free : '\r' ∉ "/[/]\\//g+'\\''".toList := by decide
  exact ⟨read, free, (tokens_lossless read).2 free⟩

end ApiProbe.Script
