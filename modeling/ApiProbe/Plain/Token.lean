import ApiProbe.Decimal.Reading
import ApiProbe.Text.Blank

/-!
Tokens of the plain script language: words, signs, numbers and texts, each with its place. A
template is cut at its placeholders, whose code is cut into tokens like any other. A character
sequence that is no token ends the list, with the reason.
-/
namespace ApiProbe.Plain

/-- A line and a column, both counted from one. -/
structure Position where
  line : Nat
  column : Nat
  deriving Repr, DecidableEq, Inhabited

namespace Position

def start : Position := ⟨1, 1⟩

/-- The place behind a character. -/
def after (place : Position) (c : Char) : Position :=
  if c == '\n' then ⟨place.line + 1, 1⟩ else { place with column := place.column + 1 }

def afterAll (place : Position) (chars : List Char) : Position := chars.foldl after place

def describe (place : Position) : String := s!"line {place.line}, position {place.column}"

end Position

/-- Why characters are no token. -/
inductive LexicalFault
  | strangeInput (text : String)
  | badEscape (text : String)
  | badNumber (text : String)
  | badName (text : String)
  | badCharacter (text : String)
  | unterminated
  deriving Repr, DecidableEq

def LexicalFault.reason : LexicalFault → String
  | .strangeInput text => s!"Unexpected '{text}'"
  | .badEscape text => s!"Invalid escape sequence: '{text}'"
  | .badNumber text => s!"Invalid number: '{text}'"
  | .badName text => s!"Invalid identifier: {text}"
  | .badCharacter text => s!"Invalid character: '{text}'"
  | .unterminated => "Open string is not terminated"

inductive Token
  | word (name : String)
  | sign (text : String)
  | int (value : Int)
  | float (value : Float)
  | char (value : Char)
  | text (value : String)
  /-- A piece of a template; a placeholder follows if the template goes on. -/
  | template (value : String) (goesOn : Bool)
  | bad (fault : LexicalFault)
  | finish

structure Lexeme where
  token : Token
  place : Position

/-- Signs, longer ones before those they start with. -/
def signs : List String :=
  ["===", "!==", "...", "..=", "**=", "<<=", ">>=", "::<", "()", "(*", "*)", "#\x7b", "#!", "+=",
    "++", "-=", "->", "--", "*=", "**", "/=", "..", "==", "=>", "::", ":=", ":;", "<=", "<-", "<<",
    "<|", ">=", ">>", "!=", "!.", "||", "|=", "|>", "&&", "&=", "^=", "%=", "??", "?.", "?[",
    "\x7b", "\x7d", "(", ")", "[", "]", "#", "+", "-", "*", "/", ";", ",", ".", "=", ":", "<", ">",
    "!", "|", "&", "^", "~", "%", "@", "$", "?"]

/-- Signs behind which a minus in front of a digit belongs to the number. -/
def signsBeforeNumber : List String :=
  [";", ":", ",", "??", "..", "..=", "\x7b", "(", "[", "+", "+=", "-", "-=", "*", "*=", "/", "/=",
    "%", "%=", "**", "**=", "<<", "<<=", ">>", ">>=", "&", "&=", "|", "|=", "^", "^=", "=", "==",
    "!=", "<", "<=", ">", ">=", "!", "||", "&&"]

def wordsBeforeNumber : List String := ["if", "while", "until", "in", "return", "throw"]

/-- Whether a minus in front of a digit belongs to the number, behind a token. -/
def Token.mayPrecedeNumber : Token → Bool
  | .sign mark => signsBeforeNumber.contains mark
  | .word name => wordsBeforeNumber.contains name
  | _ => false

def isNameStart (c : Char) : Bool := c.isAlpha || c == '_'

def isNamePart (c : Char) : Bool := c.isAlphanum || c == '_'

/-- A name has a letter, and no digit before it. A single underscore is no name, but it is a word. -/
def isName (chars : List Char) : Bool :=
  ((chars.find? fun c => c != '_').map Char.isAlpha).getD false

/-- Value of a hexadecimal digit. -/
def hexValue? (c : Char) : Option Nat :=
  let code := c.toNat
  if c.isDigit then some (code - 48)
  else if 'a' ≤ c && c ≤ 'f' then some (code - 87)
  else if 'A' ≤ c && c ≤ 'F' then some (code - 55)
  else none

/-- Value of digits to a base. -/
def digitsValue? (base : Nat) (digits : List Char) : Option Nat :=
  digits.foldl (fun value c => do
    let n ← value
    let digit ← hexValue? c
    if digit < base then some (n * base + digit) else none) (some 0)

/-- The base that a letter behind a zero stands for. -/
def baseOf? (c : Char) : Option Nat :=
  match c.toLower with
  | 'x' => some 16
  | 'o' => some 8
  | 'b' => some 2
  | _ => none

/-- An integer of 64 bits without a sign, read as one with a sign. -/
def wrapped64 (n : Nat) : Int :=
  if n < Nat.pow 2 63 then Int.ofNat n else Int.ofNat n - Nat.pow 2 64

/-- A number in another base than ten, behind its mark. -/
def basedNumber (base : Nat) (negative : Bool) (mark digits : List Char) : Token :=
  let kept := digits.filter (· != '_')
  match if kept.isEmpty then none else digitsValue? base kept with
  | some n =>
    if n < Nat.pow 2 64 then
      let value := wrapped64 n
      .int (if negative then -value else value)
    else .bad (.badNumber (String.ofList (mark ++ digits)))
  | none => .bad (.badNumber (String.ofList (mark ++ digits)))

/-- The rest of a decimal number behind its whole part: a fraction, and an exponent. What belongs to
it comes first. A point with no digit behind it belongs to the number unless a name or another point
follows. -/
def fractionOf : List Char → List Char × List Char
  | '.' :: rest =>
    match rest with
    | c :: _ =>
      if c.isDigit then
        let isDigit (c : Char) : Bool := c.isDigit || c == '_'
        ('.' :: rest.takeWhile isDigit, rest.dropWhile isDigit)
      else if c == '.' || isNameStart c then ([], '.' :: rest)
      else (['.', '0'], rest)
    | [] => (['.', '0'], [])
  | rest => ([], rest)

def exponentOf : List Char → List Char × List Char
  | e :: rest =>
    if e == 'e' || e == 'E' then
      let isDigit (c : Char) : Bool := c.isDigit || c == '_'
      match rest with
      | c :: more =>
        if c.isDigit then (e :: rest.takeWhile isDigit, rest.dropWhile isDigit)
        else if c == '+' || c == '-' then
          (e :: c :: more.takeWhile isDigit, more.dropWhile isDigit)
        else ([], e :: rest)
      | [] => ([], [e])
    else ([], e :: rest)
  | [] => ([], [])

/-- The value of a decimal number: an integer if it is one of 64 bits, else a float. -/
def decimalNumber (chars : List Char) : Token :=
  let kept := chars.filter (· != '_')
  match Decimal.readInt64? kept with
  | some n => .int n
  | none =>
    match Decimal.readFloat? kept with
    | some x => .float x
    | none => .bad (.badNumber (String.ofList chars))

/-- A number at the start of a text, the characters it takes, and what follows. -/
def number (negative : Bool) (chars : List Char) : Token × List Char × List Char :=
  let sign := if negative then ['-'] else []
  let isDigit (c : Char) : Bool := c.isDigit || c == '_'
  let decimal :=
    let whole := chars.takeWhile isDigit
    let (fraction, afterFraction) := fractionOf (chars.dropWhile isDigit)
    let (exponent, rest) := exponentOf afterFraction
    let taken := whole ++ fraction ++ exponent
    (decimalNumber (sign ++ taken), taken, rest)
  match chars with
  | '0' :: mark :: more =>
    match baseOf? mark with
    | some base =>
      let fits (c : Char) : Bool := c == '_' || ((hexValue? c).map (Nat.blt · base)).getD false
      if (more.head?.map fits).getD false then
        let digits := more.takeWhile fits
        (basedNumber base negative ['0', mark] digits, '0' :: mark :: digits, more.dropWhile fits)
      else decimal
    | none => decimal
  | _ => decimal

/-- The character of an escape by code: so many hexadecimal digits. -/
def escapedCode? (digits : Nat) (chars : List Char) : Option Char := do
  let taken := chars.take digits
  let code ← if taken.length == digits then digitsValue? 16 taken else none
  if code.isValidChar then some (Char.ofNat code) else none

/-- Digits that follow the letter of an escape by code. -/
def escapeDigits? : Char → Option Nat
  | 'x' => some 2
  | 'u' => some 4
  | 'U' => some 8
  | _ => none

/-- What stands for itself behind a backslash, or for a control character. -/
def escapedChar? : Char → Option Char
  | 'n' => some '\n'
  | 't' => some '\t'
  | 'r' => some '\r'
  | '\\' => some '\\'
  | _ => none

/-- The digits of a wrong escape by code, up to the first character that is none. -/
def wrongDigits (digits : Nat) (chars : List Char) : List Char :=
  let taken := chars.take digits
  taken.take ((taken.takeWhile fun c => (hexValue? c).isSome).length + 1)

/-- The text of a string up to its closing quote, and what follows. A quote that is written twice
stands for itself. A string in double quotes that starts in column `start` goes on behind a backslash
at the end of a line; on the next line it leaves out the blanks up to that column. `column` is that of
the next character, and blanks in front of the column `margin` are left out. -/
def stringBody (quote : Char) (start column margin : Nat) (done : List Char) :
    List Char → Except LexicalFault (List Char × List Char)
  | [] => .error .unterminated
  | '\n' :: _ => .error .unterminated
  | '\\' :: '\n' :: rest =>
    if quote == '"' then stringBody quote start 1 (start + 1) done rest else .error .unterminated
  | '\\' :: c :: rest =>
    match escapeDigits? c with
    | some digits =>
      match escapedCode? digits rest with
      | some value =>
        stringBody quote start (column + 2 + digits) margin (value :: done) (rest.drop digits)
      | none => .error (.badEscape (String.ofList ('\\' :: c :: wrongDigits digits rest)))
    | none =>
      match if c == quote then some c else escapedChar? c with
      | some value => stringBody quote start (column + 2) margin (value :: done) rest
      | none => .error (.badEscape (String.ofList ['\\', c]))
  | [c] => if c == quote then .ok (done.reverse, []) else .error .unterminated
  | c :: next :: rest =>
    if c == quote then
      if next == quote then stringBody quote start (column + 2) 0 (c :: done) rest
      else .ok (done.reverse, next :: rest)
    else if Text.isBlank c && column < margin then
      stringBody quote start (column + 1) margin done (next :: rest)
    else stringBody quote start (column + 1) 0 (c :: done) (next :: rest)
termination_by chars => chars.length
decreasing_by
  all_goals simp only [List.length_cons, List.length_drop]
  all_goals omega

/-- A piece of a template: its text, the characters it takes with its end, what follows, and whether
a placeholder comes next. A back tick that is written twice stands for itself. -/
def templateBody (done taken : List Char) :
    List Char → Option (List Char × List Char × List Char × Bool)
  | [] => none
  | '$' :: '{' :: rest => some (done.reverse, ('$' :: taken).reverse, '{' :: rest, true)
  | [c] => if c.toNat == 96 then some (done.reverse, (c :: taken).reverse, [], false) else none
  | c :: next :: rest =>
    if c.toNat == 96 then
      if next.toNat == 96 then templateBody (c :: done) (next :: c :: taken) rest
      else some (done.reverse, (c :: taken).reverse, next :: rest, false)
    else templateBody (c :: done) (c :: taken) (next :: rest)

/-- What follows a block comment, in which `depth` comments are open, and the place of it. -/
def afterComment (place : Position) : Nat → List Char → Position × List Char
  | _, [] => (place, [])
  | depth, '*' :: '/' :: rest =>
    let behind := place.afterAll ['*', '/']
    if depth ≤ 1 then (behind, rest) else afterComment behind (depth - 1) rest
  | depth, '/' :: '*' :: rest => afterComment (place.afterAll ['/', '*']) (depth + 1) rest
  | depth, c :: rest => afterComment (place.after c) depth rest

/-- Where the reader of tokens stands. Every open template has the number of braces that are open in
its placeholder. -/
structure Cursor where
  place : Position
  last : Option Token
  templates : List Nat

namespace Cursor

def start : Cursor := ⟨.start, none, []⟩

/-- The cursor behind a token that takes some characters. -/
def pass (cursor : Cursor) (token : Token) (taken : List Char) : Cursor :=
  { cursor with place := cursor.place.afterAll taken, last := some token }

/-- Counts the braces of a placeholder. The flag says that the placeholder ends. -/
def brace (cursor : Cursor) (sign : String) : Cursor × Bool :=
  match cursor.templates with
  | [] => (cursor, false)
  | depth :: outer =>
    if sign == "\x7b" || sign == "#\x7b" then ({ cursor with templates := (depth + 1) :: outer }, false)
    else if sign == "\x7d" then
      if depth ≤ 1 then ({ cursor with templates := outer }, true)
      else ({ cursor with templates := (depth - 1) :: outer }, false)
    else (cursor, false)

/-- Whether a minus in front of a digit belongs to the number. -/
def takesMinus (cursor : Cursor) : Bool := (cursor.last.map Token.mayPrecedeNumber).getD true

end Cursor

mutual

/-- The tokens of a text. The number bounds the steps; a step takes at least one character. -/
def lexemes : Nat → Cursor → List Char → List Lexeme
  | 0, cursor, _ => [⟨.finish, cursor.place⟩]
  | _ + 1, cursor, [] => [⟨.finish, cursor.place⟩]
  | steps + 1, cursor, c :: rest =>
    let chars := c :: rest
    let give (token : Token) (taken after : List Char) : List Lexeme :=
      ⟨token, cursor.place⟩ :: lexemes steps (cursor.pass token taken) after
    let fail (fault : LexicalFault) : List Lexeme := [⟨.bad fault, cursor.place⟩]
    if Text.isBlank c then lexemes steps { cursor with place := cursor.place.after c } rest
    else if c == '/' && rest.head? == some '/' then
      let line := chars.takeWhile (· != '\n')
      lexemes steps { cursor with place := cursor.place.afterAll line } (chars.dropWhile (· != '\n'))
    else if c == '/' && rest.head? == some '*' then
      let (place, after) := afterComment (cursor.place.afterAll ['/', '*']) 1 (rest.drop 1)
      lexemes steps { cursor with place } after
    else if c == '"' then
      match stringBody c cursor.place.column (cursor.place.column + 1) 0 [] rest with
      | .ok (value, after) =>
        give (.text (String.ofList value)) (chars.take (chars.length - after.length)) after
      | .error fault => fail fault
    else if c == '\'' then
      match stringBody c cursor.place.column (cursor.place.column + 1) 0 [] rest with
      | .ok ([value], after) => give (.char value) (chars.take (chars.length - after.length)) after
      | .ok (value, _) => fail (.badCharacter (String.ofList value))
      | .error fault => fail fault
    else if c.toNat == 96 then
      let firstBreak := rest.head? == some '\n' || rest.head? == some '\r'
      templatePiece steps cursor (if firstBreak then ['\n', c] else [c])
        (if firstBreak then rest.drop 1 else rest)
    else if c.isDigit then
      let (token, taken, after) := number false chars
      give token taken after
    else if c == '-' && (rest.head?.map Char.isDigit).getD false && cursor.takesMinus then
      let (token, taken, after) := number true rest
      give token (c :: taken) after
    else if isNameStart c then
      let name := chars.takeWhile isNamePart
      let token : Token :=
        if isName name || name == ['_'] then .word (String.ofList name)
        else .bad (.badName (String.ofList name))
      give token name (chars.dropWhile isNamePart)
    else
      match signs.find? fun sign => sign.toList.isPrefixOf chars with
      | some sign =>
        let taken := sign.toList
        let (counted, ends) := cursor.brace sign
        let behind := counted.pass (.sign sign) taken
        let after := chars.drop taken.length
        ⟨.sign sign, cursor.place⟩
          :: (if ends then templatePiece steps behind [] after else lexemes steps behind after)
      | none => fail (.strangeInput (String.singleton c))

/-- The tokens from inside a template on. `taken` holds what stands before its text, last character
first. -/
def templatePiece : Nat → Cursor → List Char → List Char → List Lexeme
  | 0, cursor, _, _ => [⟨.finish, cursor.place⟩]
  | steps + 1, cursor, taken, chars =>
    match templateBody [] taken chars with
    | some (value, consumed, after, goesOn) =>
      let token : Token := .template (String.ofList value) goesOn
      let behind := cursor.pass token consumed
      let opened := if goesOn then { behind with templates := 0 :: behind.templates } else behind
      ⟨token, cursor.place⟩ :: lexemes steps opened after
    | none => [⟨.bad .unterminated, cursor.place⟩]

end

/-- Leaves out the carriage returns in front of line breaks. -/
def withoutReturns : List Char → List Char
  | '\r' :: '\n' :: rest => '\n' :: withoutReturns rest
  | c :: rest => c :: withoutReturns rest
  | [] => []

/-- The tokens of a script; the last one is the finish or a bad token. -/
def Lexeme.ofText (script : String) : List Lexeme :=
  let chars := withoutReturns script.toList
  lexemes (2 * chars.length + 2) .start chars

end ApiProbe.Plain
