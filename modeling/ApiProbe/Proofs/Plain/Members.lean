import ApiProbe.Plain.Reader
import ApiProbe.Proofs.Text.Trimming
import Mathlib.Tactic.Tauto

/-!
Chains of members in the plain language, and scripts that read one member of the response by its name.
Such a name is read as that of a property if it has a letter with no digit before it and is no word of the
language.
-/
namespace ApiProbe.Plain
variable {c : Char} {rest after : List Char} {name : String} {steps : Nat} {cursor : Cursor}

/-- Letters, digits and underscores of ASCII, with no digit in front. -/
def isIdentifier (name : String) : Bool :=
  match name.toList with
  | [] => false
  | c :: rest => isNameStart c && rest.all isNamePart

/-- Identifiers that may stand behind a point. -/
def isMemberName (name : String) : Bool :=
  isName name.toList && !keywords.contains name && !isReserved name && name != "this"

section Names

theorem isIdentifier_iff : isIdentifier name = true ↔
    ∃ c rest, name.toList = c :: rest ∧ isNameStart c = true ∧ ∀ d ∈ rest, isNamePart d = true := by
  unfold isIdentifier
  split
  · simp_all
  · rename_i c rest spelled
    simp only [Bool.and_eq_true, List.all_eq_true, spelled, List.cons.injEq]
    constructor
    · exact fun both => ⟨c, rest, ⟨rfl, rfl⟩, both⟩
    · rintro ⟨_, _, ⟨rfl, rfl⟩, both⟩
      exact both

theorem isNameStart_iff : isNameStart c = true ↔
    (65 ≤ c.toNat ∧ c.toNat ≤ 90 ∨ 97 ≤ c.toNat ∧ c.toNat ≤ 122) ∨ c.toNat = 95 := by
  rw [isNameStart, Bool.or_eq_true, Text.isAlpha_iff, beq_iff_eq, Char.ext_iff, ← UInt32.toNat_inj]
  rfl

theorem isNamePart_iff : isNamePart c = true ↔
    isNameStart c = true ∨ 48 ≤ c.toNat ∧ c.toNat ≤ 57 := by
  simp only [isNamePart, isNameStart, Char.isAlphanum, Bool.or_eq_true, Text.isDigit_iff]
  tauto

theorem ne_of_isNameStart (start : isNameStart c = true) {d : Char} (other : isNameStart d = false) :
    (c == d) = false := by
  rw [beq_eq_false_iff_ne]
  rintro rfl
  exact absurd start (by simp [other])

theorem isBlank_of_isNameStart (start : isNameStart c = true) : Text.isBlank c = false := by
  have code := isNameStart_iff.mp start
  rw [Text.isBlank, ne_of_isNameStart start (by decide)]
  simp only [Bool.or_eq_false_iff, Bool.and_eq_false_iff, decide_eq_false_iff_not, beq_eq_false_iff_ne,
    true_and]
  omega

theorem isDigit_of_isNameStart (start : isNameStart c = true) : c.isDigit = false := by
  have code := isNameStart_iff.mp start
  rw [← Bool.not_eq_true, Text.isDigit_iff]
  omega

theorem tick_of_isNameStart (start : isNameStart c = true) : (c.toNat == 96) = false := by
  have code := isNameStart_iff.mp start
  rw [beq_eq_false_iff_ne]
  omega

end Names

section Lexemes

/-- The token of an identifier, which is bad without a letter in front of the digits. -/
def nameToken (name : String) : Token :=
  if isName name.toList || name.toList == ['_'] then .word name else .bad (.badName name)

theorem withoutReturns_eq_self {chars : List Char} (free : ∀ c ∈ chars, c ≠ '\r') :
    withoutReturns chars = chars := by
  induction chars with
  | nil => rfl
  | cons c rest ih =>
    obtain ⟨first, later⟩ := List.forall_mem_cons.mp free
    unfold withoutReturns
    split
    · rename_i same
      exact absurd (List.cons.inj same).1 first
    · rename_i same
      cases same
      rw [ih later]
    · rename_i same
      cases same

theorem lexemes_name (identifier : isIdentifier name = true) (ends : after.head?.any isNamePart = false) :
    lexemes (steps + 1) cursor (name.toList ++ after) =
      ⟨nameToken name, cursor.place⟩ :: lexemes steps (cursor.pass (nameToken name) name.toList) after := by
  obtain ⟨c, rest, spelled, start, part⟩ := isIdentifier_iff.mp identifier
  have whole : String.ofList (c :: rest) = name := by rw [← spelled, String.ofList_toList]
  have inside : ∀ d ∈ c :: rest, isNamePart d = true := by
    simpa [isNamePart_iff.mpr (.inl start)] using part
  have boundary : ∀ d, after.head? = some d → isNamePart d = false := fun d first => by
    simpa [first] using ends
  obtain ⟨taken, left⟩ := Text.span_of_boundary isNamePart inside boundary
  have slash := ne_of_isNameStart start (d := '/') (by decide)
  have minus := ne_of_isNameStart start (d := '-') (by decide)
  have double := ne_of_isNameStart start (d := '"') (by decide)
  have single := ne_of_isNameStart start (d := '\'') (by decide)
  rw [List.cons_append] at taken left
  simp only [spelled, List.cons_append, lexemes, isBlank_of_isNameStart start, slash, minus, double, single,
    tick_of_isNameStart start, isDigit_of_isNameStart start, start, taken, left, whole, nameToken,
    Bool.false_and, Bool.false_eq_true, if_false, if_true]

/-- Only braces count for the texts that are around the reader. -/
theorem Cursor.brace_other {sign : String} (other : sign ∉ ["\x7b", "#\x7b", "\x7d"]) :
    cursor.brace sign = (cursor, false) := by
  unfold brace
  split <;> simp_all

theorem lexemes_point (identifier : isIdentifier name = true) :
    lexemes (steps + 1) cursor ('.' :: (name.toList ++ after)) =
      ⟨.sign ".", cursor.place⟩ :: lexemes steps (cursor.pass (.sign ".") ['.']) (name.toList ++ after) := by
  obtain ⟨c, rest, spelled, start, -⟩ := isIdentifier_iff.mp identifier
  have other : ('.' == c) = false := by
    rw [Bool.beq_comm]
    exact ne_of_isNameStart start (by decide)
  have blank : Text.isBlank '.' = false := by decide
  have letter : isNameStart '.' = false := by decide
  have found : signs.find? (fun sign => sign.toList.isPrefixOf ('.' :: c :: (rest ++ after))) = some "." := by
    simp [signs, List.isPrefixOf, other]
  rw [spelled]
  simp [lexemes, found, Cursor.brace_other, blank, letter]

theorem lexemes_call : lexemes (steps + 1) cursor ('(' :: ')' :: after) =
    ⟨.sign "()", cursor.place⟩ :: lexemes steps (cursor.pass (.sign "()") ['(', ')']) after := by
  have blank : Text.isBlank '(' = false := by decide
  have letter : isNameStart '(' = false := by decide
  have found : signs.find? (fun sign => sign.toList.isPrefixOf ('(' :: ')' :: after)) = some "()" := by
    simp [signs, List.isPrefixOf]
  simp [lexemes, found, Cursor.brace_other, blank, letter]

end Lexemes

section Reading
variable {α β : Type} {lexeme next : Lexeme} {lexemes : List Lexeme} {made : Made} {sign : String}
  {place mark : Position}

namespace Reader

theorem bind_of_error {first : Reader α} {then_ : α → Reader β} {source : Source} {error : ReadError}
    (read : first source = .error error) : (first >>= then_) source = .error error := by
  change Except.bind (first source) _ = _
  rw [read]
  rfl

theorem bind_of_ok {first : Reader α} {then_ : α → Reader β} {source behind : Source} {value : α}
    (read : first source = .ok (value, behind)) : (first >>= then_) source = then_ value behind := by
  change Except.bind (first source) _ = _
  rw [read]
  rfl

theorem peek_cons : peek ⟨lexeme :: lexemes, made⟩ = .ok (lexeme, ⟨lexeme :: lexemes, made⟩) := rfl

theorem skip_cons : skip ⟨lexeme :: lexemes, made⟩ = .ok ((), ⟨lexemes, made⟩) := rfl

theorem takes_sign :
    takes sign ⟨⟨.sign sign, place⟩ :: lexemes, made⟩ = .ok (true, ⟨lexemes, made⟩) := by
  rw [takes, bind_of_ok peek_cons]
  simp only [beq_self_eq_true, if_true]
  rw [bind_of_ok skip_cons]
  rfl

theorem takes_other (other : lexeme.token ≠ .sign sign) : takes sign ⟨lexeme :: lexemes, made⟩ =
    .ok (false, ⟨lexeme :: lexemes, made⟩) := by
  obtain ⟨token, place⟩ := lexeme
  rw [takes, bind_of_ok peek_cons]
  cases token with
  | sign text =>
    have apart : (text == sign) = false :=
      beq_eq_false_iff_ne.mpr fun same => other (congrArg Token.sign same)
    simp only [apart, Bool.false_eq_true, if_false]
    rfl
  | _ => rfl

theorem comes_other (other : lexeme.token ≠ .sign sign) : comes sign ⟨lexeme :: lexemes, made⟩ =
    .ok (false, ⟨lexeme :: lexemes, made⟩) := by
  obtain ⟨token, place⟩ := lexeme
  rw [comes, bind_of_ok peek_cons]
  cases token with
  | sign text =>
    have apart : (text == sign) = false :=
      beq_eq_false_iff_ne.mpr fun same => other (congrArg Token.sign same)
    simp only [apart]
    rfl
  | _ => rfl

/-- A refusal is about the next token. -/
theorem refuse_cons (fault : ReadFault) : ∃ other,
    (refuse fault : Reader α) ⟨lexeme :: lexemes, made⟩ = .error ⟨other, lexeme.place⟩ := by
  obtain ⟨token, place⟩ := lexeme
  rw [refuse, bind_of_ok peek_cons]
  cases token <;> exact ⟨_, rfl⟩

end Reader

section Links
open Reader
variable {setting : Setting} {start : Position} {root : Expr} {read : List Link} {fuel : Nat}

/-- A setting one level further down, which there may not be. -/
def Setting.down (setting : Setting) : Setting := { setting with level := setting.level + 1 }

@[simp] theorem Setting.down_level (setting : Setting) : setting.down.level = setting.level + 1 := rfl

@[simp] theorem Setting.down_deepest (setting : Setting) : setting.down.deepest = setting.deepest := rfl

theorem deeper_of_lt {source : Source} (deep : setting.level < setting.deepest) :
    setting.deeper source = .ok (setting.down, source) := by
  rw [Setting.deeper, if_neg (Nat.not_le.mpr deep)]
  rfl

theorem opening_none (empty : lexeme.token ≠ .sign "()") (args : lexeme.token ≠ .sign "(") :
    opening ⟨lexeme :: lexemes, made⟩ = .ok (.none, ⟨lexeme :: lexemes, made⟩) := by
  rw [opening, bind_of_ok (takes_other empty)]
  simp only [Bool.false_eq_true, if_false]
  rw [bind_of_ok (takes_other args)]
  rfl

theorem opening_empty :
    opening ⟨⟨.sign "()", mark⟩ :: lexemes, made⟩ = .ok (.empty, ⟨lexemes, made⟩) := by
  rw [opening, bind_of_ok takes_sign]
  rfl

/-- Behind a point stands the name of a property, if no call follows it. -/
theorem links_property (deep : setting.level < setting.deepest) (fits : isMemberName name = true)
    (empty : next.token ≠ .sign "()") (args : next.token ≠ .sign "(") :
    links setting start root read (fuel + 1)
        ⟨⟨.sign ".", mark⟩ :: ⟨nameToken name, place⟩ :: next :: lexemes, made⟩ =
      links setting.down start root (.property name false place :: read) fuel
        ⟨next :: lexemes, made⟩ := by
  simp only [isMemberName, Bool.and_eq_true, Bool.not_eq_true', bne_iff_ne] at fits
  obtain ⟨⟨⟨letter, word⟩, free⟩, this_⟩ := fits
  rw [nameToken, if_pos (by rw [letter, Bool.true_or]), links, bind_of_ok (takes_other (by simp))]
  simp only [Bool.false_eq_true, if_false]
  rw [bind_of_ok takes_sign]
  simp only [if_true]
  rw [bind_of_ok (deeper_of_lt deep), bind_of_ok peek_cons]
  simp only [word, Bool.false_eq_true, if_false]
  rw [bind_of_ok skip_cons, bind_of_ok (opening_none empty args)]
  simp only [free, beq_eq_false_iff_ne.mpr this_, Bool.or_false, Bool.false_eq_true, if_false]

/-- Other names are refused, also where no call follows. -/
theorem links_refused (deep : setting.level < setting.deepest) (unfit : isMemberName name = false)
    (empty : next.token ≠ .sign "()") (args : next.token ≠ .sign "(") :
    ∃ fault, links setting start root read (fuel + 1)
        ⟨⟨.sign ".", mark⟩ :: ⟨nameToken name, place⟩ :: next :: lexemes, made⟩ =
      .error ⟨fault, place⟩ := by
  rw [links, bind_of_ok (takes_other (by simp))]
  simp only [Bool.false_eq_true, if_false]
  rw [bind_of_ok takes_sign]
  simp only [if_true]
  rw [bind_of_ok (deeper_of_lt deep), bind_of_ok peek_cons]
  by_cases spelled : (isName name.toList || name.toList == ['_']) = true
  · rw [nameToken, if_pos spelled]
    by_cases word : keywords.contains name = true
    · simp only [word, if_true]
      exact refuse_cons _
    simp only [word, Bool.false_eq_true, if_false]
    rw [bind_of_ok skip_cons, bind_of_ok (opening_none empty args)]
    have absent : name ∉ keywords := by simpa using word
    have letter : isName name.toList = true := by
      rcases Bool.or_eq_true _ _ ▸ spelled with letter | single
      · exact letter
      · have same : name = "_" := String.toList_inj.mp (beq_iff_eq.mp single)
        exact absurd (same ▸ List.mem_cons_self) absent
    have taken : (isReserved name || name == "this") = true := by
      simpa [isMemberName, letter, absent, imp_iff_not_or, or_comm] using unfit
    simp only [taken, if_true]
    exact ⟨_, rfl⟩
  · rw [nameToken, if_neg spelled]
    exact refuse_cons _

/-- A method that is called without arguments. -/
theorem links_method {behind : Position} (deep : setting.level < setting.deepest)
    (fits : isMemberName name = true) :
    links setting start root read (fuel + 1)
        ⟨⟨.sign ".", mark⟩ :: ⟨nameToken name, place⟩ :: ⟨.sign "()", behind⟩ :: lexemes, made⟩ =
      links setting.down start root (.method name [] false place :: read) fuel ⟨lexemes, made⟩ := by
  simp only [isMemberName, Bool.and_eq_true, Bool.not_eq_true', bne_iff_ne] at fits
  obtain ⟨⟨⟨letter, word⟩, free⟩, -⟩ := fits
  rw [nameToken, if_pos (by rw [letter, Bool.true_or]), links, bind_of_ok (takes_other (by simp))]
  simp only [Bool.false_eq_true, if_false]
  rw [bind_of_ok takes_sign]
  simp only [if_true]
  rw [bind_of_ok (deeper_of_lt deep), bind_of_ok peek_cons]
  simp only [word, Bool.false_eq_true, if_false]
  rw [bind_of_ok skip_cons, bind_of_ok opening_empty]
  simp only [free, Bool.false_and, Bool.false_eq_true, if_false]
  rfl

/-- A chain ends in front of what is no sign. -/
theorem links_end {last : Link} (other : ∀ text, lexeme.token ≠ .sign text) :
    links setting start root (last :: read) (fuel + 1) ⟨lexeme :: lexemes, made⟩ =
      .ok (.chain root (last :: read).reverse, ⟨lexeme :: lexemes, made⟩) := by
  rw [links, bind_of_ok (takes_other (other "?."))]
  simp only [Bool.false_eq_true, if_false]
  rw [bind_of_ok (takes_other (other ".")), if_neg Bool.false_ne_true, bind_of_ok peek_cons,
    bind_of_ok (takes_other (other "?["))]
  simp only [Bool.false_eq_true, if_false]
  rw [bind_of_ok (takes_other (other "["))]
  rfl

end Links

section Statements
open Reader
variable {setting : Setting} {fuel : Nat} {value : Expr} {finish : Position} {error : ReadError}

/-- The names of properties are those of variables, too. -/
theorem primary_variable (fits : isMemberName name = true) (colons : next.token ≠ .sign "::")
    (empty : next.token ≠ .sign "()") (args : next.token ≠ .sign "(") :
    primary setting (fuel + 2) ⟨⟨.word name, place⟩ :: next :: lexemes, made⟩ =
      .ok (.variable_ name place, ⟨next :: lexemes, made⟩) := by
  obtain ⟨⟨⟨-, word⟩, free⟩, this_⟩ := by
    simpa only [isMemberName, Bool.and_eq_true, Bool.not_eq_true', bne_iff_ne] using fits
  rw [primary, bind_of_ok peek_cons]
  simp only [wordExpression]
  split
  case h_9 => exact absurd rfl this_
  case h_10 =>
    simp only [word, Bool.false_eq_true, if_false]
    rw [bind_of_ok skip_cons, bind_of_ok (comes_other colons)]
    simp only [Bool.false_eq_true, if_false]
    rw [bind_of_ok (opening_none empty args)]
    simp only [free, Bool.false_eq_true, if_false]
    rfl
  -- The other words begin something else, and are words of the language.
  all_goals exact absurd word (by decide)

/-- A variable in front of a point is the root of a chain. -/
theorem unary_root (fits : isMemberName name = true) :
    unary setting (fuel + 3) ⟨⟨.word name, place⟩ :: ⟨.sign ".", mark⟩ :: lexemes, made⟩ =
      links setting place (.variable_ name place) [] (fuel + 2) ⟨⟨.sign ".", mark⟩ :: lexemes, made⟩ := by
  rw [unary, bind_of_ok peek_cons, bind_of_ok (takes_other (by simp)), if_neg Bool.false_ne_true,
    bind_of_ok (takes_other (by simp)), if_neg Bool.false_ne_true, bind_of_ok (takes_other (by simp)),
    if_neg Bool.false_ne_true, bind_of_ok (primary_variable fits (by simp) (by simp) (by simp))]

theorem binary_finish {floor : Nat} {start : Position} :
    binary setting (floor + 1) start value (fuel + 1) ⟨⟨.finish, finish⟩ :: lexemes, made⟩ =
      .ok (value, ⟨⟨.finish, finish⟩ :: lexemes, made⟩) := by
  rw [binary, bind_of_ok peek_cons]
  simp only [strength, Nat.zero_lt_succ, decide_true]
  rfl

theorem expression_root_ok (deep : setting.level < setting.deepest) (fits : isMemberName name = true)
    (read : links setting.down place (.variable_ name place) [] (fuel + 2)
      ⟨⟨.sign ".", mark⟩ :: lexemes, made⟩ = .ok (value, ⟨[⟨.finish, finish⟩], made⟩)) :
    expression setting (fuel + 4) ⟨⟨.word name, place⟩ :: ⟨.sign ".", mark⟩ :: lexemes, made⟩ =
      .ok (value, ⟨[⟨.finish, finish⟩], made⟩) := by
  rw [expression, bind_of_ok (deeper_of_lt deep), bind_of_ok peek_cons,
    bind_of_ok ((unary_root fits).trans read), binary_finish]

theorem expression_root_error (deep : setting.level < setting.deepest) (fits : isMemberName name = true)
    (refused : links setting.down place (.variable_ name place) [] (fuel + 2)
      ⟨⟨.sign ".", mark⟩ :: lexemes, made⟩ = .error error) :
    expression setting (fuel + 4) ⟨⟨.word name, place⟩ :: ⟨.sign ".", mark⟩ :: lexemes, made⟩ =
      .error error := by
  rw [expression, bind_of_ok (deeper_of_lt deep), bind_of_ok peek_cons,
    bind_of_error ((unary_root fits).trans refused)]

theorem statement_variable (deep : setting.level < setting.deepest) (fits : isMemberName name = true) :
    statement setting (fuel + 1) ⟨⟨.word name, place⟩ :: lexemes, made⟩ =
      assignment setting.down fuel ⟨⟨.word name, place⟩ :: lexemes, made⟩ := by
  obtain ⟨⟨⟨-, word⟩, -⟩, -⟩ := by
    simpa only [isMemberName, Bool.and_eq_true, Bool.not_eq_true', bne_iff_ne] using fits
  rw [statement, bind_of_ok (deeper_of_lt deep), bind_of_ok peek_cons]
  generalize is : Token.word name = token
  dsimp only
  split
  case h_19 => rfl
  all_goals cases is
  -- What begins a statement is a word of the language.
  all_goals exact absurd word (by decide)

/-- Statements up to the end of a script, of which the first starts with a name. -/
theorem statements_cons {first : Lexeme} (name_ : ∃ word, first.token = .word word) :
    statements setting "" (fuel + 1) ⟨first :: lexemes, made⟩ = (do
      let head ← statement setting fuel
      if (← comesFinish) || endsItself head then pure (head :: (← statements setting "" fuel))
      else if ← takes ";" then pure (head :: (← statements setting "" fuel))
      else refuse (.missing ";" "to terminate this statement") : Reader (List Stmt))
        ⟨first :: lexemes, made⟩ := by
  obtain ⟨token, place⟩ := first
  obtain ⟨word, rfl⟩ := name_
  have going : comesFinish ⟨⟨.word word, place⟩ :: lexemes, made⟩ =
      .ok (false, ⟨⟨.word word, place⟩ :: lexemes, made⟩) := rfl
  have whole : "".isEmpty = true := rfl
  rw [statements, bind_of_ok going]
  simp only [whole, Bool.and_false, Bool.not_true, Bool.false_and, Bool.false_eq_true, if_false, if_true]
  rw [bind_of_ok (takes_other (by simp)), bind_of_ok (takes_other (by simp)), if_neg Bool.false_ne_true]

/-- A script of one expression that starts with a name. -/
theorem statements_single_ok (deep : setting.level < setting.deepest) (fits : isMemberName name = true)
    (read : expression setting.down (fuel + 1) ⟨⟨.word name, place⟩ :: lexemes, made⟩ =
      .ok (value, ⟨[⟨.finish, finish⟩], made⟩)) :
    statements setting "" (fuel + 4) ⟨⟨.word name, place⟩ :: lexemes, made⟩ =
      .ok ([.expression value], ⟨[⟨.finish, finish⟩], made⟩) := by
  have single : statement setting (fuel + 3) ⟨⟨.word name, place⟩ :: lexemes, made⟩ =
      .ok (.expression value, ⟨[⟨.finish, finish⟩], made⟩) := by
    rw [statement_variable deep fits, assignment, bind_of_ok peek_cons, bind_of_ok read, bind_of_ok peek_cons]
    rfl
  have finished : comesFinish ⟨[⟨.finish, finish⟩], made⟩ =
      .ok (true, ⟨[⟨.finish, finish⟩], made⟩) := rfl
  have rest : statements setting "" (fuel + 3) ⟨[⟨.finish, finish⟩], made⟩ =
      .ok ([], ⟨[⟨.finish, finish⟩], made⟩) := by
    rw [statements, bind_of_ok finished]
    rfl
  rw [statements_cons ⟨name, rfl⟩, bind_of_ok single, bind_of_ok finished]
  simp only [Bool.true_or, if_true]
  rw [bind_of_ok rest]
  rfl

theorem statements_single_error (deep : setting.level < setting.deepest) (fits : isMemberName name = true)
    (refused : expression setting.down (fuel + 1) ⟨⟨.word name, place⟩ :: lexemes, made⟩ =
      .error error) :
    statements setting "" (fuel + 4) ⟨⟨.word name, place⟩ :: lexemes, made⟩ = .error error := by
  have single : statement setting (fuel + 3) ⟨⟨.word name, place⟩ :: lexemes, made⟩ = .error error := by
    rw [statement_variable deep fits, assignment, bind_of_ok peek_cons, bind_of_error refused]
  rw [statements_cons ⟨name, rfl⟩, bind_of_error single]

end Statements

end Reading

section Script

/-- A script that reads a member of the response by its name. -/
def memberScript (name : String) : String := "pm.response.json()." ++ name

/-- What is read from the script. -/
def memberChain (name : String) : Expr :=
  .chain (.variable_ "pm" ⟨1, 1⟩)
    [.property "response" false ⟨1, 4⟩, .method "json" [] false ⟨1, 13⟩, .property name false ⟨1, 20⟩]

theorem toList_memberScript (name : String) :
    (memberScript name).toList = "pm".toList ++
      '.' :: ("response".toList ++ '.' :: ("json".toList ++ '(' :: ')' :: '.' :: name.toList)) := by
  have front : "pm.response.json().".toList =
      "pm".toList ++ '.' :: ("response".toList ++ '.' :: ("json".toList ++ ['(', ')', '.'])) := by simp
  refine (String.toList_append ..).trans ?_
  simp only [front, List.append_assoc, List.cons_append, List.nil_append]

/-- The tokens of the script behind the first. -/
def memberLexemes (name : String) (finish : Position) : List Lexeme :=
  [⟨.sign ".", ⟨1, 3⟩⟩, ⟨nameToken "response", ⟨1, 4⟩⟩, ⟨.sign ".", ⟨1, 12⟩⟩, ⟨nameToken "json", ⟨1, 13⟩⟩,
    ⟨.sign "()", ⟨1, 17⟩⟩, ⟨.sign ".", ⟨1, 19⟩⟩, ⟨nameToken name, ⟨1, 20⟩⟩, ⟨.finish, finish⟩]

theorem withoutReturns_memberScript (identifier : isIdentifier name = true) :
    withoutReturns (memberScript name).toList = (memberScript name).toList := by
  obtain ⟨c, rest, spelled, start, part⟩ := isIdentifier_iff.mp identifier
  have return_ : isNamePart '\r' = false := by decide
  have free : '\r' ∉ name.toList := by
    rw [spelled]
    intro member
    rcases List.mem_cons.mp member with rfl | later
    · rw [isNamePart_iff.mpr (.inl start)] at return_
      cases return_
    · rw [part _ later] at return_
      cases return_
  refine withoutReturns_eq_self fun d member => ?_
  rintro rfl
  rw [toList_memberScript] at member
  simp [free] at member

theorem ofText_memberScript (identifier : isIdentifier name = true) :
    Lexeme.ofText (memberScript name) =
      ⟨.word "pm", ⟨1, 1⟩⟩ :: memberLexemes name (Position.afterAll ⟨1, 20⟩ name.toList) := by
  have length : 2 * (memberScript name).toList.length + 2 = 2 * name.toList.length + 30 + 10 := by
    simp [toList_memberScript]
    omega
  have point : isNamePart '.' = false := by decide
  have paren : isNamePart '(' = false := by decide
  simp only [Lexeme.ofText, withoutReturns_memberScript identifier, length]
  rw [toList_memberScript, ← List.append_nil name.toList, lexemes_name (by decide) (by simp [point]),
    lexemes_point (by decide), lexemes_name (by decide) (by simp [point]), lexemes_point (by decide),
    lexemes_name (by decide) (by simp [paren]), lexemes_call, lexemes_point identifier,
    lexemes_name identifier rfl, lexemes, List.append_nil]
  rfl

section Reading
variable {setting : Setting} {fuel : Nat} {made : Made} {finish : Position}

/-- What stands in front of the name of the member is read as it is. -/
theorem links_front (deep : setting.level + 2 < setting.deepest) :
    links setting ⟨1, 1⟩ (.variable_ "pm" ⟨1, 1⟩) [] (fuel + 2) ⟨memberLexemes name finish, made⟩ =
      links setting.down.down ⟨1, 1⟩ (.variable_ "pm" ⟨1, 1⟩)
        [.method "json" [] false ⟨1, 13⟩, .property "response" false ⟨1, 4⟩] fuel
        ⟨[⟨.sign ".", ⟨1, 19⟩⟩, ⟨nameToken name, ⟨1, 20⟩⟩, ⟨.finish, finish⟩], made⟩ := by
  rw [memberLexemes, links_property (by omega) (by decide) (by simp) (by simp),
    links_method (by rw [Setting.down_level, Setting.down_deepest]; omega) (by decide)]

theorem links_member (deep : setting.level + 3 < setting.deepest) (fits : isMemberName name = true) :
    links setting ⟨1, 1⟩ (.variable_ "pm" ⟨1, 1⟩) [] (fuel + 4) ⟨memberLexemes name finish, made⟩ =
      .ok (memberChain name, ⟨[⟨.finish, finish⟩], made⟩) := by
  have deepDown : setting.down.down.level < setting.down.down.deepest := by
    simp only [Setting.down_level, Setting.down_deepest]
    omega
  rw [links_front (by omega), links_property deepDown fits (by simp) (by simp), links_end (by simp)]
  rfl

theorem links_member_refused (deep : setting.level + 3 < setting.deepest)
    (unfit : isMemberName name = false) :
    ∃ fault, links setting ⟨1, 1⟩ (.variable_ "pm" ⟨1, 1⟩) [] (fuel + 4)
      ⟨memberLexemes name finish, made⟩ = .error ⟨fault, ⟨1, 20⟩⟩ := by
  have deepDown : setting.down.down.level < setting.down.down.deepest := by
    simp only [Setting.down_level, Setting.down_deepest]
    omega
  rw [links_front (by omega)]
  exact links_refused deepDown unfit (by simp) (by simp)

/-- The setting in which a script is read, before anything is. -/
def outermost (limits : Limits) : Setting := ⟨limits, 0, deepestOutside, false, false, false, false⟩

theorem outermost_deep (limits : Limits) : (outermost limits).level + 5 < (outermost limits).deepest := by
  have deep : 5 < deepestOutside := by decide
  simpa [outermost] using deep

/-- A member with a fitting name is read from what the body of the response says. -/
theorem read_memberScript (limits : Limits) (identifier : isIdentifier name = true)
    (fits : isMemberName name = true) :
    Plain.read limits (memberScript name) = .ok ⟨[], [.expression (memberChain name)]⟩ := by
  have deep := outermost_deep limits
  let finish := Position.afterAll ⟨1, 20⟩ name.toList
  have chain : expression (outermost limits).down 129
      ⟨⟨.word "pm", ⟨1, 1⟩⟩ :: memberLexemes name finish, ⟨0, []⟩⟩ =
        .ok (memberChain name, ⟨[⟨.finish, finish⟩], ⟨0, []⟩⟩) :=
    expression_root_ok (by simp; omega) (by decide) (links_member (by simp; omega) fits)
  have whole := statements_single_ok (by omega) (by decide) chain
  rw [Plain.read, ofText_memberScript identifier]
  exact congrArg (Except.map scriptOf) whole

/-- Other names are no syntax of the plain language. -/
theorem read_memberScript_error (limits : Limits) (identifier : isIdentifier name = true)
    (unfit : isMemberName name = false) :
    ∃ fault, Plain.read limits (memberScript name) = .error ⟨fault, ⟨1, 20⟩⟩ := by
  have deep := outermost_deep limits
  let finish := Position.afterAll ⟨1, 20⟩ name.toList
  obtain ⟨fault, refused⟩ : ∃ fault,
      links (outermost limits).down.down ⟨1, 1⟩ (.variable_ "pm" ⟨1, 1⟩) [] 127
        ⟨memberLexemes name finish, ⟨0, []⟩⟩ = .error ⟨fault, ⟨1, 20⟩⟩ :=
    links_member_refused (by simp; omega) unfit
  have chain : expression (outermost limits).down 129
      ⟨⟨.word "pm", ⟨1, 1⟩⟩ :: memberLexemes name finish, ⟨0, []⟩⟩ = .error ⟨fault, ⟨1, 20⟩⟩ :=
    expression_root_error (by simp; omega) (by decide) refused
  have whole := statements_single_error (by omega) (by decide) chain
  refine ⟨fault, ?_⟩
  rw [Plain.read, ofText_memberScript identifier]
  exact congrArg (Except.map scriptOf) whole

end Reading

end Script

end ApiProbe.Plain
