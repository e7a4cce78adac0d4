import ApiProbe.Script.Literal
import Mathlib.Data.List.Infix

/-!
String literals put between double quotes. A string of either kind of quotes becomes one literal, which
ends at its last quote and nowhere before, and whoever decodes its escapes reads the string that was
written.
-/
namespace ApiProbe.Script
variable {quote : Char} {chars body rest after : List Char}

/-- What may stand between quotes, read in pairs of a backslash and the character behind it: outside the
pairs there is no such quote and no line end. -/
inductive QuotedBody (quote : Char) : List Char → Prop
  | nil : QuotedBody quote []
  | escape (c : Char) {rest : List Char} (behind : QuotedBody quote rest) :
    QuotedBody quote ('\\' :: c :: rest)
  | plain {c : Char} {rest : List Char} (noEscape : c ≠ '\\') (inLine : c ≠ '\n') (open_ : c ≠ quote)
    (behind : QuotedBody quote rest) : QuotedBody quote (c :: rest)

def IsQuote (quote : Char) : Prop := quote = '"' ∨ quote = '\''

section Reading

theorem quotedBody?_body (found : quotedBody? quote chars = some (body, after)) :
    QuotedBody quote body := by
  fun_induction quotedBody? quote chars generalizing body after with
  | case1 => cases found
  | case2 c rest ih =>
    obtain ⟨⟨inner, tail⟩, inside, same⟩ := Option.map_eq_some_iff.mp found
    cases same
    exact .escape c (ih inside)
  | case3 => cases found
  | case4 =>
    cases found
    exact .nil
  | case5 c rest pairs line closing ih =>
    obtain ⟨⟨inner, tail⟩, inside, same⟩ := Option.map_eq_some_iff.mp found
    cases same
    refine .plain ?_ (by simpa using line) (by simpa using closing) (ih inside)
    -- A backslash at the end of the text would leave the string open.
    rintro rfl
    cases rest with
    | nil => cases inside
    | cons d more => exact pairs d more rfl rfl

/-- A string ends at the first quote that is not part of a pair. -/
theorem QuotedBody.quotedBody? (is : QuotedBody quote body) (mark : IsQuote quote)
    (after : List Char) : Script.quotedBody? quote (body ++ quote :: after) = some (body, after) := by
  induction is with
  | nil => rcases mark with rfl | rfl <;> rfl
  | escape c _ ih =>
    rw [List.cons_append, List.cons_append, Script.quotedBody?, ih]
    rfl
  | @plain c rest noEscape inLine open_ _ ih =>
    rw [List.cons_append, Script.quotedBody?, ih, if_neg (by simpa using inLine),
      if_neg (by simpa using open_)]
    · rfl
    · exact fun _ _ escape => absurd escape noEscape

theorem cut_quote {last : Option Kind} (mark : IsQuote quote) (rest : List Char) :
    cut last quote rest = match Script.quotedBody? quote rest with
      | some (body, after) => .ok ⟨some (.quoted body quote), after, 0⟩
      | none => .error (.unfinished .string) := by
  rcases mark with rfl | rfl <;> rfl

theorem cut_quoted {last : Option Kind} {c : Char} {piece : Cut} (found : cut last c rest = .ok piece)
    (is : piece.kind = some (.quoted body quote)) : IsQuote quote ∧ QuotedBody quote body := by
  obtain ⟨front, same, spells⟩ := cut_spells found
  rw [is] at spells
  cases spells with
  | quoted mark body =>
    obtain ⟨rfl, -⟩ := List.cons.inj same
    have mark : IsQuote c := by simpa [IsQuote] using mark
    rw [cut_quote mark] at found
    split at found
    · rename_i inner behind cutOff
      cases found
      cases is
      exact ⟨mark, quotedBody?_body cutOff⟩
    · cases found

/-- Every token was cut off somewhere. -/
theorem exists_cut {line : Nat} {last : Option Kind} {found : List Token}
    (read : tokensFrom line last chars = .ok found) :
    ∀ token ∈ found, ∃ last c rest piece, cut last c rest = .ok piece ∧ piece.kind = some token.kind := by
  fun_induction tokensFrom line last chars generalizing found with
  | case1 =>
    cases read
    intro token member
    cases member
  | case2 => cases read
  | case3 _ _ _ _ _ _ _ ih => exact ih read
  | case4 line last c rest piece cutOff kind some_ next =>
    rename_i ih
    cases inner : tokensFrom (line + piece.breaks) next piece.rest with
    | error error =>
      rw [inner] at read
      cases read
    | ok more =>
      rw [inner] at read
      cases read
      exact List.forall_mem_cons.mpr ⟨⟨last, c, rest, piece, cutOff, some_⟩, ih inner⟩

/-- What is known of the strings of a script. -/
theorem tokens_quoted {script : String} {found : List Token} (read : tokens script = .ok found)
    {token : Token} (member : token ∈ found) (is : token.kind = .quoted body quote) :
    IsQuote quote ∧ QuotedBody quote body := by
  obtain ⟨last, c, rest, piece, cutOff, kind⟩ := exists_cut read token member
  exact cut_quoted cutOff (kind.trans (congrArg some is))

end Reading

section Requoting
open Literal

/-- Characters that lose the backslash in front of them. -/
def isFreed (c : Char) : Bool := c == '\'' || c == '/' || c == '$'

theorem requote_escape (c : Char) (rest : List Char) :
    requote ('\\' :: c :: rest) = if isFreed c then c :: requote rest else '\\' :: c :: requote rest :=
  rfl

theorem requote_plain {c : Char} (noEscape : c ≠ '\\') (rest : List Char) :
    requote (c :: rest) = if c == '"' then '\\' :: '"' :: requote rest else c :: requote rest := by
  rw [requote]
  · rintro rfl
    exact absurd rfl noEscape
  · exact fun _ _ escape => absurd escape noEscape

theorem ne_of_isFreed {c : Char} (freed : isFreed c = true) : c ≠ '\\' ∧ c ≠ '\n' ∧ c ≠ '"' := by
  refine ⟨?_, ?_, ?_⟩ <;>
  · rintro rfl
    exact absurd freed (by decide)

/-- The body of a string of either kind becomes one for double quotes. -/
theorem QuotedBody.requote (is : QuotedBody quote body) : QuotedBody '"' (requote body) := by
  induction is with
  | nil => exact .nil
  | @escape c rest _ ih =>
    rw [requote_escape]
    split
    · rename_i freed
      obtain ⟨noEscape, inLine, open_⟩ := ne_of_isFreed freed
      exact .plain noEscape inLine open_ ih
    · exact .escape c ih
  | @plain c rest noEscape inLine _ _ ih =>
    rw [requote_plain noEscape]
    split
    · exact .escape '"' ih
    · rename_i other
      exact .plain noEscape inLine (by simpa using other) ih

end Requoting

/-- The signs that end what belongs to an escape. -/
def isMark (c : Char) : Bool := c == '\\' || c == '"' || isFreed c

/-- What of a text may belong to an escape in front of it. -/
def reach (chars : List Char) : List Char := chars.takeWhile fun c => !isMark c

/-- A way to decode escapes. An escape is the character behind a backslash, and a number of characters
behind that; it may also be refused. -/
structure Decoding (α : Type) where
  /-- What a character stands for by itself. -/
  plain : Char → List α
  /-- What an escape stands for and how many of the characters that follow belong to it, given the
  character behind the backslash and what may belong to the escape. -/
  escape : Char → List Char → Option (List α × Nat)

namespace Decoding
variable {α : Type} (decoding : Decoding α)

def decode (chars : List Char) : Option (List α) :=
  match chars with
  | [] => some []
  | '\\' :: c :: rest =>
    match decoding.escape c (reach rest) with
    | none => none
    | some (image, taken) =>
      (decode (rest.drop (min taken (reach rest).length))).map (image ++ ·)
  | c :: rest => (decode rest).map (decoding.plain c ++ ·)
termination_by chars.length
decreasing_by
  · simp only [List.length_drop, List.length_cons]
    omega
  · simp

/-- Quotes, slashes and dollar signs stand for themselves behind a backslash. -/
def KeepsMarks : Prop :=
  ∀ c ∈ ['\'', '"', '/', '$'], ∀ following, decoding.escape c following = some (decoding.plain c, 0)

theorem decode_escape (c : Char) (rest : List Char) :
    decoding.decode ('\\' :: c :: rest) =
      (decoding.escape c (reach rest)).bind fun (image, taken) =>
        (decoding.decode (rest.drop (min taken (reach rest).length))).map (image ++ ·) := by
  rw [decode]
  cases decoding.escape c (reach rest) <;> rfl

theorem decode_plain {c : Char} (noEscape : c ≠ '\\') (rest : List Char) :
    decoding.decode (c :: rest) = (decoding.decode rest).map (decoding.plain c ++ ·) := by
  rw [decode]
  exact fun _ _ escape => absurd escape noEscape

variable {decoding}

/-- A sign behind a backslash is decoded as if it stood by itself. -/
theorem KeepsMarks.decode (keeps : decoding.KeepsMarks) {c : Char} (mark : c ∈ ['\'', '"', '/', '$'])
    (rest : List Char) :
    decoding.decode ('\\' :: c :: rest) = (decoding.decode rest).map (decoding.plain c ++ ·) := by
  rw [decode_escape, keeps c mark]
  simp

end Decoding

section Reach
open Literal

/-- What may belong to an escape is the same after requoting, and what follows it is requoted. -/
theorem reach_requote (chars : List Char) : reach (requote chars) = reach chars := by
  induction chars with
  | nil => rfl
  | cons c rest ih =>
    by_cases escape : c = '\\'
    · subst escape
      cases rest with
      | nil => rfl
      | cons d more =>
        rw [requote_escape]
        split
        · rename_i freed
          simp [reach, isMark, freed]
        · rfl
    · rw [requote_plain escape]
      split
      · rename_i mark
        rw [beq_iff_eq.mp mark]
        rfl
      · simp only [reach, List.takeWhile_cons] at ih ⊢
        rw [ih]

theorem drop_requote {n : Nat} (chars : List Char) (short : n ≤ (reach chars).length) :
    (requote chars).drop n = requote (chars.drop n) := by
  induction n generalizing chars with
  | zero => rfl
  | succ n ih =>
    cases chars with
    | nil => simp [reach] at short
    | cons c rest =>
      by_cases mark : isMark c = true
      · simp [reach, mark] at short
      · have behind : n ≤ (reach rest).length := by
          simpa [reach, mark] using short
        have unmarked : c ≠ '\\' ∧ c ≠ '"' := by
          constructor <;>
          · rintro rfl
            exact mark rfl
        rw [requote_plain unmarked.1, if_neg (by simpa using unmarked.2), List.drop_succ_cons,
          List.drop_succ_cons, ih rest behind]

theorem QuotedBody.drop {n : Nat} (is : QuotedBody quote body) (short : n ≤ (reach body).length) :
    QuotedBody quote (body.drop n) := by
  induction n generalizing body with
  | zero => exact is
  | succ n ih =>
    cases is with
    | nil => exact .nil
    | escape => simp [reach, isMark] at short
    | @plain c rest noEscape inLine open_ behind =>
      by_cases mark : isMark c = true
      · simp [reach, mark] at short
      · exact ih behind (by simpa [reach, mark] using short)

end Reach

/-- Requoting keeps what a string is decoded to. An escape can be longer than a pair, so the induction is
on the length. -/
theorem Decoding.decode_requote {α : Type} {decoding : Decoding α} (keeps : decoding.KeepsMarks)
    (is : QuotedBody quote body) : decoding.decode (Literal.requote body) = decoding.decode body := by
  induction long : body.length using Nat.strongRecOn generalizing body with
  | ind n ih =>
    cases is with
    | nil => rfl
    | @escape c rest behind =>
      simp only [List.length_cons] at long
      rw [requote_escape]
      split
      · rename_i freed
        have mark : c ∈ ['\'', '"', '/', '$'] := by
          simp only [isFreed, Bool.or_eq_true, beq_iff_eq] at freed
          rcases freed with (rfl | rfl) | rfl <;> decide
        rw [keeps.decode mark, decode_plain _ (ne_of_isFreed freed).1,
          ih rest.length (by omega) behind rfl]
      · rw [decode_escape, decode_escape, reach_requote]
        cases decoding.escape c (reach rest) with
        | none => rfl
        | some read =>
          have short : min read.2 (reach rest).length ≤ (reach rest).length := Nat.min_le_right ..
          have fewer : (rest.drop (min read.2 (reach rest).length)).length < n := by
            rw [List.length_drop]
            omega
          simp only [Option.bind_some]
          rw [drop_requote rest short, ih _ fewer (behind.drop short) rfl]
    | @plain c rest noEscape inLine open_ behind =>
      simp only [List.length_cons] at long
      have inner := ih rest.length (by omega) behind rfl
      rw [requote_plain noEscape, decode_plain _ noEscape]
      split
      · rename_i mark
        rw [beq_iff_eq.mp mark, keeps.decode (by decide), inner]
      · rw [decode_plain _ noEscape, inner]

/-- A string of a script becomes one literal in double quotes. In it no double quote is unescaped, so the
literal ends where its last quote is; and whatever decodes escapes, if quotes, slashes and dollar signs
stand for themselves behind a backslash, makes the same of what is in the literal and of what is in the
string. -/
theorem literal_kept {script : String} {found : List Token} {body : List Char} {quote : Char} {line : Nat}
    (read : tokens script = .ok found) (member : ⟨.quoted body quote, line⟩ ∈ found) :
    ∃ inner, Literal.quote body = '"' :: (inner ++ ['"']) ∧ QuotedBody '"' inner ∧
      (∀ after, quotedBody? '"' (inner ++ '"' :: after) = some (inner, after)) ∧
      ∀ {α : Type} (decoding : Decoding α), decoding.KeepsMarks →
        decoding.decode inner = decoding.decode body := by
  obtain ⟨-, is⟩ := tokens_quoted read member rfl
  refine ⟨Literal.requote body, rfl, is.requote, is.requote.quotedBody? (.inl rfl), ?_⟩
  intro α decoding keeps
  exact decoding.decode_requote keeps is

/-- Both quotes, the slash and the dollar sign, each with and without a backslash, between single quotes.
Escapes are decoded to the character behind the backslash. -/
theorem literal_kept_marks :
    tokens "'\\'\"\\\"/\\/$\\$\\n'" = .ok [⟨.quoted "\\'\"\\\"/\\/$\\$\\n".toList '\'', 1⟩] ∧
      ∃ inner, Literal.quote "\\'\"\\\"/\\/$\\$\\n".toList = '"' :: (inner ++ ['"']) ∧
        QuotedBody '"' inner ∧
        (⟨fun c => [c], fun c _ => some ([c], 0)⟩ : Decoding Char).decode inner
          = some "'\"\"//$$n".toList := by
  have read : tokens "'\\'\"\\\"/\\/$\\$\\n'"
      = .ok [⟨.quoted "\\'\"\\\"/\\/$\\$\\n".toList '\'', 1⟩] := by decide +kernel
  obtain ⟨inner, shape, closed, -, kept⟩ := literal_kept read List.mem_cons_self
  refine ⟨read, inner, shape, closed, ?_⟩
  rw [kept _ fun c _ _ => rfl]
  decide +kernel

end ApiProbe.Script
