import ApiProbe.Script.Token
import Mathlib.Algebra.GroupWithZero.Nat
import Mathlib.Algebra.Order.BigOperators.Group.List

/-!
Line ends in the tokens of a script. The tokens hold all line ends of the text they were cut from;
words, numbers, signs and blanks hold none.
-/
namespace ApiProbe.Script

/-- Line ends in what a token was in the text. -/
def Kind.breaks : Kind → Nat
  | .quoted body _ | .template body => body.count '\n'
  | .regex pattern _ => pattern.count '\n'
  | .newline => 1
  | .comment text => text.toList.count '\n'
  | .word _ | .number _ | .sign _ | .space _ => 0

/-- What stands on one line in every token. -/
def Kind.Neat : Kind → Prop
  | .word text | .number text | .sign text | .space text => '\n' ∉ text.toList
  | .regex _ flags => '\n' ∉ flags
  | .quoted .. | .template _ | .newline | .comment _ => True

def breaksIn (tokens : List Token) : Nat := (tokens.map fun token => token.kind.breaks).sum

def Neat (tokens : List Token) : Prop := ∀ token ∈ tokens, token.kind.Neat

@[simp] theorem breaksIn_nil : breaksIn [] = 0 := rfl

@[simp] theorem breaksIn_cons (token : Token) (rest : List Token) :
    breaksIn (token :: rest) = token.kind.breaks + breaksIn rest := by
  simp [breaksIn]

@[simp] theorem breaksIn_append (first second : List Token) :
    breaksIn (first ++ second) = breaksIn first + breaksIn second := by
  simp [breaksIn]

theorem count_withoutReturns (chars : List Char) :
    (withoutReturns chars).toList.count '\n' = chars.count '\n' := by
  simp [withoutReturns, List.count_filter]

private theorem not_mem_numberRest {taken chars : List Char} (clean : '\n' ∉ taken) :
    '\n' ∉ (numberRest taken chars).1 := by
  fun_induction numberRest taken chars with
  | case1 => simpa using clean
  | case2 taken d rest afterMark exponentSign point part ih =>
    refine ih ?_
    rintro (_ | ⟨_, member⟩)
    · revert part
      have letter : '\n'.isAlphanum = false := by decide
      simp [point, exponentSign, letter]
    · exact clean member
  | case3 => simpa using clean

private theorem not_mem_of_all {p : Char → Bool} {chars : List Char}
    (all : ∀ c ∈ chars, p c = true) (broken : p '\n' = false) : '\n' ∉ chars := by
  intro member
  rw [all '\n' member] at broken
  cases broken

theorem signs_neat : ∀ sign ∈ signs, '\n' ∉ sign.toList := by decide

/-- A token has the line ends of its text, and they stand where line ends may stand. -/
theorem Spells.breaks {kind : Option Kind} {chars : List Char} (spells : Spells kind chars) :
    chars.count '\n' = (kind.map Kind.breaks).getD 0 ∧ ∀ k ∈ kind, k.Neat := by
  have neat {clean : Kind} (same : kind = some clean) (none_ : clean.breaks = 0)
      (free : '\n' ∉ chars) (kept : clean.Neat) :
      chars.count '\n' = (kind.map Kind.breaks).getD 0 ∧ ∀ k ∈ kind, k.Neat := by
    subst same
    refine ⟨by simpa [none_] using List.count_eq_zero.mpr free, ?_⟩
    rintro k ⟨⟩
    exact kept
  cases spells with
  | @word c rest start part =>
    have free : '\n' ∉ c :: rest := by
      rintro (_ | ⟨_, member⟩)
      · exact absurd start (by decide)
      · exact not_mem_of_all part (by decide) member
    exact neat rfl rfl free (by simpa [Kind.Neat] using free)
  | @number c rest digit =>
    have free : '\n' ∉ (numberRest [c] rest).1 := by
      refine not_mem_numberRest fun member => ?_
      rw [← List.mem_singleton.mp member] at digit
      exact absurd digit (by decide)
    exact neat rfl rfl free (by simpa [Kind.Neat] using free)
  | @quoted quote mark body =>
    refine ⟨?_, by rintro k ⟨⟩; trivial⟩
    have apart : quote ≠ '\n' := by
      rintro rfl
      exact absurd mark (by decide)
    simp [Kind.breaks, apart]
  | template body =>
    refine ⟨?_, by rintro k ⟨⟩; trivial⟩
    simp [Kind.breaks]
  | @regex pattern flags letters =>
    have free := not_mem_of_all letters (by decide)
    refine ⟨?_, by rintro k ⟨⟩; exact free⟩
    simp [Kind.breaks, List.count_eq_zero.mpr free]
  | sign known => exact neat rfl rfl (signs_neat _ known) (signs_neat _ known)
  | space some_ blank =>
    have free := not_mem_of_all blank (by decide)
    refine neat rfl rfl free ?_
    rw [Kind.Neat, ← List.count_eq_zero, count_withoutReturns, List.count_eq_zero]
    exact free
  | newline => exact ⟨rfl, by rintro k ⟨⟩; trivial⟩
  | lineComment some_ inLine =>
    refine ⟨?_, by rintro k ⟨⟩; trivial⟩
    simp [Kind.breaks, count_withoutReturns]
  | blockComment body =>
    refine ⟨?_, by rintro k ⟨⟩; trivial⟩
    simp [Kind.breaks, String.toList_append]
  | return_ => exact ⟨rfl, by rintro k ⟨⟩⟩

/-- The tokens hold the line ends of the text. -/
theorem tokensFrom_breaks {line : Nat} {last : Option Kind} {chars : List Char}
    {found : List Token} (read : tokensFrom line last chars = .ok found) :
    breaksIn found = chars.count '\n' ∧ Neat found := by
  fun_induction tokensFrom line last chars generalizing found with
  | case1 =>
    cases read
    exact ⟨rfl, fun token member => by cases member⟩
  | case2 => cases read
  | case3 line last c rest piece cutOff none_ ih =>
    obtain ⟨front, same, spells⟩ := cut_spells cutOff
    rw [none_] at spells
    obtain ⟨held, neat⟩ := ih read
    refine ⟨?_, neat⟩
    rw [same, List.count_append, spells.breaks.1, ← held]
    simp
  | case4 line last c rest piece cutOff kind some_ next =>
    rename_i ih
    obtain ⟨front, same, spells⟩ := cut_spells cutOff
    rw [some_] at spells
    obtain ⟨own, kept⟩ := spells.breaks
    cases inner : tokensFrom (line + piece.breaks) next piece.rest with
    | error error =>
      rw [inner] at read
      cases read
    | ok more =>
      rw [inner] at read
      cases read
      obtain ⟨held, neat⟩ := ih inner
      constructor
      · rw [breaksIn_cons, held, same, List.count_append, own]
        rfl
      · rintro token (_ | ⟨_, member⟩)
        · exact kept kind rfl
        · exact neat token member

theorem tokens_breaks {script : String} {found : List Token}
    (read : tokens script = .ok found) :
    breaksIn found = script.toList.count '\n' ∧ Neat found :=
  tokensFrom_breaks read

end ApiProbe.Script
