import ApiProbe.Abort
import ApiProbe.Variable.Store
import ApiProbe.Variable.Generated

/-!
Substitution: names in doubled braces are replaced by values, and values that hold such names are
expanded in turn, up to a depth. A token that cannot be replaced stays as it is and leaves a
warning. A backslash in front of doubled braces makes them plain text.
-/
namespace ApiProbe.Substitution

/-- Where values come from. -/
abbrev Source := String → Option String

/-- Stand-ins for escaped braces while a text is searched for tokens. -/
def openMark : Char := Char.ofNat 0xE000
def closeMark : Char := Char.ofNat 0xE001

/-- Puts the stand-ins in place of escaped braces. -/
def shield : List Char → List Char
  | '\\' :: '{' :: '{' :: rest => openMark :: shield rest
  | '\\' :: '}' :: '}' :: rest => closeMark :: shield rest
  | c :: rest => c :: shield rest
  | [] => []

/-- Turns stand-ins into plain doubled braces. -/
def unshield (chars : List Char) : List Char :=
  chars.flatMap fun c =>
    if c == openMark then ['{', '{'] else if c == closeMark then ['}', '}'] else [c]

def isBrace (c : Char) : Bool := c == '{' || c == '}'

/-- A token at the start of a text: the characters between its braces, and what follows. -/
def token? : List Char → Option (List Char × List Char)
  | '{' :: '{' :: rest =>
    let inner := rest.takeWhile fun c => !isBrace c
    match rest.dropWhile fun c => !isBrace c with
    | '}' :: '}' :: after => if inner.isEmpty then none else some (inner, after)
    | _ => none
  | _ => none

theorem token?_shorter {chars inner after : List Char} (found : token? chars = some (inner, after)) :
    after.length < chars.length := by
  unfold token? at found
  split at found
  · rename_i rest
    dsimp only at found
    split at found
    · rename_i tail dropped
      split at found
      · exact absurd found (by simp)
      · simp only [Option.some.injEq, Prod.mk.injEq] at found
        have kept := (List.dropWhile_sublist (l := rest) fun c => !isBrace c).length_le
        rw [dropped] at kept
        simp only [List.length_cons] at kept ⊢
        obtain ⟨-, rfl⟩ := found
        omega
    · exact absurd found (by simp)
  · exact absurd found (by simp)

/-- A text cut into plain characters and tokens. -/
inductive Piece
  | plain (c : Char)
  | token (inner : List Char)
  deriving Repr, DecidableEq

def Piece.source : Piece → List Char
  | .plain c => [c]
  | .token inner => ['{', '{'] ++ inner ++ ['}', '}']

/-- Cuts a text at its tokens, taken from the left. -/
def pieces (chars : List Char) : List Piece :=
  match _found : token? chars with
  | some (inner, after) => .token inner :: pieces after
  | none =>
    match chars with
    | [] => []
    | c :: rest => .plain c :: pieces rest
termination_by chars.length
decreasing_by
  · exact token?_shorter _found
  · simp

inductive Warning
  | unresolved (name : String) (error : VariableError)
  | circular (name : String)
  | undefined (name : String)
  | tooDeep (depth : Nat) (name : String)
  deriving Repr, DecidableEq

def Warning.message : Warning → String
  | .unresolved name error => "\x7b\x7b" ++ name ++ "\x7d\x7d left unresolved: " ++ error.message
  | .circular name => s!"Circular reference for '{name}', token left unresolved"
  | .undefined name => s!"Undefined variable: {name}"
  | .tooDeep depth name =>
    s!"Substitution depth {depth} exceeded at '{name}', nested tokens left unresolved"

structure Outcome where
  text : List Char
  warnings : List Warning
  supply : Supply

/-- True of texts that may hold a token. -/
def mayRefer (value : List Char) : Bool := Key.occursIn ['{', '{'] value

/-- Expands a token whose name is a generated value. -/
def generate (supply : Supply) (name : String) (literal : List Char) : Except Abort Outcome :=
  match Generated.evaluate supply name with
  | .ok (value, rest) => .ok ⟨value.toList, [], rest⟩
  | .error (.refused error) => .ok ⟨literal, [.unresolved name error], supply⟩
  | .error .outOfCalendar => .error .outOfCalendar

/-- Puts the outcomes of the pieces of a text in a row, each starting from the supply the one
before it left. -/
def joinAll (step : Supply → Piece → Except Abort Outcome) (supply : Supply) :
    List Piece → Except Abort Outcome
  | [] => .ok ⟨[], [], supply⟩
  | piece :: rest => do
    let first ← step supply piece
    let others ← joinAll step first.supply rest
    pure ⟨first.text ++ others.text, first.warnings ++ others.warnings, others.supply⟩

/-- Expands one piece. `nested` expands a value that refers further; there is none at the depth
limit. -/
def expandPiece (source : Source) (depth : Nat) (visiting : List String)
    (nested : Option (Supply → List String → List Char → Except Abort Outcome))
    (supply : Supply) : Piece → Except Abort Outcome
  | .plain c => .ok ⟨[c], [], supply⟩
  | .token inner =>
    let literal := (Piece.token inner).source
    let chars := Text.trimChars inner
    let name := String.ofList chars
    if chars.isEmpty then .ok ⟨literal, [], supply⟩
    else if chars.head? == some '$' then generate supply name literal
    else if visiting.contains name then .ok ⟨literal, [.circular name], supply⟩
    else
      match source name with
      | none => .ok ⟨literal, [.undefined name], supply⟩
      | some value =>
        if !mayRefer value.toList then .ok ⟨value.toList, [], supply⟩
        else
          match nested with
          | none => .ok ⟨value.toList, [.tooDeep depth name], supply⟩
          | some expandValue => expandValue supply (name :: visiting) value.toList

/-- Expands a text. `levels` is the number of nested levels still allowed below it, `depth` the
number allowed in all. -/
def expand (source : Source) (depth : Nat) :
    Nat → Supply → List String → List Char → Except Abort Outcome
  | 0, supply, visiting, text => do
    let outcome ← joinAll (expandPiece source depth visiting none) supply (pieces (shield text))
    pure { outcome with text := unshield outcome.text }
  | levels + 1, supply, visiting, text => do
    let outcome ← joinAll (expandPiece source depth visiting (some (expand source depth levels)))
      supply (pieces (shield text))
    pure { outcome with text := unshield outcome.text }

/-- Substitutes in a text; one without doubled braces is returned at once. -/
def run (source : Source) (depth : Nat) (supply : Supply) (text : String) :
    Except Abort Outcome :=
  if mayRefer text.toList then expand source depth depth supply [] text.toList
  else .ok ⟨text.toList, [], supply⟩

end ApiProbe.Substitution

namespace ApiProbe.Store

/-- Substitutes with the variables of the store, looked up by precedence. -/
def substitute (store : Store) (supply : Supply) (text : String) :
    Except Abort Substitution.Outcome :=
  Substitution.run (store.get? · none) store.depth supply text

end ApiProbe.Store
