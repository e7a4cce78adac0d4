import ApiProbe.Text.Split
import ApiProbe.Decimal.Reading

/-!
References to characters in XML text: five by name, any by its code in decimal or hexadecimal form.
What looks like a reference but is none stays as it is.
-/
namespace ApiProbe.Xml

def hexDigit? (c : Char) : Option Nat :=
  if c.isDigit then some (c.toNat - 48)
  else if 'a' ≤ c.toLower && c.toLower ≤ 'f' then some (c.toLower.toNat - 87)
  else none

/-- Value of hexadecimal digits, at least one, with an optional plus sign. -/
def hexNumber? (chars : List Char) : Option Nat :=
  let body := if chars.head? == some '+' then chars.drop 1 else chars
  if body.isEmpty then none
  else body.foldl (fun total c => do some ((← total) * 16 + (← hexDigit? c))) (some 0)

/-- The character with a code; surrogates are none. -/
def charOfCode? (code : Nat) : Option Char :=
  if code.isValidChar then some (Char.ofNat code) else none

/-- The character that a reference stands for, given what is between `&` and `;`. -/
def referent? : List Char → Option Char
  | ['l', 't'] => some '<'
  | ['g', 't'] => some '>'
  | ['a', 'm', 'p'] => some '&'
  | ['q', 'u', 'o', 't'] => some '"'
  | ['a', 'p', 'o', 's'] => some '\''
  | '#' :: 'x' :: digits | '#' :: 'X' :: digits => (hexNumber? digits).bind charOfCode?
  | '#' :: digits => (Decimal.readNat? 4294967295 digits).bind charOfCode?
  | _ => none

/-- The reference that starts behind an ampersand, and what follows its semicolon. -/
def reference? (chars : List Char) : Option (Char × List Char) :=
  match Text.cutAt? [';'] chars with
  | some (inner, after) => (referent? inner).map fun c => (c, after)
  | none => none

theorem reference?_length {chars after : List Char} {c : Char}
    (found : reference? chars = some (c, after)) : after.length < chars.length := by
  unfold reference? at found
  split at found
  · rename_i inner rest cut
    have := Text.cutAt?_length cut
    obtain ⟨_, _, same⟩ := Option.map_eq_some_iff.mp found
    simp only [Prod.mk.injEq] at same
    obtain ⟨-, rfl⟩ := same
    simp only [List.length_cons, List.length_nil] at this
    omega
  · simp at found

/-- Replaces references from left to right; what they stand for is not read again. -/
def decodeReferences (chars : List Char) : List Char :=
  match chars with
  | [] => []
  | c :: rest =>
    if c == '&' then
      match _found : reference? rest with
      | some (image, after) => image :: decodeReferences after
      | none => '&' :: decodeReferences rest
    else c :: decodeReferences rest
termination_by chars.length
decreasing_by
  · have := reference?_length _found
    simp only [List.length_cons]
    omega
  · simp
  · simp

end ApiProbe.Xml
