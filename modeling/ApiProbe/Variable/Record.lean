import ApiProbe.Variable.Error
import ApiProbe.Decimal.Reading

/-!
Variables: a key with a text value, the kind of that value, and the scope they live in. The value of
a secret is shown as a mask wherever it is shown.
-/
namespace ApiProbe

inductive Kind
  | string | number | boolean | secret
  deriving Repr, DecidableEq, Inhabited

namespace Kind

def name : Kind → String
  | .string => "string"
  | .number => "number"
  | .boolean => "boolean"
  | .secret => "secret"

def all : List Kind := [.string, .number, .boolean, .secret]

/-- The kind a value looks like. Only finite numbers count as numbers, and no value looks secret. -/
def infer (value : String) : Kind :=
  let chars := Text.trimChars value.toList
  let text := String.ofList chars
  if text == "true" || text == "false" then .boolean
  else
    match Decimal.readFloat? chars with
    | some x => if (Exact.ofFloat x).isFinite then .number else .string
    | none => .string

end Kind

structure Variable where
  key : String
  value : String
  kind : Kind
  scope : Scope
  enabled : Bool
  description : Option String
  deriving Repr, DecidableEq

namespace Variable

/-- What is shown in place of a secret. -/
def mask : String := "******"

def isSecret (v : Variable) : Bool := v.kind == .secret

def display (v : Variable) : String := if v.isSecret then mask else v.value

/-- The variable as it may be shown. -/
def masked (v : Variable) : Variable := { v with value := v.display }

end Variable

namespace Key

/-- True if the first list occurs inside the second. -/
def occursIn (part : List Char) : List Char → Bool
  | [] => part.isEmpty
  | c :: rest => part.isPrefixOf (c :: rest) || occursIn part rest

/-- A key must have a visible character and no doubled brace. -/
def check (key : String) : Except VariableError Unit :=
  if Text.isBlankText key then .error (.invalidKey .blank)
  else if occursIn ['{', '{'] key.toList || occursIn ['}', '}'] key.toList then
    .error (.invalidKey (.braces key))
  else .ok ()

end Key
end ApiProbe
