import ApiProbe.Variable.Scope

/-!
What can go wrong with a variable, each case a cause of its own, and the wording of each.
-/
namespace ApiProbe

/-- Why a key cannot name a variable. -/
inductive KeyFault
  | blank
  | braces (key : String)
  deriving Repr, DecidableEq

/-- Why an expression for a generated value cannot be read. -/
inductive SyntaxFault
  | notGenerated (expression : String)
  | formatMissing
  | formatUnknown (format : String)
  | notInteger (argument : String)
  | boundsMissing
  | boundsReversed (low high : Int)
  deriving Repr, DecidableEq

/-- Why a time offset cannot be read. -/
inductive OffsetFault
  | incomplete
  | notInteger (amount : String)
  | unitUnknown (unit : String)
  deriving Repr, DecidableEq

inductive VariableError
  | unknownScope (text : String)
  | invalidKey (fault : KeyFault)
  | readOnly (scope : Scope)
  | undefined (name : String)
  | badSyntax (fault : SyntaxFault)
  | badOffset (fault : OffsetFault)
  deriving Repr, DecidableEq

def KeyFault.message : KeyFault → String
  | .blank => "variable key must not be empty"
  | .braces key => "variable key '" ++ key ++ "' must not contain '\x7b\x7b' or '\x7d\x7d'"

def SyntaxFault.message : SyntaxFault → String
  | .notGenerated expression => s!"not a system variable: '{expression}'"
  | .formatMissing => "$datetime needs a format (iso8601 or rfc1123)"
  | .formatUnknown format => s!"unknown $datetime format '{format}'"
  | .notInteger argument => s!"'{argument}' is not an integer"
  | .boundsMissing => "$randomInt needs min and max"
  | .boundsReversed low high => s!"$randomInt min ({low}) is greater than max ({high})"

def OffsetFault.message : OffsetFault → String
  | .incomplete => "expected '<amount> <unit>', e.g. '-1 d'"
  | .notInteger amount => s!"'{amount}' is not an integer"
  | .unitUnknown unit => s!"unknown unit '{unit}' (ms, s, m, h, d, w)"

def VariableError.message : VariableError → String
  | .unknownScope text =>
    s!"Unknown scope '{text}' (expected global, environment, collection or request)"
  | .invalidKey fault => s!"Invalid variable key: {fault.message}"
  | .readOnly scope => s!"Scope '{scope.name}' is read-only in this context"
  | .undefined name => s!"Undefined variable: {name}"
  | .badSyntax fault => s!"Invalid syntax: {fault.message}"
  | .badOffset fault => s!"Invalid offset: {fault.message}"

/-- The scope of a name, or the complaint about it. -/
def Scope.parse (text : String) : Except VariableError Scope :=
  match Scope.named? text with
  | some scope => .ok scope
  | none => .error (.unknownScope text)

end ApiProbe
