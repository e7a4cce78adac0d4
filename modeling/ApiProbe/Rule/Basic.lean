import ApiProbe.Variable.Codec
import ApiProbe.Supply
import ApiProbe.Json.Printer

/-!
Extraction rules: where in a response to look for a value, how to find it, and which variable keeps
it.
-/
namespace ApiProbe.Rule

/-- The part of a response that a rule reads. -/
inductive Source
  | body | headers
  deriving Repr, DecidableEq, Inhabited

def Source.name : Source → String
  | .body => "body"
  | .headers => "headers"

inductive Method
  | jsonPath | xmlPath | header | regex
  deriving Repr, DecidableEq, Inhabited

namespace Method

def name : Method → String
  | jsonPath => "jsonpath"
  | xmlPath => "xpath"
  | header => "header"
  | regex => "regex"

/-- Only header rules read headers unless told otherwise. -/
def defaultSource : Method → Source
  | header => .headers
  | _ => .body

end Method
end ApiProbe.Rule

namespace ApiProbe

structure Rule where
  id : String
  name : String
  enabled : Bool
  source : Rule.Source
  method : Rule.Method
  pattern : String
  variable_ : String
  scope : Scope
  wantsGroup : Option Bool
  description : Option String
  deriving Repr, DecidableEq

/-- Why a rule cannot be used. -/
inductive RuleFault
  | nameBlank
  | patternBlank (rule : String)
  | notIdentifier (rule variable_ : String)
  deriving Repr, DecidableEq

def RuleFault.message : RuleFault → String
  | .nameBlank => "name must not be empty"
  | .patternBlank rule => s!"rule '{rule}': pattern must not be empty"
  | .notIdentifier rule variable_ =>
    s!"rule '{rule}': variable name '{variable_}' must match [A-Za-z_][A-Za-z0-9_]*"

/-- Why rules cannot be read. -/
inductive RuleTextFault
  | badJson (error : Json.ReadError)
  | badDocument
  deriving Repr, DecidableEq

def RuleTextFault.message : RuleTextFault → String
  | .badJson error => error.message
  | .badDocument => "data did not match any variant of untagged enum ImportDocument"

inductive RuleError
  | invalid (fault : RuleFault)
  | notFound (id : String)
  | duplicate (id : String)
  | unreadable (fault : RuleTextFault)
  deriving Repr, DecidableEq

def RuleError.message : RuleError → String
  | .invalid fault => s!"Invalid rule: {fault.message}"
  | .notFound id => s!"Rule not found: {id}"
  | .duplicate id => s!"Rule id already exists: {id}"
  | .unreadable fault => s!"Rule serialization error: {fault.message}"

namespace Rule

/-- An identifier of ASCII letters, digits and underscores that does not start with a digit. -/
def isIdentifier : List Char → Bool
  | [] => false
  | c :: rest => (c.isAlpha || c == '_') && rest.all fun c => c.isAlphanum || c == '_'

def validate (rule : Rule) : Except RuleError Unit :=
  if Text.isBlankText rule.name then .error (.invalid .nameBlank)
  else if Text.isBlankText rule.pattern then .error (.invalid (.patternBlank rule.name))
  else if !isIdentifier rule.variable_.toList then
    .error (.invalid (.notIdentifier rule.name rule.variable_))
  else .ok ()

/-- A new rule with an id of its own. -/
def fresh (supply : Supply) (name : String) (method : Method) (pattern variable_ : String)
    (scope : Scope) : Rule × Supply :=
  let (id, rest) := supply.uuid
  (⟨id, name, true, method.defaultSource, method, pattern, variable_, scope, none, none⟩, rest)

/-- Gives a rule with a blank id a new one. -/
def withId (supply : Supply) (rule : Rule) : Rule × Supply :=
  if Text.isBlankText rule.id then
    let (id, rest) := supply.uuid
    ({ rule with id }, rest)
  else (rule, supply)

end Rule
end ApiProbe
