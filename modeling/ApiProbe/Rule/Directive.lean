import ApiProbe.Rule.Basic
import ApiProbe.Text.Split

/-!
Capture directives: comment lines such as `# @capture token = $.data.token` that ask for a value of
the response to be kept in a variable. The form of the path tells how to look for the value.
-/
namespace ApiProbe.Rule

structure Directive where
  variable_ : String
  method : Method
  pattern : String
  deriving Repr, DecidableEq

/-- What follows a text at the start of another. -/
def afterStart? (start chars : List Char) : Option (List Char) :=
  if start.isPrefixOf chars then some (chars.drop start.length) else none

/-- Tells the method of a path from its form. -/
def classify (path : List Char) : Method × List Char :=
  let trimmed := Text.trimChars path
  match afterStart? "headers.".toList trimmed with
  | some name => (.header, Text.trimChars name)
  | none =>
    match afterStart? "regex:".toList trimmed with
    | some pattern => (.regex, Text.trimChars pattern)
    | none =>
      if trimmed.head? == some '$' || ['@', '.'].isPrefixOf trimmed then (.jsonPath, trimmed)
      else if trimmed.contains '[' && trimmed.contains ']' && trimmed.head? != some '/' then
        (.jsonPath, trimmed)
      else (.xmlPath, trimmed)

def isIdentifierPart (c : Char) : Bool := c.isAlphanum || c == '_'

/-- A comment mark at the start of a line. -/
def afterComment? (line : List Char) : Option (List Char) :=
  (afterStart? ['#'] line).orElse fun _ => afterStart? ['/', '/'] line

/-- The name and the path of a directive, after its `@capture`. The path stands on one line. -/
def assignment? (chars : List Char) : Option (List Char × List Char) :=
  let body := Text.trimLeft chars
  let name := body.takeWhile isIdentifierPart
  if body.length == chars.length || !isIdentifier name then none
  else
    match Text.trimLeft (body.drop name.length) with
    | '=' :: path =>
      let trimmed := Text.trimChars path
      if trimmed.isEmpty || trimmed.contains '\n' then none else some (name, trimmed)
    | _ => none

/-- Reads the directive of a line, if it has one. -/
def directive? (line : List Char) : Option Directive := do
  let comment ← afterComment? (Text.trimLeft line)
  let chars ← afterStart? "@capture".toList (Text.trimLeft comment)
  let (name, path) ← assignment? chars
  let (method, pattern) := classify path
  if pattern.isEmpty then none
  else some ⟨String.ofList name, method, String.ofList pattern⟩

/-- The directives of a text in the order of its lines. -/
def directives (text : String) : List Directive :=
  (Text.lines text.toList).filterMap directive?

/-- The rule that a directive asks for. -/
def Directive.toRule (directive : Directive) (supply : Supply) (scope : Scope) : Rule × Supply :=
  Rule.fresh supply s!"@capture {directive.variable_}" directive.method directive.pattern
    directive.variable_ scope

end ApiProbe.Rule
