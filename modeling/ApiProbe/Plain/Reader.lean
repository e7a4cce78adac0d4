import ApiProbe.Plain.Syntax

/-!
Reader of the plain script language. Statements end with a semicolon unless a block ends them. An
expression may be nested up to a depth, which is smaller inside functions. Functions are defined
between the statements of a script, not inside of them.
-/
namespace ApiProbe.Plain

/-- Greatest sizes of texts, lists and records; zero is no limit. -/
structure Limits where
  text : Nat
  list : Nat
  record : Nat
  deriving Repr, DecidableEq

namespace Limits

/-- Whether a size is beyond a limit. -/
def exceeded (limit size : Nat) : Bool := limit != 0 && size > limit

end Limits

inductive ReadFault
  | lexical (fault : LexicalFault)
  | incomplete
  | unexpected (text : String)
  | missing (sign purpose : String)
  | unknownOperator (sign : String)
  | reserved (name : String)
  | nameExpected
  | propertyExpected
  | repeatedProperty (name : String)
  | expressionExpected (what : String)
  | repeatedParameter (name owner : String)
  | functionNameExpected
  | parametersExpected (function : String)
  | bodyExpected (function : String)
  | repeatedFunction (name : String) (params : Nat)
  | functionInside
  | exportInside
  | conditionInDefault
  | defaultNotLast
  | tooDeep
  | outsideLoop
  | badTarget
  | badIndex (reason : String)
  | wrongKind (expected found : String)
  | tooLarge (what : String) (limit : Nat)
  deriving Repr, DecidableEq

def ReadFault.reason : ReadFault → String
  | .lexical fault => fault.reason
  | .incomplete => "Script is incomplete"
  | .unexpected text => s!"Unexpected '{text}'"
  | .missing sign purpose => s!"Expecting '{sign}' {purpose}"
  | .unknownOperator sign => s!"Unknown operator: '{sign}'"
  | .reserved name => s!"'{name}' is a reserved keyword"
  | .nameExpected => "Expecting name of a variable"
  | .propertyExpected => "Expecting name of a property"
  | .repeatedProperty name => s!"Duplicated property for object map literal: {name}"
  | .expressionExpected what => s!"Expecting {what} expression"
  | .repeatedParameter name owner => s!"Duplicated parameter {name} for {owner}"
  | .functionNameExpected => "Expecting function name in function declaration"
  | .parametersExpected function =>
    s!"Expecting parameters in declaration of function '{function}'"
  | .bodyExpected function => s!"Expecting body statement block for function '{function}'"
  | .repeatedFunction name params => s!"Function {name} with {countText params} already exists"
  | .functionInside =>
    "Function definitions must be at global level and cannot be inside a block or another function"
  | .exportInside => "Export statement can only appear at global level"
  | .conditionInDefault => "This switch case cannot have a condition"
  | .defaultNotLast => "Default switch case must be the last"
  | .tooDeep => "Expression exceeds maximum complexity"
  | .outsideLoop => "Break statement should only be used inside a loop"
  | .badTarget => "Expression cannot be assigned to"
  | .badIndex reason => s!"Invalid index: {reason}"
  | .wrongKind expected found => s!"Expecting {expected}, not {found}"
  | .tooLarge what limit => s!"{what} exceeds the maximum limit ({limit})"
where
  countText : Nat → String
    | 0 => "no parameters"
    | 1 => "1 parameter"
    | n => s!"{n} parameters"

structure ReadError where
  fault : ReadFault
  place : Position
  deriving Repr, DecidableEq

/-- The number of closures read so far, and the functions defined, newest first. -/
structure Made where
  closures : Nat
  functions : List Function

/-- What is left to read, and what has been read besides statements. -/
structure Source where
  rest : List Lexeme
  made : Made

abbrev Reader := StateT Source (Except ReadError)

/-- Where an expression or a statement stands. In the label of a case a bar is no operator. -/
structure Setting where
  limits : Limits
  level : Nat
  deepest : Nat
  inLoop : Bool
  inFunction : Bool
  inBlock : Bool
  inLabel : Bool

/-- Depths allowed outside and inside functions. -/
def deepestOutside : Nat := 64
def deepestInside : Nat := 32

namespace Reader

def peek : Reader Lexeme := fun source =>
  .ok (source.rest.headD ⟨.finish, .start⟩, source)

def skip : Reader Unit := fun source => .ok ((), { source with rest := source.rest.drop 1 })

def failAt {α : Type} (place : Position) (fault : ReadFault) : Reader α :=
  fun _ => .error ⟨fault, place⟩

/-- Fails at the next token: its own fault if it is no token at all. -/
def refuse {α : Type} (fault : ReadFault) : Reader α := do
  let next ← peek
  match next.token with
  | .bad lexical => failAt next.place (.lexical lexical)
  | _ => failAt next.place fault

/-- Takes a sign if it comes next. -/
def takes (sign : String) : Reader Bool := do
  match (← peek).token with
  | .sign text =>
    if text == sign then
      skip
      pure true
    else pure false
  | _ => pure false

/-- Takes a word if it comes next. -/
def takesWord (name : String) : Reader Bool := do
  match (← peek).token with
  | .word text =>
    if text == name then
      skip
      pure true
    else pure false
  | _ => pure false

/-- Whether a word comes next. -/
def comesWord (name : String) : Reader Bool := do
  match (← peek).token with
  | .word text => pure (text == name)
  | _ => pure false

def comes (sign : String) : Reader Bool := do
  match (← peek).token with
  | .sign text => pure (text == sign)
  | _ => pure false

def need (sign purpose : String) : Reader Unit := do
  if !(← takes sign) then refuse (.missing sign purpose)

def comesFinish : Reader Bool := do
  match (← peek).token with
  | .finish => pure true
  | _ => pure false

end Reader

open Reader

namespace Setting

/-- One level further down. -/
def deeper (setting : Setting) : Reader Setting := do
  if setting.level ≥ setting.deepest then refuse .tooDeep
  else pure { setting with level := setting.level + 1 }

end Setting

/-- Words that start or join statements. -/
def keywords : List String :=
  ["_", "let", "const", "if", "else", "switch", "do", "while", "until", "loop", "for", "in", "continue",
    "break", "return", "throw", "try", "catch", "fn", "private", "import", "export", "as", "true",
    "false"]

/-- Words that no script may use. -/
def reservedWords : List String :=
  ["public", "protected", "super", "new", "use", "module", "package", "var", "static", "shared",
    "with", "is", "goto", "match", "case", "default", "void", "null", "nil", "spawn",
    "thread", "go", "sync", "async", "await", "yield", "eval"]

/-- Words that may only be called, and those of them that may be called as methods. -/
def callWords : List String :=
  ["print", "debug", "type_of", "Fn", "call", "curry", "is_def_fn", "is_def_var", "is_shared"]

def methodWords : List String := ["type_of", "call", "curry", "is_shared"]

def isReserved (name : String) : Bool := reservedWords.contains name || callWords.contains name

/-- Words and signs that the language has taken. -/
def isTaken (text : String) : Bool :=
  keywords.contains text || isReserved text || text == "this" || signs.contains text

/-- Whether a function may have a name. -/
def isFunctionName (text : String) : Bool :=
  isName text.toList && text.toList.all isNamePart && !isTaken text

/-- Signs that stand for nothing in the language. -/
def reservedSigns : List String :=
  ["===", "!==", "->", "<-", "?", ":=", ":;", "~", "!.", "::<", "(*", "*)", "#", "#!", "@", "$", "++",
    "--", "...", "<|", "|>"]

/-- How strongly an operator binds. -/
def strength : Token → Nat
  | .sign text =>
    match text with
    | "||" | "|" | "^" => 30
    | "&&" | "&" => 60
    | "==" | "!=" => 90
    | "<" | "<=" | ">" | ">=" => 130
    | "??" => 135
    | ".." | "..=" => 140
    | "+" | "-" => 150
    | "/" | "*" | "%" => 180
    | "**" => 190
    | "<<" | ">>" => 210
    | _ => 0
  | .word name => if name == "in" then 110 else 0
  | _ => 0

def assignSigns : List String :=
  ["=", "+=", "-=", "*=", "/=", "%=", "**=", "<<=", ">>=", "&=", "|=", "^="]

/-- Kind of a literal in messages. -/
def Literal.kindName : Literal → String
  | .unit => "()"
  | .bool _ => "a boolean"
  | .int _ => "a number"
  | .float _ => "a floating-point number"
  | .char _ => "a character"
  | .text _ => "a string"

/-- Fails unless an expression may be a boolean. -/
def needBoolean (place : Position) (value : Expr) : Reader Expr :=
  match value with
  | .literal (.bool _) => pure value
  | .literal other => failAt place (.wrongKind "a boolean expression" other.kindName)
  | .template .. => failAt place (.wrongKind "a boolean expression" "a string")
  | .list .. => failAt place (.wrongKind "a boolean expression" "an array")
  | .record .. => failAt place (.wrongKind "a boolean expression" "an object map")
  | _ => pure value

/-- Fails unless an expression may be gone through. -/
def needItems (place : Position) (value : Expr) : Reader Expr :=
  match value with
  | .literal (.text _) => pure value
  | .literal other => failAt place (.wrongKind "an iterable value" other.kindName)
  | .record .. => failAt place (.wrongKind "an iterable value" "an object map")
  | _ => pure value

/-- Fails if an expression can have no elements, or none under such a key. -/
def checkIndex (place : Position) (root key : Expr) : Reader Unit :=
  let nothing := failAt place (.badIndex "only arrays, object maps and strings can be indexed")
  let numberNeeded := failAt place (.badIndex "a number is expected")
  match root, key with
  | .literal .unit, _ | .literal (.bool _), _ | .literal (.float _), _ | .literal (.char _), _
  | .logic .., _ => nothing
  | .record .., .literal (.text _) => pure ()
  | .record .., .literal _ => failAt place (.badIndex "a string is expected")
  | .list .., .literal (.int _) | .literal (.text _), .literal (.int _)
  | .template .., .literal (.int _) | .literal (.int _), .literal (.int _) => pure ()
  | .list .., .literal _ | .literal (.text _), .literal _ | .template .., .literal _
  | .literal (.int _), .literal _ => numberNeeded
  | .list .., .template .. | .literal (.text _), .template .. => numberNeeded
  | _, _ => pure ()

/-- Whether a literal settles a connective: the ones before it matter, those behind it do not. -/
def Connective.settledBy : Connective → Literal → Bool
  | .both, .bool value => !value
  | .either, .bool value => value
  | .present, .unit => false
  | .present, _ => true
  | _, _ => false

/-- Whether a literal says nothing to a connective. -/
def Connective.ignores : Connective → Literal → Bool
  | .both, .bool value => value
  | .either, .bool value => !value
  | .present, .unit => true
  | _, _ => false

/-- The operands that matter. -/
def Connective.relevant (connective : Connective) : List Expr → List Expr
  | [] => []
  | .literal value :: rest =>
    if connective.ignores value then connective.relevant rest
    else if connective.settledBy value then [.literal value]
    else .literal value :: connective.relevant rest
  | other :: rest => other :: connective.relevant rest

/-- A connective with its operands, literals that do not matter left out. -/
def Connective.apply (connective : Connective) (left right : Expr) (place : Position) : Expr :=
  let operands :=
    match left with
    | .logic inner before _ => if inner == connective then before ++ [right] else [left, right]
    | _ => [left, right]
  match connective.relevant operands with
  | [] => .literal (.bool (connective == .both))
  | [operand] => operand
  | several => .logic connective several place

/-- The expression of an operator and its operands. -/
def operation (token : Token) (place leftPlace rightPlace : Position) (left right : Expr) :
    Reader Expr :=
  match token with
  | .word _ => pure (.call "contains" [right, left] place)
  | .sign "&&" => do
    let right ← needBoolean rightPlace right
    pure (Connective.both.apply (← needBoolean leftPlace left) right place)
  | .sign "||" => do
    let right ← needBoolean rightPlace right
    pure (Connective.either.apply (← needBoolean leftPlace left) right place)
  | .sign "??" => pure (Connective.present.apply left right place)
  | .sign text => pure (.call text [left, right] place)
  | _ => failAt place (.unexpected "operator")

/-- A minus sign in front of an expression; literals take it in. -/
def negated (place : Position) : Expr → Expr
  | .literal (.int n) =>
    if Decimal.fits64 (-n) then .literal (.int (-n))
    else .literal (.float (-(Decimal.nearest n.natAbs 0)))
  | .literal (.float x) => .literal (.float (-x))
  | operand => .call "-" [operand] place

/-- A plus sign in front of an expression means nothing to numbers. -/
def affirmed (place : Position) : Expr → Expr
  | .literal (.int n) => .literal (.int n)
  | .literal (.float x) => .literal (.float x)
  | operand => .call "+" [operand] place

/-- Whether a value may be put where an expression stands. -/
def isTarget : Expr → Bool
  | .variable_ .. => true
  | .chain root links =>
    let isVariable :=
      match root with
      | .variable_ .. | .self _ => true
      | _ => false
    isVariable && links.all fun link =>
      match link with
      | .method .. => false
      | _ => true
  | _ => false

/-- Whether no semicolon is needed behind a statement. -/
def endsItself : Stmt → Bool
  | .block _ | .branch .. | .choice .. | .whileLoop .. | .doLoop .. | .forLoop .. | .attempt .. => true
  | .expression (.statement body _) =>
    match body with
    | .block _ | .branch .. | .choice .. | .whileLoop .. | .doLoop .. | .forLoop .. | .attempt .. => true
    | _ => false
  | _ => false

/-- A name that may be bound. -/
def boundName : Reader String := do
  match (← peek).token with
  | .word name =>
    if keywords.contains name then refuse .nameExpected
    else if isReserved name || name == "this" then refuse (.reserved name)
    else
      skip
      pure name
  | .finish => refuse .incomplete
  | _ => refuse .nameExpected

/-- The name of a member, in a record or behind a point. -/
def memberName : Reader String := do
  match (← peek).token with
  | .word name =>
    if keywords.contains name then refuse .propertyExpected
    else if isReserved name || name == "this" then refuse (.reserved name)
    else
      skip
      pure name
  | .text name =>
    skip
    pure name
  | _ => refuse .propertyExpected

/-- Whether a list of arguments comes next; an empty one is taken whole. -/
inductive Opening
  | none | empty | args

def opening : Reader Opening := do
  if ← takes "()" then pure .empty
  else if ← takes "(" then pure .args
  else pure .none

/-- Names of parameters up to a closing sign, the end of the list excepted behind a comma. `owner` is
what messages call their function, `kind` where they speak of its parameters. -/
def paramNames (closing kind owner : String) (found : List String) : Nat → Reader (List String)
  | 0 => refuse .incomplete
  | fuel + 1 => do
    let next ← peek
    match next.token with
    | .word name =>
      if keywords.contains name || isReserved name || name == "this" then
        refuse (.missing closing s!"to close the parameters list of {kind}")
      else if found.contains name then failAt next.place (.repeatedParameter name owner)
      else
        skip
        if ← takes closing then pure (found ++ [name])
        else if ← takes "," then
          if ← takes closing then pure (found ++ [name])
          else paramNames closing kind owner (found ++ [name]) fuel
        else refuse (.missing "," s!"to separate the parameters of {kind}")
    | _ => refuse (.missing closing s!"to close the parameters list of {kind}")

/-- Parameters of a closure behind its first bar. -/
def closureParams (fuel : Nat) : Reader (List String) := do
  if ← takes "|" then pure []
  else paramNames "|" "anonymous function or closure" "anonymous function" [] fuel

/-- Parameters of a function that has a name. -/
def functionParams (name : String) (fuel : Nat) : Reader (List String) := do
  match ← opening with
  | .none => refuse (.parametersExpected name)
  | .empty => pure []
  | .args =>
    if ← takes ")" then pure []
    else paramNames ")" s!"function '{name}'" s!"function '{name}'" [] fuel

/-- The name of a function that is defined. -/
def functionName : Reader String := do
  match (← peek).token with
  | .word name =>
    if keywords.contains name then refuse .functionNameExpected
    else if isReserved name || name == "this" then refuse (.reserved name)
    else
      skip
      pure name
  | _ => refuse .functionNameExpected

/-- Enters a function among those that are defined. -/
def defineFunction (place : Position) (function : Function) : Reader Unit := do
  let made := (← get).made
  let taken := made.functions.any fun other =>
    other.name == function.name && other.params.length == function.params.length
  if taken then failAt place (.repeatedFunction function.name function.params.length)
  else
    let functions := function :: made.functions
    modify fun source => { source with made := { made with functions } }

/-- A module and the name behind it, read on from a name. -/
def modulePath (module name : String) : Nat → Reader (String × String)
  | 0 => refuse .incomplete
  | fuel + 1 => do
    if ← takes "::" then
      let next ← boundName
      modulePath (if module.isEmpty then name else module ++ "::" ++ name) next fuel
    else pure (module, name)

/-- Gives failures another reason. -/
def saying {α : Type} (fault : ReadFault) (read : Reader α) : Reader α := fun source =>
  (read source).mapError fun error => { error with fault }

/-- True of expressions that may label a case: constants, and ranges between integers. -/
def isLabel : Expr → Bool
  | .call ".." [.literal (.int _), .literal (.int _)] _ => true
  | .call "..=" [.literal (.int _), .literal (.int _)] _ => true
  | .closure .. => false
  | value => value.isConstant

/-- Whether a value follows a word such as `return`. -/
def valueFollows : Reader Bool := do
  match (← peek).token with
  | .finish => pure false
  | .sign text => pure (text != ";" && text != "\x7d")
  | _ => pure true

mutual

def expression (setting : Setting) : Nat → Reader Expr
  | 0 => refuse .incomplete
  | fuel + 1 => do
    let inner ← setting.deeper
    let start := (← peek).place
    let left ← unary inner fuel
    binary inner 1 start left fuel

/-- Operators behind an operand, as far as they bind at least as strongly as `floor`. -/
def binary (setting : Setting) (floor : Nat) (start : Position) (left : Expr) : Nat → Reader Expr
  | 0 => refuse .incomplete
  | fuel + 1 => do
    let operator ← peek
    match operator.token with
    | .sign text => if reservedSigns.contains text then refuse (.unknownOperator text)
    | _ => pure ()
    let force := strength operator.token
    let bindsRight (token : Token) : Bool :=
      match token with
      | .sign text => text == "**"
      | _ => false
    let barred : Bool :=
      match operator.token with
      | .sign text => setting.inLabel && text == "|"
      | _ => false
    if barred || force < floor || (force == floor && !bindsRight operator.token) || force == 0 then
      pure left
    else
      skip
      let rightPlace := (← peek).place
      let operand ← unary setting fuel
      let next ← peek
      let nextForce := strength next.token
      let right ←
        if nextForce > force || (nextForce == force && bindsRight operator.token) then
          binary setting force rightPlace operand fuel
        else pure operand
      let joined ← operation operator.token operator.place start rightPlace left right
      binary (← setting.deeper) floor start joined fuel

def unary (setting : Setting) : Nat → Reader Expr
  | 0 => refuse .incomplete
  | fuel + 1 => do
    let place := (← peek).place
    if ← takes "-" then
      pure (negated place (← unary (← setting.deeper) fuel))
    else if ← takes "+" then
      pure (affirmed place (← unary (← setting.deeper) fuel))
    else if ← takes "!" then
      pure (.call "!" [← unary (← setting.deeper) fuel] place)
    else
      let root ← primary setting fuel
      links setting place root [] fuel

/-- The steps of a chain behind its root; those read come last first. -/
def links (setting : Setting) (start : Position) (root : Expr) (read : List Link) :
    Nat → Reader Expr
  | 0 => refuse .incomplete
  | fuel + 1 => do
    let optionalPoint ← takes "?."
    let point ← if optionalPoint then pure true else takes "."
    if point then
      let inner ← setting.deeper
      let next ← peek
      match next.token with
      | .word name =>
        if keywords.contains name then refuse .propertyExpected
        else
          skip
          match ← opening with
          | .none =>
            if isReserved name || name == "this" then failAt next.place (.reserved name)
            else links inner start root (.property name optionalPoint next.place :: read) fuel
          | found =>
            if isReserved name && !methodWords.contains name then failAt next.place (.reserved name)
            else
              let args ←
                match found with
                | .args => arguments (← inner.deeper) fuel
                | _ => pure []
              links inner start root (.method name args optionalPoint next.place :: read) fuel
      | .finish => refuse .incomplete
      | _ => refuse .propertyExpected
    else
      let place := (← peek).place
      let optionalBracket ← takes "?["
      let bracket ← if optionalBracket then pure true else takes "["
      if bracket then
        let inner ← setting.deeper
        let keyPlace := (← peek).place
        let key ← expression inner fuel
        if read.isEmpty then checkIndex keyPlace root key
        need "]" "for a matching [ in this index expression"
        links inner start root (.index key optionalBracket place :: read) fuel
      else if read.isEmpty then pure root
      else pure (.chain root read.reverse)

/-- Arguments up to the closing parenthesis. -/
def arguments (setting : Setting) : Nat → Reader (List Expr)
  | 0 => refuse .incomplete
  | fuel + 1 => do
    if ← takes ")" then pure []
    else
      let first ← expression setting fuel
      if ← takes ")" then pure [first]
      else if ← takes "," then pure (first :: (← arguments setting fuel))
      else refuse (.missing "," "to separate the arguments to function call")

def primary (setting : Setting) : Nat → Reader Expr
  | 0 => refuse .incomplete
  | fuel + 1 => do
    let next ← peek
    match next.token with
    | .int n =>
      skip
      pure (.literal (.int n))
    | .float x =>
      skip
      pure (.literal (.float x))
    | .char c =>
      skip
      pure (.literal (.char c))
    | .text value =>
      skip
      if Limits.exceeded setting.limits.text value.utf8ByteSize then
        failAt next.place (.tooLarge "Length of string" setting.limits.text)
      else pure (.literal (.text value))
    | .template value false =>
      skip
      if Limits.exceeded setting.limits.text value.utf8ByteSize then
        failAt next.place (.tooLarge "Length of string" setting.limits.text)
      else pure (.literal (.text value))
    | .template value true =>
      skip
      let pieces ← placeholder (← setting.deeper) fuel
      let first := if value.isEmpty then [] else [Expr.literal (.text value)]
      pure (.template (first ++ pieces) next.place)
    | .bad lexical => failAt next.place (.lexical lexical)
    | .finish => refuse .incomplete
    | .word name => wordExpression setting name next.place fuel
    | .sign text =>
      match text with
      | "()" =>
        skip
        pure (.literal .unit)
      | "(" =>
        skip
        if ← takes ")" then pure (.literal .unit)
        else
          let value ← expression (← setting.deeper) fuel
          need ")" "for a matching ( in this expression"
          pure value
      | "[" =>
        skip
        pure (.list (← listItems (← setting.deeper) 0 fuel) next.place)
      | "#\x7b" =>
        skip
        pure (.record (← recordMembers (← setting.deeper) [] fuel) next.place)
      | "\x7b" => pure (.statement (← block (← setting.deeper) fuel) next.place)
      | "|" =>
        skip
        closure setting (← closureParams fuel) next.place fuel
      | "||" =>
        skip
        closure setting [] next.place fuel
      | _ => refuse (.unexpected text)

/-- An expression that starts with a word. -/
def wordExpression (setting : Setting) (name : String) (place : Position) : Nat → Reader Expr
  | 0 => refuse .incomplete
  | fuel + 1 => do
    match name with
    | "true" =>
      skip
      pure (.literal (.bool true))
    | "false" =>
      skip
      pure (.literal (.bool false))
    | "if" => pure (.statement (← branch (← setting.deeper) fuel) place)
    | "while" | "loop" | "do" | "for" => pure (.statement (← loop (← setting.deeper) fuel) place)
    | "switch" => pure (.statement (← choice (← setting.deeper) fuel) place)
    | "this" =>
      if setting.inFunction then
        skip
        pure (.self place)
      else refuse (.reserved name)
    | _ =>
      if keywords.contains name then refuse (.unexpected name)
      else
        skip
        if ← comes "::" then
          if isReserved name then failAt place (.reserved name)
          else
            let (module, last) ← modulePath "" name fuel
            match ← opening with
            | .none => pure (.foreign module last false [] place)
            | .empty => pure (.foreign module last true [] place)
            | .args => pure (.foreign module last true (← arguments (← setting.deeper) fuel) place)
        else
          match ← opening with
          | .none =>
            if isReserved name then failAt place (.reserved name) else pure (.variable_ name place)
          | found =>
            if isReserved name && !callWords.contains name then failAt place (.reserved name)
            else
              match found with
              | .args => pure (.call name (← arguments (← setting.deeper) fuel) place)
              | _ => pure (.call name [] place)

/-- Items of a list up to its closing bracket. -/
def listItems (setting : Setting) (count : Nat) : Nat → Reader (List Expr)
  | 0 => refuse .incomplete
  | fuel + 1 => do
    if setting.limits.list != 0 && count ≥ setting.limits.list then
      refuse (.tooLarge "Size of array/BLOB literal" setting.limits.list)
    if ← takes "]" then pure []
    else
      let first ← expression setting fuel
      if ← comes "]" then pure (first :: (← listItems setting (count + 1) fuel))
      else if ← takes "," then pure (first :: (← listItems setting (count + 1) fuel))
      else refuse (.missing "," "to separate the items of this array literal")

/-- Members of a record up to its closing brace. -/
def recordMembers (setting : Setting) (known : List String) : Nat → Reader (List (String × Expr))
  | 0 => refuse .incomplete
  | fuel + 1 => do
    if setting.limits.record != 0 && known.length ≥ setting.limits.record then
      refuse (.tooLarge "Number of properties in object map literal" setting.limits.record)
    if ← takes "\x7d" then pure []
    else
      let place := (← peek).place
      let name ← memberName
      if known.contains name then failAt place (.repeatedProperty name)
      need ":" s!"to follow the property '{name}' in this object map literal"
      let value ← expression setting fuel
      if ← comes "\x7d" then pure ((name, value) :: (← recordMembers setting (name :: known) fuel))
      else if ← takes "," then pure ((name, value) :: (← recordMembers setting (name :: known) fuel))
      else refuse (.missing "," "to separate the items of this object map literal")

/-- A placeholder of a template and what follows it. -/
def placeholder (setting : Setting) : Nat → Reader (List Expr)
  | 0 => refuse .incomplete
  | fuel + 1 => do
    let place := (← peek).place
    let code : Expr := .statement (← block setting fuel) place
    let next ← peek
    match next.token with
    | .template value goesOn =>
      skip
      let piece := if value.isEmpty then [] else [Expr.literal (.text value)]
      if goesOn then pure (code :: piece ++ (← placeholder setting fuel)) else pure (code :: piece)
    | .finish => refuse .incomplete
    | _ => refuse (.unexpected "template")

/-- A closure behind its parameters. -/
def closure (setting : Setting) (params : List String) (place : Position) : Nat → Reader Expr
  | 0 => refuse .incomplete
  | fuel + 1 => do
    let inner ← ({ setting with
      deepest := deepestInside, inLoop := false, inFunction := true, inBlock := true } : Setting).deeper
    let body ← statement inner fuel
    let made := (← get).made
    modify fun source => { source with made := { made with closures := made.closures + 1 } }
    pure (.closure made.closures params ((body.free params []).1) body place)

/-- The definition of a function behind its word. It does nothing where it stands. -/
def definition (setting : Setting) : Nat → Reader Stmt
  | 0 => refuse .incomplete
  | fuel + 1 => do
    if setting.inBlock then refuse .functionInside
    skip
    let name ← functionName
    let params ← functionParams name fuel
    if !(← comes "\x7b") then refuse (.bodyExpected name)
    let place := (← peek).place
    let inner ← ({ setting with
      level := 0, deepest := deepestInside, inFunction := true, inBlock := true } : Setting).deeper
    let body ← statement inner fuel
    defineFunction place ⟨name, [], params, some body⟩
    pure (.block [])

/-- A block with its braces. -/
def block (setting : Setting) : Nat → Reader Stmt
  | 0 => refuse .incomplete
  | fuel + 1 => do
    need "\x7b" "to start a statement block"
    pure (.block (← statements { setting with inBlock := true } "\x7d" fuel))

/-- The body of a block. -/
def body (setting : Setting) : Nat → Reader (List Stmt)
  | 0 => refuse .incomplete
  | fuel + 1 => do
    need "\x7b" "to start a statement block"
    statements { setting with inBlock := true } "\x7d" fuel

/-- Statements up to a closing sign, or up to the end of the script if that is empty. -/
def statements (setting : Setting) (closing : String) : Nat → Reader (List Stmt)
  | 0 => refuse .incomplete
  | fuel + 1 => do
    let finished ← comesFinish
    if closing.isEmpty && finished then pure []
    else if !closing.isEmpty && (← takes closing) then pure []
    else if finished then refuse (.missing closing "to terminate this block")
    else if ← takes ";" then statements setting closing fuel
    else
      let first ← statement setting fuel
      let atEnd ← if closing.isEmpty then comesFinish else comes closing
      if atEnd || endsItself first then pure (first :: (← statements setting closing fuel))
      else if ← takes ";" then pure (first :: (← statements setting closing fuel))
      else refuse (.missing ";" "to terminate this statement")

def statement (setting : Setting) : Nat → Reader Stmt
  | 0 => refuse .incomplete
  | fuel + 1 => do
    let inner ← setting.deeper
    let next ← peek
    match next.token with
    | .sign "\x7b" => block inner fuel
    | .sign ";" =>
      skip
      pure (.block [])
    | .word "if" => branch inner fuel
    | .word "while" | .word "loop" | .word "do" | .word "for" => loop inner fuel
    | .word "switch" => choice inner fuel
    | .word "continue" =>
      if setting.inLoop then
        skip
        pure .next
      else refuse .outsideLoop
    | .word "break" =>
      if setting.inLoop then
        skip
        if ← valueFollows then pure (.leave (some (← expression inner fuel)))
        else pure (.leave none)
      else refuse .outsideLoop
    | .word "return" =>
      skip
      if ← valueFollows then pure (.giveBack (some (← expression inner fuel)))
      else pure (.giveBack none)
    | .word "throw" =>
      skip
      if ← valueFollows then pure (.throw_ (some (← expression inner fuel)) next.place)
      else pure (.throw_ none next.place)
    | .word "try" =>
      skip
      let attempted ← body inner fuel
      if !(← takesWord "catch") then refuse (.missing "catch" "for the 'try' statement")
      let name ←
        if ← takes "(" then
          let name ← boundName
          need ")" "to enclose the catch variable"
          pure (some name)
        else pure none
      pure (.attempt attempted name (← body inner fuel))
    | .word "let" => declaration inner fuel
    | .word "fn" => definition inner fuel
    | .word "private" =>
      skip
      if ← comesWord "fn" then definition inner fuel
      else refuse (.missing "fn" "following 'private'")
    | .word "import" =>
      skip
      let place := (← peek).place
      let path ← expression inner fuel
      if ← takesWord "as" then discard boundName
      pure (.importModule path place)
    | .word "export" =>
      if setting.inBlock then refuse .exportInside
      skip
      if ← comesWord "let" then declaration inner fuel
      else
        let place := (← peek).place
        let name ← boundName
        if ← takesWord "as" then discard boundName
        pure (.exportName name place)
    | _ => assignment inner fuel

/-- The declaration of a variable. -/
def declaration (setting : Setting) : Nat → Reader Stmt
  | 0 => refuse .incomplete
  | fuel + 1 => do
    skip
    let name ← boundName
    if ← takes "=" then pure (.declare name (some (← expression setting fuel)))
    else pure (.declare name none)

/-- An expression on its own, or an assignment. -/
def assignment (setting : Setting) : Nat → Reader Stmt
  | 0 => refuse .incomplete
  | fuel + 1 => do
    let start := (← peek).place
    let target ← expression setting fuel
    let next ← peek
    match next.token with
    | .sign text =>
      if assignSigns.contains text then
        skip
        let value ← expression setting fuel
        if isTarget target then
          let operator := if text == "=" then none else some (String.ofList text.toList.dropLast)
          pure (.assign operator target value next.place)
        else failAt start .badTarget
      else pure (.expression target)
    | _ => pure (.expression target)

/-- An `if` with its branches. -/
def branch (setting : Setting) : Nat → Reader Stmt
  | 0 => refuse .incomplete
  | fuel + 1 => do
    skip
    if ← comes "\x7b" then refuse (.unexpected "\x7b")
    let place := (← peek).place
    let condition ← needBoolean place (← expression setting fuel)
    let yes ← body setting fuel
    if ← takesWord "else" then
      match (← peek).token with
      | .word "if" => pure (.branch condition yes [← branch setting fuel])
      | _ => pure (.branch condition yes (← body setting fuel))
    else pure (.branch condition yes [])

/-- A choice between cases. -/
def choice (setting : Setting) : Nat → Reader Stmt
  | 0 => refuse .incomplete
  | fuel + 1 => do
    skip
    let value ← expression setting fuel
    need "\x7b" "to start a switch block"
    let (found, otherwise) ← cases setting fuel
    pure (.choice value found otherwise)

/-- Cases up to the closing brace. What is done in all other cases comes last. -/
def cases (setting : Setting) : Nat → Reader (List Case × Option Stmt)
  | 0 => refuse .incomplete
  | fuel + 1 => do
    let place := (← peek).place
    if ← takes "\x7d" then pure ([], none)
    else if ← comesFinish then refuse (.missing "\x7d" "to end this switch block")
    else if ← takesWord "_" then
      if ← comesWord "if" then refuse .conditionInDefault
      let action ← caseAction setting fuel
      if ← takes "\x7d" then pure ([], some action)
      else if ← comesFinish then refuse (.missing "\x7d" "to end this switch block")
      else failAt place .defaultNotLast
    else
      let labels ← caseLabels { setting with inLabel := true } fuel
      let condition ←
        if ← takesWord "if" then
          let place := (← peek).place
          pure (some (← needBoolean place (← expression setting fuel)))
        else pure none
      let action ← caseAction setting fuel
      match labels.find? fun label => !isLabel label.1 with
      | some label => failAt label.2 (.expressionExpected "a literal")
      | none =>
        let (others, otherwise) ← cases setting fuel
        pure (.mk (labels.map Prod.fst) condition action :: others, otherwise)

/-- The labels of a case, each with its place. -/
def caseLabels (setting : Setting) : Nat → Reader (List (Expr × Position))
  | 0 => refuse .incomplete
  | fuel + 1 => do
    let place := (← peek).place
    let label ← saying (.expressionExpected "literal") (expression setting fuel)
    if ← takes "|" then pure ((label, place) :: (← caseLabels setting fuel))
    else pure [(label, place)]

/-- What is done in a case. -/
def caseAction (setting : Setting) : Nat → Reader Stmt
  | 0 => refuse .incomplete
  | fuel + 1 => do
    need "=>" "in this switch case"
    let action ← statement { setting with inBlock := true } fuel
    if ← takes "," then pure action
    else
      let atEnd ← comes "\x7d"
      if atEnd || endsItself action then pure action
      else if ← comesFinish then refuse (.missing "\x7d" "to end this switch block")
      else refuse (.missing "," "to separate the items in this switch block")

/-- A loop of any kind. -/
def loop (setting : Setting) : Nat → Reader Stmt
  | 0 => refuse .incomplete
  | fuel + 1 => do
    let inner := { setting with inLoop := true }
    let start ← peek
    skip
    match start.token with
    | .word "loop" => pure (.whileLoop none (← body inner fuel) start.place)
    | .word "while" =>
      if ← comes "\x7b" then refuse (.unexpected "\x7b")
      let place := (← peek).place
      let condition ← needBoolean place (← expression setting fuel)
      pure (.whileLoop (some condition) (← body inner fuel) start.place)
    | .word "do" =>
      let repeated ← body inner fuel
      let stopsOn ←
        if ← takesWord "while" then pure false
        else if ← takesWord "until" then pure true
        else refuse (.missing "while" "for the do statement")
      if ← comes "\x7b" then refuse (.unexpected "\x7b")
      let place := (← peek).place
      let condition ← needBoolean place (← expression setting fuel)
      pure (.doLoop repeated condition stopsOn start.place)
    | _ =>
      let name ← boundName
      if !(← takesWord "in") then refuse (.missing "in" "after the iteration variable")
      if ← comes "\x7b" then refuse (.unexpected "\x7b")
      let place := (← peek).place
      let items ← needItems place (← expression setting fuel)
      pure (.forLoop name items (← body inner fuel) start.place)

end

/-- The script whose statements have been read. -/
def scriptOf (read : List Stmt × Source) : Script := ⟨read.2.made.functions.reverse, read.1⟩

/-- Reads a script. -/
def read (limits : Limits) (script : String) : Except ReadError Script :=
  let lexemes := Lexeme.ofText script
  let setting : Setting := ⟨limits, 0, deepestOutside, false, false, false, false⟩
  (statements setting "" (12 * lexemes.length + 24) ⟨lexemes, ⟨0, []⟩⟩).map scriptOf

end ApiProbe.Plain
