import ApiProbe.Plain.Token

/-!
Syntax of the plain script language. Operators are calls whose name is a sign. Points, brackets and
method calls behind a value make a chain. A closure lists the outer variables that it speaks of, in
the order in which they occur. The functions that a script defines stand beside its statements.
-/
namespace ApiProbe.Plain

inductive Literal
  | unit
  | bool (value : Bool)
  | int (value : Int)
  | float (value : Float)
  | char (value : Char)
  | text (value : String)

/-- Operators of logic evaluate only as many operands as they need. -/
inductive Connective
  | both
  | either
  /-- The first operand that is not the unit. -/
  | present
  deriving Repr, DecidableEq

mutual

inductive Expr
  | literal (value : Literal)
  | variable_ (name : String) (place : Position)
  | self (place : Position)
  | list (items : List Expr) (place : Position)
  | record (members : List (String × Expr)) (place : Position)
  /-- A text put together from pieces. -/
  | template (pieces : List Expr) (place : Position)
  | call (name : String) (args : List Expr) (place : Position)
  /-- A variable of a module, or a function of one that is called. -/
  | foreign (module name : String) (called : Bool) (args : List Expr) (place : Position)
  | logic (connective : Connective) (operands : List Expr) (place : Position)
  | chain (root : Expr) (links : List Link)
  | statement (body : Stmt) (place : Position)
  | closure (number : Nat) (params : List String) (captured : List (String × Position)) (body : Stmt)
      (place : Position)

/-- A step of a chain. An optional step ends the chain at the unit. -/
inductive Link
  | property (name : String) (optional : Bool) (place : Position)
  | method (name : String) (args : List Expr) (optional : Bool) (place : Position)
  | index (key : Expr) (optional : Bool) (place : Position)

inductive Stmt
  | expression (value : Expr)
  | declare (name : String) (value : Option Expr)
  /-- An assignment, with the operator that it applies, if any. -/
  | assign (operator : Option String) (target : Expr) (value : Expr) (place : Position)
  | block (body : List Stmt)
  | branch (condition : Expr) (yes no : List Stmt)
  /-- A choice between cases, with a statement for all other values. -/
  | choice (value : Expr) (cases : List Case) (otherwise : Option Stmt)
  /-- A loop that tests first; without a condition it goes on until it is left. -/
  | whileLoop (condition : Option Expr) (body : List Stmt) (place : Position)
  /-- A loop that tests last, and ends when the test gives `stopsOn`. -/
  | doLoop (body : List Stmt) (condition : Expr) (stopsOn : Bool) (place : Position)
  | forLoop (name : String) (items : Expr) (body : List Stmt) (place : Position)
  | leave (value : Option Expr)
  | next
  | giveBack (value : Option Expr)
  | throw_ (value : Option Expr) (place : Position)
  | attempt (body : List Stmt) (name : Option String) (handler : List Stmt)
  | importModule (path : Expr) (place : Position)
  | exportName (name : String) (place : Position)

/-- A case of a choice: the constants that it is for, and what must hold, too. -/
inductive Case
  | mk (labels : List Expr) (condition : Option Expr) (action : Stmt)

end

instance : Inhabited Expr := ⟨.literal .unit⟩
instance : Inhabited Stmt := ⟨.block []⟩

/-- A function of a script. The names of what a closure captured come before its parameters. A function
that is known by its name alone has no body. -/
structure Function where
  name : String
  captured : List String
  params : List String
  body : Option Stmt

namespace Function

/-- A function that is looked for when it is called. -/
def named (name : String) : Function := ⟨name, [], [], none⟩

/-- True of functions that do nothing. -/
def isEmpty (function : Function) : Bool :=
  match function.body with
  | some (.block []) => true
  | _ => false

end Function

/-- The name of a closure, like no other in the script. -/
def closureName (number : Nat) : String :=
  let digits := Nat.toDigits 16 number
  "anon$" ++ String.ofList (List.replicate (16 - digits.length) '0' ++ digits)

/-- The functions that a script defines, and what it does. -/
structure Script where
  functions : List Function
  body : List Stmt

namespace Expr

/-- Place at which an expression is said to be. -/
def place : Expr → Position
  | .literal _ => .start
  | .variable_ _ place | .self place | .list _ place | .record _ place | .template _ place
  | .call _ _ place | .foreign _ _ _ _ place | .logic _ _ place | .statement _ place
  | .closure _ _ _ _ place => place
  | .chain root _ => root.place

/-- True of expressions without anything left to evaluate. -/
def isLiteral : Expr → Bool
  | .literal _ => true
  | _ => false

end Expr

mutual

/-- True of expressions that are values as they stand. -/
def Expr.isConstant : Expr → Bool
  | .literal _ => true
  | .list items _ | .template items _ => allConstant items
  | .record members _ => allConstantMembers members
  | .closure _ _ captured _ _ => captured.isEmpty
  | _ => false

def allConstant : List Expr → Bool
  | [] => true
  | item :: rest => item.isConstant && allConstant rest

def allConstantMembers : List (String × Expr) → Bool
  | [] => true
  | (_, value) :: rest => value.isConstant && allConstantMembers rest

end

/-- Names found free, and names bound from here on. -/
abbrev Names := List (String × Position)

/-- Adds a name that is not bound. -/
def addFree (bound : List String) (found : Names) (name : String) (place : Position) : Names :=
  if bound.contains name || found.any (fun entry => entry.1 == name) then found
  else found ++ [(name, place)]

mutual

/-- Adds the free variables of an expression to those found before it, in order of appearance. -/
def Expr.free (bound : List String) (found : Names) : Expr → Names
  | .literal _ | .self _ => found
  | .variable_ name place => addFree bound found name place
  | .list items _ | .template items _ | .call _ items _ | .foreign _ _ _ items _ | .logic _ items _ =>
    freeIn bound found items
  | .record members _ => freeInMembers bound found members
  | .chain root links => freeInLinks bound (root.free bound found) links
  | .statement body _ => (body.free bound found).1
  | .closure _ _ captured _ _ =>
    captured.foldl (fun found (name, place) => addFree bound found name place) found

def freeIn (bound : List String) (found : Names) : List Expr → Names
  | [] => found
  | item :: rest => freeIn bound (item.free bound found) rest

def freeInMembers (bound : List String) (found : Names) : List (String × Expr) → Names
  | [] => found
  | (_, value) :: rest => freeInMembers bound (value.free bound found) rest

def freeInLinks (bound : List String) (found : Names) : List Link → Names
  | [] => found
  | .property .. :: rest => freeInLinks bound found rest
  | .method _ args _ _ :: rest => freeInLinks bound (freeIn bound found args) rest
  | .index key _ _ :: rest => freeInLinks bound (key.free bound found) rest

/-- The free variables, and the names that are bound behind the statement. -/
def Stmt.free (bound : List String) (found : Names) : Stmt → Names × List String
  | .expression value => (value.free bound found, bound)
  | .declare name value => (freeInOption bound found value, name :: bound)
  | .assign _ target value _ => (value.free bound (target.free bound found), bound)
  | .block body => (freeInBody bound found body, bound)
  | .branch condition yes no =>
    (freeInBody bound (freeInBody bound (condition.free bound found) yes) no, bound)
  | .choice value cases otherwise =>
    (freeInOtherwise bound (freeInCases bound (value.free bound found) cases) otherwise, bound)
  | .whileLoop condition body _ => (freeInBody bound (freeInOption bound found condition) body, bound)
  | .doLoop body condition _ _ => (condition.free bound (freeInBody bound found body), bound)
  | .forLoop name items body _ => (freeInBody (name :: bound) (items.free bound found) body, bound)
  | .leave value | .giveBack value | .throw_ value _ => (freeInOption bound found value, bound)
  | .next => (found, bound)
  | .attempt body name handler =>
    (freeInBody (name.toList ++ bound) (freeInBody bound found body) handler, bound)
  | .importModule path _ => (path.free bound found, bound)
  | .exportName name place => (addFree bound found name place, bound)

def freeInCases (bound : List String) (found : Names) : List Case → Names
  | [] => found
  | .mk _ condition action :: rest =>
    freeInCases bound (action.free bound (freeInOption bound found condition)).1 rest

def freeInOtherwise (bound : List String) (found : Names) : Option Stmt → Names
  | none => found
  | some action => (action.free bound found).1

def freeInOption (bound : List String) (found : Names) : Option Expr → Names
  | none => found
  | some value => value.free bound found

def freeInBody (bound : List String) (found : Names) : List Stmt → Names
  | [] => found
  | statement :: rest =>
    let (names, inside) := statement.free bound found
    freeInBody inside names rest

end

end ApiProbe.Plain
