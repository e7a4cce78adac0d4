import ApiProbe.Plain.Syntax

/-!
Leaving out what a script does not need. An expression that does no more than name variables is not
evaluated where nobody uses its value, so that a missing variable goes unnoticed there. What stays
has the same effect and the same value as before.
-/
namespace ApiProbe.Plain

mutual

/-- True of expressions that have a value and no effect. -/
def Expr.isPure : Expr → Bool
  | .literal _ | .variable_ .. => true
  | .list items _ | .template items _ | .logic _ items _ => allPure items
  | .record members _ => allPureMembers members
  | .statement body _ => body.isPure
  | .closure _ _ captured _ _ => captured.isEmpty
  | .foreign _ _ called _ _ => !called
  | _ => false

def allPure : List Expr → Bool
  | [] => true
  | item :: rest => item.isPure && allPure rest

def allPureMembers : List (String × Expr) → Bool
  | [] => true
  | (_, value) :: rest => value.isPure && allPureMembers rest

/-- True of statements that have no effect; a loop must also be known to end. -/
def Stmt.isPure : Stmt → Bool
  | .expression value => value.isPure
  | .block body => bodyIsPure body
  | .branch condition yes no => condition.isPure && bodyIsPure yes && bodyIsPure no
  | .choice value cases otherwise => value.isPure && casesArePure cases && otherwiseIsPure otherwise
  | .whileLoop (some (.literal (.bool false))) _ _ => true
  | .doLoop body (.literal (.bool value)) stopsOn _ => value == stopsOn && bodyIsPure body
  | .forLoop _ items body _ => items.isPure && bodyIsPure body
  | .attempt body _ handler => bodyIsPure body && bodyIsPure handler
  | _ => false

def casesArePure : List Case → Bool
  | [] => true
  | .mk _ none action :: rest => action.isPure && casesArePure rest
  | .mk _ (some condition) action :: rest =>
    condition.isPure && action.isPure && casesArePure rest

def otherwiseIsPure : Option Stmt → Bool
  | none => true
  | some action => action.isPure

def bodyIsPure : List Stmt → Bool
  | [] => true
  | statement :: rest => statement.isPure && bodyIsPure rest

end

namespace Stmt

/-- True of statements without an effect outside of their block. -/
def isPureInside : Stmt → Bool
  | .declare _ (some value) => value.isPure
  | .declare _ none => true
  | statement => statement.isPure

def isDeclaration : Stmt → Bool
  | .declare .. => true
  | _ => false

/-- A statement that stands for the unit. -/
def nothing : Stmt := .expression (.literal .unit)

/-- True of statements whose value is the value of a block that they end. -/
def hasValue : Stmt → Bool
  | .expression (.literal .unit) => false
  | .expression _ | .block _ | .branch .. | .choice .. => true
  | _ => false

/-- True of statements that keep the declarations in front of them. -/
def isAnchor (idle : Stmt → Bool) (statement : Stmt) : Bool :=
  !idle statement ||
    match statement with
    | .declare _ (some value) => value.isConstant
    | .declare _ none => true
    | .expression value => !value.isConstant
    | _ => false

end Stmt

/-- Blocks that declare nothing give way to what is in them. -/
def flattened (body : List Stmt) : List Stmt :=
  body.flatMap fun statement =>
    match statement with
    | .block inner => if inner.any Stmt.isDeclaration then [.block inner] else inner
    | other => [other]

/-- Leaves out statements without an effect, but not the last one if its value is used. -/
def withoutIdle (used : Bool) (idle : Stmt → Bool) (body : List Stmt) : List Stmt :=
  let places := body.zipIdx
  let anchor := ((places.filter fun entry => entry.1.isAnchor idle).getLast?.map Prod.snd).getD 0
  let kept := places.filter fun (statement, place) =>
    (used && place + 1 == body.length)
      || !(statement.isPure || (idle statement && place ≥ anchor))
  kept.map Prod.fst

/-- Leaves out idle statements from the end of a body that is given last statement first. -/
def withoutTail (used : Bool) (idle : Stmt → Bool) : List Stmt → List Stmt
  | [] => []
  | last :: rest =>
    if !idle last || (used && last.hasValue) then last :: rest
    else
      match used, rest with
      | true, before :: _ => if before.hasValue then .nothing :: rest else withoutTail used idle rest
      | _, _ => withoutTail used idle rest

/-- Goes over a body as long as something can be left out. -/
def tidied (used : Bool) (idle : Stmt → Bool) : Nat → List Stmt → List Stmt
  | 0, body => body
  | fuel + 1, body =>
    let next := (withoutTail used idle (withoutIdle used idle body).reverse).reverse
    if next.length < body.length then tidied used idle fuel next else next

def settledBody (used : Bool) (idle : Stmt → Bool) (body : List Stmt) : List Stmt :=
  let body := flattened body
  tidied used idle (body.length + 1) body

/-- An assignment; one that names its target as the first operand applies the operator to it. -/
def augmented (operator : Option String) (target value : Expr) (place : Position) : Stmt :=
  match operator, target, value with
  | none, .variable_ name _, .call sign [.variable_ other _, operand] mark =>
    if name == other && augmenting.contains sign then .assign (some sign) target operand mark
    else .assign none target value place
  | _, _, _ => .assign operator target value place
where
  /-- Operators that an assignment can apply. -/
  augmenting : List String := ["+", "-", "*", "/", "%", "**", "<<", ">>", "&", "|", "^"]

/-- The body of a function is a block; a single statement gets one. -/
def functionBody (pruned : Stmt) : Stmt → Stmt
  | .block _ => pruned
  | _ => .block (settledBody true Stmt.isPure [pruned])

mutual

def Expr.pruned : Expr → Expr
  | .list items place => .list (allPruned items) place
  | .record members place => .record (membersPruned members) place
  | .template pieces place => .template (allPruned pieces) place
  | .call name args place => .call name (allPruned args) place
  | .foreign module name called args place => .foreign module name called (allPruned args) place
  | .logic connective operands place => .logic connective (allPruned operands) place
  | .chain root links => .chain root.pruned (linksPruned links)
  | .statement body place => .statement (body.pruned true Stmt.isPureInside) place
  | .closure number params captured body place =>
    .closure number params captured (functionBody (body.pruned true Stmt.isPure) body) place
  | other => other
termination_by structural expr => expr

def allPruned : List Expr → List Expr
  | [] => []
  | item :: rest => item.pruned :: allPruned rest

def membersPruned : List (String × Expr) → List (String × Expr)
  | [] => []
  | (name, value) :: rest => (name, value.pruned) :: membersPruned rest

def linksPruned : List Link → List Link
  | [] => []
  | .property name optional place :: rest => .property name optional place :: linksPruned rest
  | .method name args optional place :: rest =>
    .method name (allPruned args) optional place :: linksPruned rest
  | .index key optional place :: rest => .index key.pruned optional place :: linksPruned rest

def optionPruned : Option Expr → Option Expr
  | none => none
  | some value => some value.pruned

/-- A statement whose value is used, or else is not. If it is a block, statements that are idle at
its end are left out. -/
def Stmt.pruned (used : Bool) (idle : Stmt → Bool) : Stmt → Stmt
  | .expression (.statement body _) => body.pruned used Stmt.isPureInside
  | .expression value => .expression value.pruned
  | .declare name value => .declare name (optionPruned value)
  | .assign operator target value place => augmented operator target.pruned value.pruned place
  | .block body => .block (settledBody used idle (bodyPruned used body))
  | .branch condition yes no =>
    match settledBody used Stmt.isPureInside (bodyPruned used yes),
      settledBody used Stmt.isPureInside (bodyPruned used no) with
    | [], [] => .block [.expression condition.pruned, .nothing]
    | yes, no => .branch condition.pruned yes no
  | .choice value cases otherwise =>
    .choice value.pruned (casesPruned used cases) (otherwisePruned used otherwise)
  | .whileLoop condition body place =>
    .whileLoop (optionPruned condition)
      (settledBody false Stmt.isPureInside (bodyPruned false body)) place
  | .doLoop body condition stopsOn place =>
    .doLoop (settledBody false Stmt.isPureInside (bodyPruned false body)) condition.pruned stopsOn place
  | .forLoop name items body place =>
    .forLoop name items.pruned (settledBody false Stmt.isPureInside (bodyPruned false body)) place
  | .leave value => .leave (optionPruned value)
  | .next => .next
  | .giveBack value => .giveBack (optionPruned value)
  | .throw_ value place => .throw_ (optionPruned value) place
  | .attempt body name handler =>
    let attempted := settledBody false Stmt.isPureInside (bodyPruned false body)
    if bodyIsPure attempted then .block []
    else
      .attempt attempted name (settledBody false Stmt.isPureInside (bodyPruned false handler))
  | .importModule path place => .importModule path.pruned place
  | .exportName name place => .exportName name place

def casesPruned (used : Bool) : List Case → List Case
  | [] => []
  | .mk labels condition action :: rest =>
    .mk labels (optionPruned condition) (action.pruned used Stmt.isPureInside)
      :: casesPruned used rest

def otherwisePruned (used : Bool) : Option Stmt → Option Stmt
  | none => none
  | some action => some (action.pruned used Stmt.isPureInside)

def bodyPruned (used : Bool) : List Stmt → List Stmt
  | [] => []
  | statement :: rest => statement.pruned used Stmt.isPureInside :: bodyPruned used rest

end

/-- A function without what it does not need. -/
def Function.pruned (function : Function) : Function :=
  let pruned (body : Stmt) : Stmt := functionBody (body.pruned true Stmt.isPure) body
  { function with body := function.body.map pruned }

/-- A whole script without what it does not need. -/
def Script.pruned (script : Script) : Script :=
  ⟨script.functions.map Function.pruned, settledBody true Stmt.isPure (bodyPruned true script.body)⟩

end ApiProbe.Plain
