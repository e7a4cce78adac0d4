import ApiProbe.Regex.Reader

/-!
Programs for matching. A pattern becomes a list of instructions; each goes on to the next one unless
it says otherwise. Where a program can go on in two ways the first is preferred.
-/
namespace ApiProbe.Regex

inductive Inst
  | one (set : CharSet)
  | look (look : Look)
  | save (slot : Nat)
  | jump (target : Nat)
  | split (first second : Nat)
  | fail
  | done
  deriving Inhabited

/-- A choice between entering a body and leaving it. -/
def fork (greedy : Bool) (enter leave : Nat) : Inst :=
  if greedy then .split enter leave else .split leave enter

/-- The code of a body so many times. -/
def copies (emit : Nat → List Inst) : Nat → Nat → List Inst
  | 0, _ => []
  | n + 1, start =>
    let first := emit start
    first ++ copies emit n (start + first.length)

/-- A body that may occur up to so many times more; every way out leads to `leave`. -/
def options (greedy : Bool) (leave : Nat) (emit : Nat → List Inst) : Nat → Nat → List Inst
  | 0, _ => []
  | n + 1, start =>
    let body := emit (start + 1)
    fork greedy (start + 1) leave :: body
      ++ options greedy leave emit n (start + 1 + body.length)

/-- Any number of times. A body that can match nothing is entered again only behind itself, so that
it is tried at least once. -/
def loop (greedy mayBeEmpty : Bool) (emit : Nat → List Inst) (start : Nat) : List Inst :=
  let body := emit (start + 1)
  let back := start + 1 + body.length
  if mayBeEmpty then
    fork greedy (start + 1) (back + 1) :: body ++ [fork greedy (start + 1) (back + 1)]
  else fork greedy (start + 1) (back + 1) :: body ++ [.jump start]

/-- So many times and then any number of times more. -/
def loopFrom (greedy : Bool) (emit : Nat → List Inst) (least start : Nat) : List Inst :=
  let before := copies emit (least - 1) start
  let entry := start + before.length
  let last := emit entry
  let back := entry + last.length
  before ++ last ++ [fork greedy entry (back + 1)]

mutual

/-- The instructions of a node, placed at an address. -/
def Node.emit : Node → Nat → List Inst
  | .empty, _ => []
  | .one set, _ => [.one set]
  | .look look, _ => [.look look]
  | .sequence items, start => emitItems items start
  | .choice branches, start => emitBranches branches start
  | .group none body, start => body.emit start
  | .group (some number) body, start =>
    .save (2 * number) :: body.emit (start + 1) ++ [.save (2 * number + 1)]
  | .repeated body least (some most) greedy, start =>
    let fixed := copies body.emit least start
    let entry := start + fixed.length
    let optional := options greedy 0 body.emit (most - least) entry
    fixed ++ options greedy (entry + optional.length) body.emit (most - least) entry
  | .repeated body 0 none greedy, start => loop greedy (body.shortest == 0) body.emit start
  | .repeated body (n + 1) none greedy, start => loopFrom greedy body.emit (n + 1) start

def emitItems : List Node → Nat → List Inst
  | [], _ => []
  | item :: rest, start =>
    let first := item.emit start
    first ++ emitItems rest (start + first.length)

def emitBranches : List Node → Nat → List Inst
  | [], _ => [.fail]
  | [branch], start => branch.emit start
  | branch :: rest, start =>
    let first := branch.emit (start + 1)
    let next := start + 2 + first.length
    let others := emitBranches rest next
    .split (start + 1) next :: first ++ .jump (next + others.length) :: others

end

mutual

/-- A measure of the memory that a pattern takes, in instructions for single bytes. -/
def Node.cost : Node → Nat
  | .one set => costOfSet set
  | .sequence items => costs items
  | .choice branches => 1 + costs branches
  | .group none body => body.cost
  | .group (some _) body => 2 + body.cost
  | .repeated body least most _ => 2 + (max least (most.getD 1)) * (1 + body.cost)
  | _ => 1
where
  costOfSet : CharSet → Nat
    | .span first last => if first == last then first.utf8Size else 4
    | .stretches all => all.length
    | .digit => 150
    | .space => 12
    | .word => 600
    | .none_ => 1
    | .not set => 8 + costOfSet set
    | .union a b => costOfSet a + costOfSet b
    | .inter a b => costOfSet a + costOfSet b
    | .symmetric a b => costOfSet a + costOfSet b
    | .anyCase set => 2 * costOfSet set

def costs : List Node → Nat
  | [] => 0
  | node :: rest => node.cost + costs rest

end

/-- Largest memory that a compiled pattern may take. -/
def maxCost : Nat := 327680

inductive CompileError
  | badSyntax
  | tooLarge
  deriving Repr, DecidableEq

def CompileError.message : CompileError → String
  | .badSyntax => "regex parse error"
  | .tooLarge => "Compiled regex exceeds size limit of 10485760 bytes."

end ApiProbe.Regex

namespace ApiProbe

/-- A compiled pattern. The whole match is group zero. -/
structure Regex where
  program : Array Regex.Inst
  groups : Nat

namespace Regex

def compile (pattern : String) : Except CompileError Regex :=
  match readPattern pattern.toList with
  | none => .error .badSyntax
  | some node =>
    if node.cost > maxCost then .error .tooLarge
    else .ok ⟨((Node.group (some 0) node).emit 0 ++ [Inst.done]).toArray, node.groupCount⟩

/-- True of patterns with a group of their own. -/
def hasGroup (regex : Regex) : Bool := regex.groups > 1

end Regex
end ApiProbe
