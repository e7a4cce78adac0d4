import ApiProbe.Xml.Reader

/-!
Paths into XML trees. Segments are separated by dots, with positions counted from zero, or by
slashes, with positions counted from one. The last segment may name an attribute.
-/
namespace ApiProbe.Xml

structure Step where
  name : String
  index : Option Nat
  deriving Repr, DecidableEq

inductive Target
  | text
  | attribute (name : String)
  deriving Repr, DecidableEq

structure Path where
  first : Step
  rest : List Step
  target : Target
  /-- The first step may be taken anywhere in the tree. -/
  anywhere : Bool
  deriving Repr, DecidableEq

inductive PathFault
  | emptySegment
  | attributeUnnamed
  | noElement
  | unclosed (segment : String)
  | badIndex (segment : String)
  | zeroIndex (segment : String)
  deriving Repr, DecidableEq

def PathFault.reason : PathFault → String
  | .emptySegment => "empty segment"
  | .attributeUnnamed => "empty attribute name"
  | .noElement => "no element segments"
  | .unclosed segment => s!"unclosed '[' in '{segment}'"
  | .badIndex segment => s!"invalid index in '{segment}'"
  | .zeroIndex segment => s!"index must be at least 1 in '{segment}'"

structure PathError where
  fault : PathFault
  path : String
  deriving Repr, DecidableEq

def PathError.message (error : PathError) : String :=
  s!"{error.fault.reason} in XML path '{error.path}'"

namespace Path

/-- Largest number a position may have. -/
def maxIndex : Nat := 18446744073709551615

/-- A name with an optional position in brackets; `base` is the number of the first position. -/
def readStep (base : Nat) (segment : List Char) : Except PathFault Step :=
  let text := String.ofList segment
  match Text.cutAt? ['['] segment with
  | none => .ok ⟨text, none⟩
  | some (name, tail) =>
    if segment.getLast? != some ']' then .error (.unclosed text)
    else
      match Decimal.readNat? maxIndex (Text.trimChars tail.dropLast) with
      | none => .error (.badIndex text)
      | some n =>
        if n < base then .error (.zeroIndex text)
        else .ok ⟨Text.trim (String.ofList name), some (n - base)⟩

def readSteps (base : Nat) : List (List Char) → Except PathFault (List Step)
  | [] => .ok []
  | segment :: rest => do
    let first ← readStep base segment
    let others ← readSteps base rest
    pure (first :: others)

/-- Splits the target off the segments: an attribute, or the text of the last element. -/
def splitTarget (slashes : Bool) (segments : List (List Char)) :
    Except PathFault (List (List Char) × Target) :=
  match segments.getLast? with
  | some ('@' :: name) =>
    if name.isEmpty then .error .attributeUnnamed
    else .ok (segments.dropLast, .attribute (String.ofList name))
  | some last =>
    if slashes && last == "text()".toList then .ok (segments.dropLast, .text)
    else .ok (segments, .text)
  | none => .ok (segments, .text)

def readTrimmed (chars : List Char) : Except PathFault Path := do
  let slashes := chars.contains '/'
  let anywhere := startsWith "//" chars
  let body := if anywhere then chars.drop 2 else chars.dropWhile (· == '/')
  let segments := (Text.parts (if slashes then '/' else '.') body).map Text.trimChars
  if segments.any List.isEmpty then throw .emptySegment
  let (names, target) ← splitTarget slashes segments
  match ← readSteps (if slashes then 1 else 0) names with
  | [] => throw .noElement
  | first :: rest => pure ⟨first, rest, target, anywhere⟩

def read (path : String) : Except PathError Path :=
  let chars := Text.trimChars path.toList
  match readTrimmed chars with
  | .ok path => .ok path
  | .error fault => .error ⟨fault, String.ofList chars⟩

/-- The candidate at a position, or all of them. -/
def pick (index : Option Nat) (candidates : List Element) : List Element :=
  match index with
  | some n => (candidates.drop n).take 1
  | none => candidates

/-- The children that a step leads to from each of the parents. -/
def follow (step : Step) (parents : List Element) : List Element :=
  parents.flatMap fun parent => pick step.index (parent.elements.filter (·.isNamed step.name))

/-- Where the first step leads: anywhere, to the root, or else below the root. -/
def start (path : Path) (root : Element) : List Element :=
  let step := path.first
  if path.anywhere then pick step.index (root.subtree.filter (·.isNamed step.name))
  else if root.isNamed step.name then pick step.index [root]
  else follow step [root]

/-- The elements at the end of the path, in order. -/
def elements (path : Path) (root : Element) : List Element :=
  path.rest.foldl (fun found step => follow step found) (path.start root)

def Target.read? (target : Target) (element : Element) : Option String :=
  match target with
  | .text => some element.text
  | .attribute name => element.attribute? name

/-- The first text or attribute value that the path finds. -/
def evaluate (path : Path) (root : Element) : Option String :=
  (path.elements root).findSome? (Target.read? path.target)

end Path
end ApiProbe.Xml
