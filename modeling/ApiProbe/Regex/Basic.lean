import ApiProbe.Text.Casing
import ApiProbe.Text.Category
import ApiProbe.Text.Blank

/-!
Regular expressions: sets of characters, assertions about a place in a text, and the trees that are
built from them. Of several ways to match, the first in the order of the pattern counts.
-/
namespace ApiProbe.Regex

/-- A set of characters as patterns describe them. -/
inductive CharSet
  | span (first last : Char)
  | stretches (all : List Text.Stretch)
  | digit | space | word
  | none_
  | not (set : CharSet)
  | union (first second : CharSet)
  | inter (first second : CharSet)
  | symmetric (first second : CharSet)
  /-- The set with all case variants of its members. -/
  | anyCase (set : CharSet)

namespace CharSet

def holds : CharSet → Char → Bool
  | span first last, c => first ≤ c && c ≤ last
  | stretches all, c => Text.inStretches all c.toNat
  | digit, c => Text.isDecimal c
  | space, c => Text.isBlank c
  | word, c => Text.isWordPart c
  | none_, _ => false
  | not set, c => !set.holds c
  | union first second, c => first.holds c || second.holds c
  | inter first second, c => first.holds c && second.holds c
  | symmetric first second, c => first.holds c != second.holds c
  | anyCase set, c => (Text.caseVariants c).any set.holds

def single (c : Char) : CharSet := span c c

def any : CharSet := not none_

def ofChars (chars : List Char) : CharSet := chars.foldr (fun c set => union (single c) set) none_

def ascii : CharSet := span (Char.ofNat 0) (Char.ofNat 127)

def unionAll (sets : List CharSet) : CharSet := sets.foldr union none_

end CharSet

/-- What can be asked about a place between two characters. Words are made of ASCII letters alone
where `ascii` is set; line ends are pairs where `pairs` is set. -/
inductive Look
  | textStart | textEnd
  | lineStart (pairs : Bool) | lineEnd (pairs : Bool)
  | wordEdge (ascii : Bool) | noWordEdge (ascii : Bool)
  | wordStart (ascii : Bool) | wordEnd (ascii : Bool)
  | wordStartHalf (ascii : Bool) | wordEndHalf (ascii : Bool)
  deriving Repr, DecidableEq

namespace Look

def isWord (ascii : Bool) : Option Char → Bool
  | some c => if ascii then c.isAlphanum || c == '_' else Text.isWordPart c
  | none => false

/-- Whether the assertion is true between two characters; there is none at the ends. -/
def holds (look : Look) (before after : Option Char) : Bool :=
  match look with
  | textStart => before.isNone
  | textEnd => after.isNone
  | lineStart false => before.isNone || before == some '\n'
  | lineStart true =>
    before.isNone || before == some '\n' || (before == some '\r' && after != some '\n')
  | lineEnd false => after.isNone || after == some '\n'
  | lineEnd true =>
    after.isNone || after == some '\r' || (after == some '\n' && before != some '\r')
  | wordEdge ascii => isWord ascii before != isWord ascii after
  | noWordEdge ascii => isWord ascii before == isWord ascii after
  | wordStart ascii => !isWord ascii before && isWord ascii after
  | wordEnd ascii => isWord ascii before && !isWord ascii after
  | wordStartHalf ascii => !isWord ascii before
  | wordEndHalf ascii => !isWord ascii after

end Look

inductive Node
  | empty
  | one (set : CharSet)
  | look (look : Look)
  | sequence (items : List Node)
  | choice (branches : List Node)
  /-- A group; one with a number records what it matched. -/
  | group (number : Option Nat) (body : Node)
  | repeated (body : Node) (least : Nat) (most : Option Nat) (greedy : Bool)
  deriving Inhabited

namespace Node

mutual

/-- Levels of nesting. -/
def depth : Node → Nat
  | sequence items => 1 + depths items
  | choice branches => 1 + depths branches
  | group _ body => 1 + depth body
  | repeated body _ _ _ => 1 + depth body
  | _ => 0

def depths : List Node → Nat
  | [] => 0
  | node :: rest => max (depth node) (depths rest)

end

/-- Bounds of a repetition of something that matches only the empty text: once is enough. -/
def emptyBounds (least : Nat) (most : Option Nat) : Nat × Option Nat :=
  (min least 1, some (min (most.getD 1) 1))

mutual

/-- Longest text that can match, if there is a bound. -/
def longest : Node → Option Nat
  | empty => some 0
  | one _ => some 1
  | look _ => some 0
  | sequence items => longestSum items
  | choice branches => longestMax branches
  | group _ body => longest body
  | repeated body _ most _ =>
    match most, longest body with
    | some n, some size => some (n * size)
    | none, some 0 => some 0
    | _, _ => none

def longestSum : List Node → Option Nat
  | [] => some 0
  | node :: rest => do some ((← longest node) + (← longestSum rest))

def longestMax : List Node → Option Nat
  | [] => some 0
  | node :: rest => do some (max (← longest node) (← longestMax rest))

end

mutual

/-- Shortest text that can match. -/
def shortest : Node → Nat
  | empty => 0
  | one _ => 1
  | look _ => 0
  | sequence items => shortestSum items
  | choice branches => shortestMin branches
  | group _ body => shortest body
  | repeated body least _ _ => least * shortest body

def shortestSum : List Node → Nat
  | [] => 0
  | node :: rest => shortest node + shortestSum rest

def shortestMin : List Node → Nat
  | [] => 0
  | [node] => shortest node
  | node :: rest => min (shortest node) (shortestMin rest)

end

/-- A repetition, simplified: never is empty, once is the thing itself. -/
def repeat_ (body : Node) (least : Nat) (most : Option Nat) (greedy : Bool) : Node :=
  let (low, high) :=
    if longest body == some 0 then emptyBounds least most else (least, most)
  if low == 0 && high == some 0 then empty
  else if low == 1 && high == some 1 then body
  else repeated body low high greedy

mutual

/-- One more than the highest number of a group. -/
def groupCount : Node → Nat
  | sequence items => groupCounts items
  | choice branches => groupCounts branches
  | group (some number) body => max (number + 1) (groupCount body)
  | group none body => groupCount body
  | repeated body _ _ _ => groupCount body
  | _ => 1

def groupCounts : List Node → Nat
  | [] => 1
  | node :: rest => max (groupCount node) (groupCounts rest)

end

end Node
end ApiProbe.Regex
