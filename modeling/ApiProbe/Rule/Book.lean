import ApiProbe.Rule.Codec
import ApiProbe.Rule.Directive

/-!
Books of rules: rules in a fixed order, each found by its id. A book never changes when a change is
refused.
-/
namespace ApiProbe

structure RuleBook where
  rules : List Rule

namespace RuleBook

def empty : RuleBook := ⟨[]⟩

def get? (book : RuleBook) (id : String) : Option Rule := book.rules.find? fun rule => rule.id == id

def contains (book : RuleBook) (id : String) : Bool := book.rules.any fun rule => rule.id == id

def size (book : RuleBook) : Nat := book.rules.length

def enabled (book : RuleBook) : List Rule := book.rules.filter Rule.enabled

/-- Adds a rule at the end, with a new id if it has none. -/
def add (book : RuleBook) (supply : Supply) (rule : Rule) :
    Except RuleError (Rule × RuleBook × Supply) := do
  rule.validate
  let (rule, rest) := rule.withId supply
  if book.contains rule.id then throw (.duplicate rule.id)
  pure (rule, ⟨book.rules ++ [rule]⟩, rest)

/-- Applies a change to the first rule with an id. -/
def modifyFirst (id : String) (change : Rule → Rule) : List Rule → List Rule
  | [] => []
  | rule :: rest =>
    if rule.id == id then change rule :: rest else rule :: modifyFirst id change rest

/-- Puts a rule in the place of the one with its id. -/
def update (book : RuleBook) (rule : Rule) : Except RuleError RuleBook := do
  rule.validate
  if book.contains rule.id then pure ⟨modifyFirst rule.id (fun _ => rule) book.rules⟩
  else throw (.notFound rule.id)

/-- Removes the first rule with an id. -/
def eraseFirst (id : String) : List Rule → List Rule
  | [] => []
  | rule :: rest => if rule.id == id then rest else rule :: eraseFirst id rest

/-- Removes a rule and gives it back. -/
def delete (book : RuleBook) (id : String) : Except RuleError (Rule × RuleBook) :=
  match book.get? id with
  | some rule => .ok (rule, ⟨eraseFirst id book.rules⟩)
  | none => .error (.notFound id)

def setEnabled (book : RuleBook) (id : String) (enabled : Bool) : Except RuleError RuleBook :=
  if book.contains id then
    .ok ⟨modifyFirst id (fun rule => { rule with enabled }) book.rules⟩
  else .error (.notFound id)

/-- Tests rules one after the other and gives new ids to those that have none. -/
def prepare (supply : Supply) : List Rule → Except RuleError (List Rule × Supply)
  | [] => .ok ([], supply)
  | rule :: rest => do
    rule.validate
    let (first, left) := rule.withId supply
    let (others, last) ← prepare left rest
    pure (first :: others, last)

/-- The first id that an earlier rule has already, given the ids before. -/
def repeatedId? (before : List String) : List Rule → Option String
  | [] => none
  | rule :: rest =>
    if before.contains rule.id then some rule.id else repeatedId? (rule.id :: before) rest

/-- Puts a rule in the place of the one with its id, or else at the end. -/
def place (rules : List Rule) (rule : Rule) : List Rule :=
  if rules.any fun other => other.id == rule.id then modifyFirst rule.id (fun _ => rule) rules
  else rules ++ [rule]

/-- Takes in rules, all or none. -/
def merge (book : RuleBook) (supply : Supply) (incoming : List Rule) :
    Except RuleError (RuleBook × Supply) := do
  let (ready, rest) ← prepare supply incoming
  match repeatedId? [] ready with
  | some id => throw (.duplicate id)
  | none => pure (⟨ready.foldl place book.rules⟩, rest)

def exportText (book : RuleBook) : String := Rule.exportText book.rules

/-- Takes in the rules of a text; the number says how many there were. -/
def importText (book : RuleBook) (supply : Supply) (scope : Scope) (text : String) :
    Except RuleError (Nat × RuleBook × Supply) :=
  match Rule.importText scope text with
  | .error fault => .error (.unreadable fault)
  | .ok incoming => do
    let (merged, rest) ← book.merge supply incoming
    pure (incoming.length, merged, rest)

/-- The rules that directives ask for. -/
def directiveRules (supply : Supply) (scope : Scope) : List Rule.Directive → List Rule × Supply
  | [] => ([], supply)
  | directive :: rest =>
    let (rule, left) := directive.toRule supply scope
    let (others, last) := directiveRules left scope rest
    (rule :: others, last)

/-- Takes in the rules that the directives of a text ask for. -/
def importDirectives (book : RuleBook) (supply : Supply) (scope : Scope) (text : String) :
    Except RuleError (Nat × RuleBook × Supply) := do
  let (incoming, left) := directiveRules supply scope (Rule.directives text)
  let (merged, rest) ← book.merge left incoming
  pure (incoming.length, merged, rest)

/-- Replaces the book by the rules of a file. A file that is not there has none. -/
def load (supply : Supply) (scope : Scope) (content : Option String) :
    Except RuleError (Nat × RuleBook × Supply) :=
  match content with
  | none => .ok (0, empty, supply)
  | some text => empty.importText supply scope text

end RuleBook
end ApiProbe
