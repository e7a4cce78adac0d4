import ApiProbe.Text.Blank

/-!
The four scopes of variables and their precedence. A name is looked up in the narrowest scope
first.
-/
namespace ApiProbe

inductive Scope
  | global | environment | collection | request
  deriving Repr, DecidableEq, Inhabited

namespace Scope

def name : Scope → String
  | .global => "global"
  | .environment => "environment"
  | .collection => "collection"
  | .request => "request"

def all : List Scope := [.global, .environment, .collection, .request]

/-- Scopes in the order in which a name is looked up. -/
def precedence : List Scope := [.request, .collection, .environment, .global]

/-- The scope of a name as people write it: any case, blanks around it, some short forms. -/
def named? (text : String) : Option Scope :=
  match (Text.trim text).toLower with
  | "global" | "globals" => some .global
  | "environment" | "env" => some .environment
  | "collection" | "collectionvariables" => some .collection
  | "request" | "local" => some .request
  | _ => none

end Scope

/-- One value for each scope. -/
structure PerScope (α : Type) where
  global : α
  environment : α
  collection : α
  request : α

namespace PerScope
variable {α : Type}

def all (value : α) : PerScope α := ⟨value, value, value, value⟩

def get (values : PerScope α) : Scope → α
  | .global => values.global
  | .environment => values.environment
  | .collection => values.collection
  | .request => values.request

def set (values : PerScope α) (scope : Scope) (value : α) : PerScope α :=
  match scope with
  | .global => { values with global := value }
  | .environment => { values with environment := value }
  | .collection => { values with collection := value }
  | .request => { values with request := value }

@[simp] theorem get_all (value : α) (scope : Scope) : (all value).get scope = value := by
  cases scope <;> rfl

@[simp] theorem get_set_self (values : PerScope α) (scope : Scope) (value : α) :
    (values.set scope value).get scope = value := by
  cases scope <;> rfl

theorem get_set_of_ne (values : PerScope α) {scope other : Scope} (value : α)
    (different : other ≠ scope) : (values.set scope value).get other = values.get other := by
  cases scope <;> cases other <;> first | rfl | exact absurd rfl different

end PerScope
end ApiProbe
