import ApiProbe.Proofs.Rule.Importing
import ApiProbe.Proofs.Rule.WrittenDirectives

/-!
The import of directives. Every directive that is read from a line asks for a valid rule, and every rule
gets an id of its own, so nothing in a text can make its import fail: the rules of its lines come behind
those of the book.
-/
namespace ApiProbe

/-- The rule that a directive asks for, written to a scope. -/
structure Rule.Serves (scope : Scope) (directive : Rule.Directive) (rule : Rule) : Prop where
  enabled : rule.enabled = true
  valid : rule.validate = .ok ()
  scope : rule.scope = scope
  name : rule.name = "@capture " ++ directive.variable_
  variable_ : rule.variable_ = directive.variable_
  method : rule.method = directive.method
  pattern : rule.pattern = directive.pattern
  source : rule.source = .headers ↔ rule.method = .header

namespace Rule

theorem Method.defaultSource_eq_headers_iff (method : Method) :
    method.defaultSource = .headers ↔ method = .header := by
  cases method <;> decide

theorem serves_toRule {line : List Char} {directive : Directive} (read : directive? line = some directive)
    (supply : Supply) (scope : Scope) : Serves scope directive (directive.toRule supply scope).1 where
  enabled := rfl
  valid := validate_toRule read supply scope
  scope := rfl
  name := rfl
  variable_ := rfl
  method := rfl
  pattern := rfl
  source := directive.method.defaultSource_eq_headers_iff

/-- How many lines hold a directive. -/
def directiveCount (lines : List (List Char)) : Nat := lines.countP fun line => (directive? line).isSome

theorem length_filterMap_directive? (lines : List (List Char)) :
    (lines.filterMap directive?).length = directiveCount lines :=
  List.length_filterMap_eq_countP

end Rule

namespace RuleBook
open Attempt
variable {book : RuleBook} {supply : Supply} {rules ready : List Rule}

/-- The next ids of a supply are different and none of them is in a book. -/
def NewIds (book : RuleBook) (supply : Supply) (count : Nat) : Prop :=
  (supply.uuids count).Nodup ∧ ∀ id ∈ supply.uuids count, id ∉ ids book.rules

instance (book : RuleBook) (supply : Supply) (count : Nat) : Decidable (book.NewIds supply count) :=
  inferInstanceAs (Decidable (_ ∧ _))

/-- Rules with new ids come behind the others, whatever these are. -/
theorem foldl_place_new (single : (ids ready).Nodup) (new : ∀ id ∈ ids ready, id ∉ ids rules) :
    ready.foldl place rules = rules ++ ready := by
  induction ready generalizing rules with
  | nil => rw [List.foldl_nil, List.append_nil]
  | cons rule rest ih =>
    obtain ⟨last, single⟩ := List.nodup_cons.mp single
    obtain ⟨here, later⟩ := List.forall_mem_cons.mp new
    have apart : ∀ id ∈ ids rest, id ∉ ids (rules ++ [rule]) := by
      intro id member
      rw [ids, List.map_append, List.map_singleton, List.mem_append, List.mem_singleton, not_or]
      refine ⟨later id member, ?_⟩
      rintro rfl
      exact last member
    rw [List.foldl_cons, place_of_not_mem here, ih single apart, List.append_assoc, List.singleton_append]

theorem serves_directiveRules (supply : Supply) (scope : Scope) (lines : List (List Char)) :
    List.Forall₂ (Rule.Serves scope) (lines.filterMap Rule.directive?)
      (directiveRules supply scope (lines.filterMap Rule.directive?)).1 := by
  induction lines generalizing supply with
  | nil => exact .nil
  | cons line rest ih =>
    cases read : Rule.directive? line with
    | none =>
      rw [List.filterMap_cons_none read]
      exact ih supply
    | some directive =>
      rw [List.filterMap_cons_some read]
      exact .cons (Rule.serves_toRule read supply scope) (ih supply.uuid.2)

/-- The rules of directives are taken in as they are if their ids are new. -/
theorem merge_directiveRules (scope : Scope) (lines : List (List Char))
    (new : book.NewIds supply (Rule.directiveCount lines)) (left : Supply) :
    let incoming := (directiveRules supply scope (lines.filterMap Rule.directive?)).1
    book.merge left incoming = .ok (⟨book.rules ++ incoming⟩, left) := by
  intro incoming
  have given : ids incoming = supply.uuids (Rule.directiveCount lines) := by
    rw [ids_directiveRules, Rule.length_filterMap_directive?]
  have single : (ids incoming).Nodup := given ▸ new.1
  have apart : ∀ id ∈ ids incoming, id ∉ ids book.rules := given ▸ new.2
  rw [merge_eq_ok_iff, withIds_eq_self (named_directiveRules supply scope _)]
  exact ⟨validate_directiveRules scope lines, single, by rw [foldl_place_new single apart]⟩

/-- Directives always come in if the ids that are drawn for them are new: there is a rule for each line
that holds a directive, in the order of the lines and behind the rules of the book, and it does what its
line asks for. -/
theorem captures_always_come_in {text : String} {lines : List (List Char)}
    (cut : Text.LinesOf text.toList lines) (new : book.NewIds supply (Rule.directiveCount lines))
    (scope : Scope) :
    ∃ added rest,
      book.importDirectives supply scope text =
        .ok (Rule.directiveCount lines, ⟨book.rules ++ added⟩, rest) ∧
      book.perform supply (.importDirectives scope text) = ⟨book.rules ++ added⟩ ∧
      added.length = Rule.directiveCount lines ∧
      List.Forall₂ (Rule.Serves scope) (lines.filterMap Rule.directive?) added := by
  have serves := serves_directiveRules supply scope lines
  have length : (directiveRules supply scope (lines.filterMap Rule.directive?)).1.length =
      Rule.directiveCount lines := by
    rw [← serves.length_eq, Rule.length_filterMap_directive?]
  have done : book.importDirectives supply scope text =
      .ok (Rule.directiveCount lines,
        ⟨book.rules ++ (directiveRules supply scope (lines.filterMap Rule.directive?)).1⟩,
        (directiveRules supply scope (lines.filterMap Rule.directive?)).2) := by
    rw [importDirectives_eq_ok_iff, Rule.directives_eq cut]
    exact ⟨_, merge_directiveRules scope lines new _, by rw [length]⟩
  exact ⟨_, _, done, settle_ok done book, length, serves⟩

/-- Two directives with a note between them come in behind a rule with an id of its own. -/
theorem captures_always_come_in_pair :
    let lines := ["# @capture a = $.x".toList, "note".toList, "// @capture b = headers.ETag".toList]
    let text := String.ofList (lines[0] ++ '\n' :: (lines[1] ++ '\n' :: lines[2]))
    let book : RuleBook := ⟨[⟨"1", "old", true, .body, .jsonPath, "$.a", "a", .request, none, none⟩]⟩
    let supply : Supply := ⟨⟨0⟩, 0⟩
    Text.LinesOf text.toList lines ∧ book.NewIds supply 2 ∧
      ∃ added rest, book.importDirectives supply .environment text = .ok (2, ⟨book.rules ++ added⟩, rest) ∧
        List.Forall₂ (Rule.Serves .environment)
          [⟨"a", .jsonPath, "$.x"⟩, ⟨"b", .header, "ETag"⟩] added := by
  intro lines text book supply
  have cut : Text.LinesOf text.toList lines := by
    rw [String.toList_ofList]
    exact .feed (by decide) (by decide)
      (.feed (by decide) (by decide) (.unended (by decide) (by decide)))
  have count : Rule.directiveCount lines = 2 := by decide +kernel
  have read : lines.filterMap Rule.directive? = [⟨"a", .jsonPath, "$.x"⟩, ⟨"b", .header, "ETag"⟩] := by
    decide +kernel
  have new : book.NewIds supply (Rule.directiveCount lines) := by
    rw [count]
    decide +kernel
  obtain ⟨added, rest, done, -, -, serves⟩ := captures_always_come_in cut new .environment
  rw [count] at new done
  rw [read] at serves
  exact ⟨cut, new, added, rest, done, serves⟩

end RuleBook
end ApiProbe
