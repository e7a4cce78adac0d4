import ApiProbe.Proofs.Rule.Capture
import ApiProbe.Rule.File

/-!
Runs of a book: everything that can be asked of it from outside, one request after the other. Each
request draws its ids from a supply of its own, and one that is refused leaves the book as it is.
Whatever is asked, no two rules of a book get the same id.
-/
namespace ApiProbe
open Attempt

inductive BookOperation
  | add (rule : Rule)
  | update (rule : Rule)
  | delete (id : String)
  | setEnabled (id : String) (enabled : Bool)
  | clear
  | importText (scope : Scope) (text : String)
  | importDirectives (scope : Scope) (text : String)
  | load (scope : Scope) (file : RuleFile)
  deriving Repr, DecidableEq

/-- An operation and the supply at hand when the book gets it. -/
structure BookEvent where
  supply : Supply
  operation : BookOperation

namespace RuleBook
variable {book : RuleBook} {supply : Supply} {scope : Scope} {rule : Rule} {text : String}

/-- The book that an attempt leaves: the new one, or the old one if it was refused. -/
def settle {ε : Type} (book : RuleBook) : Except ε RuleBook → RuleBook
  | .ok after => after
  | .error _ => book

def perform (book : RuleBook) (supply : Supply) : BookOperation → RuleBook
  | .add rule => book.settle ((book.add supply rule).map fun (_, after, _) => after)
  | .update rule => book.settle (book.update rule)
  | .delete id => book.settle ((book.delete id).map Prod.snd)
  | .setEnabled id enabled => book.settle (book.setEnabled id enabled)
  | .clear => empty
  | .importText scope text =>
    book.settle ((book.importText supply scope text).map fun (_, after, _) => after)
  | .importDirectives scope text =>
    book.settle ((book.importDirectives supply scope text).map fun (_, after, _) => after)
  | .load scope file => book.settle ((loadFile supply scope file).map fun (_, after, _) => after)

def step (book : RuleBook) (event : BookEvent) : RuleBook :=
  book.perform event.supply event.operation

/-- The book after a sequence of events. -/
def after (book : RuleBook) (events : List BookEvent) : RuleBook := events.foldl step book

theorem add_eq_ok_iff {result : Rule × RuleBook × Supply} :
    book.add supply rule = .ok result ↔ rule.validate = .ok () ∧
      (rule.withId supply).1.id ∉ ids book.rules ∧
      ((rule.withId supply).1, ⟨place book.rules (rule.withId supply).1⟩,
        (rule.withId supply).2) = result := by
  simp only [add, test_eq_ok_iff]
  by_cases old : (rule.withId supply).1.id ∈ ids book.rules
  · simp only [contains_eq, old, decide_true, if_true, bind_eq_ok_iff, throw_ne_ok]
    simp
  · simp [contains_eq, old, place_of_not_mem old, pure_eq_ok_iff]

theorem update_eq_ok_iff {result : RuleBook} : book.update rule = .ok result ↔
    rule.validate = .ok () ∧ rule.id ∈ ids book.rules ∧ ⟨place book.rules rule⟩ = result := by
  simp only [update, test_eq_ok_iff]
  by_cases old : rule.id ∈ ids book.rules
  · simp [contains_eq, old, place_of_mem old, pure_eq_ok_iff]
  · simp [contains_eq, old]

theorem importText_eq_ok_iff {result : Nat × RuleBook × Supply} :
    book.importText supply scope text = .ok result ↔
      ∃ incoming, Rule.importText scope text = .ok incoming ∧
        ∃ merged, book.merge supply incoming = .ok merged ∧ (incoming.length, merged) = result := by
  simp only [importText]
  cases Rule.importText scope text with
  | error fault => simp
  | ok incoming =>
    simp only [bind_eq_ok_iff, pure_eq_ok_iff, Except.ok.injEq, exists_eq_left']

theorem importDirectives_eq_ok_iff {result : Nat × RuleBook × Supply} :
    book.importDirectives supply scope text = .ok result ↔
      ∃ merged, book.merge (directiveRules supply scope (Rule.directives text)).2
          (directiveRules supply scope (Rule.directives text)).1 = .ok merged ∧
        ((directiveRules supply scope (Rule.directives text)).1.length, merged) = result := by
  simp only [importDirectives, bind_eq_ok_iff, pure_eq_ok_iff]

/-- A file is loaded exactly if it is missing or its text comes into an empty book. -/
theorem loadFile_eq_ok_iff {file : RuleFile} {result : Nat × RuleBook × Supply} :
    loadFile supply scope file = .ok result ↔
      (file = .missing ∧ (0, empty, supply) = result) ∨
        ∃ content, file = .text content ∧ empty.importText supply scope content = .ok result := by
  cases file with
  | missing => simp [loadFile, RuleFile.read, load, bind, Except.bind, mapError_eq_ok_iff]
  | unreadable reason => simp [loadFile, RuleFile.read, bind, Except.bind]
  | text content => simp [loadFile, RuleFile.read, load, bind, Except.bind, mapError_eq_ok_iff]

theorem eraseFirst_sublist (id : String) (rules : List Rule) :
    (eraseFirst id rules).Sublist rules := by
  induction rules with
  | nil => exact .slnil
  | cons rule rest ih =>
    simp only [eraseFirst]
    split
    · exact List.sublist_cons_self rule rest
    · exact ih.cons_cons rule

/-- What one operation may make of the rules of a book. -/
inductive Revision (rules : List Rule) : List Rule → Prop
  /-- Nothing new: rules are left out, if anything. -/
  | kept {left : List Rule} (fewer : left.Sublist rules) : Revision rules left
  | switched (id : String) (enabled : Bool) :
    Revision rules (modifyFirst id (fun rule => { rule with enabled }) rules)
  /-- Tested rules are put in their places, among the old rules or in an empty book. -/
  | placed {base ready : List Rule} (fewer : base.Sublist rules)
    (valid : ∀ rule ∈ ready, rule.validate = .ok ())
    (named : ∀ rule ∈ ready, Text.isBlankText rule.id = false ∨ rule.id ∈ ids rules) :
    Revision rules (ready.foldl place base)

section Settled
variable {ε α : Type}

/-- An attempt that is refused revises nothing. -/
theorem settle_revises {attempt : Except ε RuleBook}
    (new : ∀ after, attempt = .ok after → Revision book.rules after.rules) :
    Revision book.rules (book.settle attempt).rules := by
  cases attempt with
  | error _ => exact .kept (List.Sublist.refl _)
  | ok after => exact new after rfl

theorem settle_map_revises {attempt : Except ε α} {left : α → RuleBook}
    (new : ∀ result, attempt = .ok result → Revision book.rules (left result).rules) :
    Revision book.rules (book.settle (attempt.map left)).rules := by
  apply settle_revises
  intro after done
  obtain ⟨result, found, rfl⟩ := map_eq_ok_iff.mp done
  exact new result found

end Settled

theorem validate_withId (supply : Supply) (rule : Rule) :
    (rule.withId supply).1.validate = rule.validate := by
  cases blank : Text.isBlankText rule.id <;> simp [Rule.withId, Rule.validate, blank]

theorem named_withId (supply : Supply) (rule : Rule) :
    Text.isBlankText (rule.withId supply).1.id = false := by
  cases blank : Text.isBlankText rule.id <;> simp [Rule.withId, blank, supply.uuid_not_blank]

theorem mem_withIds {incoming : List Rule} (member : rule ∈ (withIds supply incoming).1) :
    ∃ source ∈ incoming, ∃ left, rule = (source.withId left).1 := by
  induction incoming generalizing supply with
  | nil => cases member
  | cons first rest ih =>
    rcases List.mem_cons.mp member with here | later
    · exact ⟨first, List.mem_cons_self, supply, here⟩
    · obtain ⟨source, inside, left, same⟩ := ih later
      exact ⟨source, List.mem_cons_of_mem _ inside, left, same⟩

theorem merge_revises {rules incoming : List Rule} {result : RuleBook × Supply}
    (fewer : book.rules.Sublist rules) (done : book.merge supply incoming = .ok result) :
    Revision rules result.1.rules := by
  obtain ⟨valid, -, rfl⟩ := merge_eq_ok_iff.mp done
  refine .placed fewer (fun rule member => ?_) (fun rule member => .inl ?_)
  · obtain ⟨source, inside, left, rfl⟩ := mem_withIds member
    rw [validate_withId, valid source inside]
  · obtain ⟨source, -, left, rfl⟩ := mem_withIds member
    exact named_withId left source

theorem importText_revises {rules : List Rule} {result : Nat × RuleBook × Supply}
    (fewer : book.rules.Sublist rules) (done : book.importText supply scope text = .ok result) :
    Revision rules result.2.1.rules := by
  obtain ⟨_, _, _, merged, rfl⟩ := importText_eq_ok_iff.mp done
  exact merge_revises fewer merged

/-- What one operation does, refused or not. -/
theorem perform_revises (book : RuleBook) (supply : Supply) (operation : BookOperation) :
    Revision book.rules (book.perform supply operation).rules := by
  cases operation with
  | add rule =>
    refine settle_map_revises fun result added => ?_
    obtain ⟨valid, -, rfl⟩ := add_eq_ok_iff.mp added
    change Revision book.rules ([(rule.withId supply).1].foldl place book.rules)
    refine .placed (List.Sublist.refl _) ?_ ?_
    · simpa [validate_withId] using valid
    · simpa using .inl (named_withId supply rule)
  | update rule =>
    refine settle_revises fun after done => ?_
    obtain ⟨valid, old, rfl⟩ := update_eq_ok_iff.mp done
    change Revision book.rules ([rule].foldl place book.rules)
    refine .placed (List.Sublist.refl _) ?_ ?_
    · simpa using valid
    · simpa using .inr old
  | delete id =>
    refine settle_map_revises fun result deleted => ?_
    simp only [delete] at deleted
    split at deleted
    · cases deleted
      exact .kept (eraseFirst_sublist id book.rules)
    · cases deleted
  | setEnabled id enabled =>
    refine settle_revises fun after done => ?_
    simp only [setEnabled] at done
    split at done
    · cases done
      exact .switched id enabled
    · cases done
  | clear => exact .kept (List.nil_sublist _)
  | importText scope text =>
    exact settle_map_revises fun result imported => importText_revises (List.Sublist.refl _) imported
  | importDirectives scope text =>
    refine settle_map_revises fun result imported => ?_
    obtain ⟨_, merged, rfl⟩ := importDirectives_eq_ok_iff.mp imported
    exact merge_revises (List.Sublist.refl _) merged
  | load scope file =>
    refine settle_map_revises fun result loaded => ?_
    obtain ⟨_, rfl⟩ | ⟨_, _, imported⟩ := loadFile_eq_ok_iff.mp loaded
    · exact .kept (List.nil_sublist _)
    · exact importText_revises (List.nil_sublist _) imported

/-- No two rules of a book have the same id. -/
def Distinct (book : RuleBook) : Prop := (ids book.rules).Nodup

theorem distinct_empty : empty.Distinct := List.nodup_nil

theorem Revision.nodup {rules left : List Rule} (revision : Revision rules left)
    (distinct : (ids rules).Nodup) : (ids left).Nodup := by
  cases revision with
  | kept fewer => exact (fewer.map Rule.id).nodup distinct
  | switched id enabled =>
    rw [ids_modifyFirst (by intro _ same; exact same)]
    exact distinct
  | placed fewer => exact nodup_foldl_place ((fewer.map Rule.id).nodup distinct) _

theorem Distinct.perform (distinct : book.Distinct) (supply : Supply)
    (operation : BookOperation) : (book.perform supply operation).Distinct :=
  (perform_revises book supply operation).nodup distinct

theorem Distinct.after (distinct : book.Distinct) (events : List BookEvent) :
    (book.after events).Distinct := by
  induction events generalizing book with
  | nil => exact distinct
  | cons event rest ih => exact ih (distinct.perform event.supply event.operation)

end RuleBook
/-!
### What holds of every book

However a book came about, its rules have ids, no two of them the same, and
each of them is valid.
-/

/-- A rule as it stands in a book: one that can be used, with an id to find it by. -/
structure Rule.Filed (rule : Rule) : Prop where
  valid : rule.validate = .ok ()
  named : Text.isBlankText rule.id = false

/-- Rules stay valid when they are switched on or off. -/
theorem Rule.Filed.switched {rule : Rule} (filed : rule.Filed) (enabled : Bool) :
    Rule.Filed { rule with enabled } :=
  ⟨filed.valid, filed.named⟩

namespace RuleBook
variable {book : RuleBook} {rules left ready : List Rule} {rule : Rule} {id : String}

structure Sound (book : RuleBook) : Prop where
  distinct : book.Distinct
  filed : ∀ rule ∈ book.rules, rule.Filed

theorem sound_empty : empty.Sound := ⟨distinct_empty, fun _ member => by cases member⟩

theorem mem_modifyFirst {change : Rule → Rule} (member : rule ∈ modifyFirst id change rules) :
    rule ∈ rules ∨ ∃ old ∈ rules, rule = change old := by
  induction rules with
  | nil => cases member
  | cons first rest ih =>
    rw [modifyFirst] at member
    split at member
    · rcases List.mem_cons.mp member with changed | later
      · exact .inr ⟨first, List.mem_cons_self, changed⟩
      · exact .inl (List.mem_cons_of_mem _ later)
    · rcases List.mem_cons.mp member with same | later
      · exact .inl (same ▸ List.mem_cons_self)
      · rcases ih later with inside | ⟨old, inside, changed⟩
        · exact .inl (List.mem_cons_of_mem _ inside)
        · exact .inr ⟨old, List.mem_cons_of_mem _ inside, changed⟩

theorem mem_place {other : Rule} (member : other ∈ place rules rule) :
    other = rule ∨ other ∈ rules := by
  by_cases found : rule.id ∈ ids rules
  · rw [place_of_mem found] at member
    rcases mem_modifyFirst member with inside | ⟨-, -, same⟩
    · exact .inr inside
    · exact .inl same
  · rw [place_of_not_mem found] at member
    rcases List.mem_append.mp member with inside | new
    · exact .inr inside
    · exact .inl (List.mem_singleton.mp new)

theorem mem_foldl_place (member : rule ∈ ready.foldl place rules) : rule ∈ ready ∨ rule ∈ rules := by
  induction ready generalizing rules with
  | nil => exact .inr member
  | cons first rest ih =>
    rcases ih member with later | before
    · exact .inl (List.mem_cons_of_mem _ later)
    · rcases mem_place before with same | old
      · exact .inl (same ▸ List.mem_cons_self)
      · exact .inr old

/-- A rule that takes the place of another has an id because the other one had it. -/
theorem named_of_mem_ids (filed : ∀ rule ∈ rules, rule.Filed) (member : id ∈ ids rules) :
    Text.isBlankText id = false := by
  obtain ⟨old, inside, rfl⟩ := List.mem_map.mp member
  exact (filed old inside).named

theorem Revision.filed (revision : Revision rules left) (filed : ∀ rule ∈ rules, rule.Filed) :
    ∀ rule ∈ left, rule.Filed := by
  intro rule member
  cases revision with
  | kept fewer => exact filed rule (fewer.subset member)
  | switched id enabled =>
    rcases mem_modifyFirst member with inside | ⟨old, inside, rfl⟩
    · exact filed rule inside
    · exact (filed old inside).switched enabled
  | placed fewer valid named =>
    rcases mem_foldl_place member with tested | old
    · refine ⟨valid rule tested, ?_⟩
      rcases named rule tested with own | taken
      · exact own
      · exact named_of_mem_ids filed taken
    · exact filed rule (fewer.subset old)

/-- What one operation preserves, done or refused. -/
theorem Sound.perform (sound : book.Sound) (supply : Supply) (operation : BookOperation) :
    (book.perform supply operation).Sound :=
  ⟨sound.distinct.perform supply operation, (perform_revises book supply operation).filed sound.filed⟩

theorem Sound.after (sound : book.Sound) (events : List BookEvent) : (book.after events).Sound := by
  induction events generalizing book with
  | nil => exact sound
  | cons event rest ih => exact ih (sound.perform event.supply event.operation)

/-- Whatever has been asked of a book, done or refused: no two of its rules have the same id, none
has a blank one, and every rule is valid. -/
theorem rules_unique_named_valid (events : List BookEvent) :
    (ids (empty.after events).rules).Nodup ∧
      ∀ rule ∈ (empty.after events).rules,
        Text.isBlankText rule.id = false ∧ rule.validate = .ok () := by
  obtain ⟨distinct, filed⟩ := sound_empty.after events
  exact ⟨distinct, fun rule member => ⟨(filed rule member).named, (filed rule member).valid⟩⟩

end RuleBook
end ApiProbe
