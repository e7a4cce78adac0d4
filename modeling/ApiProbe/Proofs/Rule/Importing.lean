import ApiProbe.Proofs.Json.Record
import ApiProbe.Proofs.Rule.Capture
import ApiProbe.Proofs.Rule.Operation

/-!
What comes of rules that are brought in from outside, as a text, as directives or as a file. They
come in all together or not at all, and nothing that stands in a book is moved for them.
-/
namespace ApiProbe

theorem Json.Decode.items_of_forall₂ {α : Type} {decode : Json → Except Failure α}
    {documents : List Json} {values : List α}
    (decoded : List.Forall₂ (fun document value => decode document = .ok value) documents values)
    (index : Nat) : items decode index documents = .ok values := by
  induction decoded generalizing index with
  | nil => rfl
  | cons first _ ih => simp [items, first, under, ih, bind, Except.bind, pure, Except.pure]

/-- A document that holds a list of documents: it is that list, or it is an object that has it as its
only member with the name of rules, whatever else is in it. -/
inductive Rule.Holds (documents : List Json) : Json → Prop
  | list : Holds documents (.arr documents)
  | member {before after : List (String × Json)}
    (apart : ∀ other ∈ before ++ after, other.1 ≠ "rules") :
    Holds documents (.obj (before ++ ("rules", .arr documents) :: after))

/-- A text gives the rules of a list and those of an object that holds one. -/
theorem Rule.importText_of_documents {scope : Scope} {text : String} {documents : List Json}
    {rules : List Rule} {document : Json}
    (decoded : List.Forall₂ (fun document rule => ofJson scope document = .ok rule)
      documents rules)
    (read : Json.readWritten text = .ok document) (holds : Holds documents document) :
    importText scope text = .ok rules := by
  have listed : Json.Decode.list (ofJson scope) (.arr documents) = .ok rules :=
    Json.Decode.items_of_forall₂ decoded 0
  cases holds with
  | list => simp only [importText, read, listed]
  | @member before after apart =>
    have passes : (Json.Decode.list (ofJson scope) (.arr documents)).map (fun _ => ()) = .ok () := by
      rw [listed]
      rfl
    have back : ∀ other ∈ after, other.1 ≠ "rules" := (List.forall_mem_append.mp apart).2
    have whole : Json.Decode.record "RuleDocument"
        [Json.Decode.required "rules" (Json.Decode.list (ofJson scope))]
        (.obj (before ++ ("rules", .arr documents) :: after)) =
          .ok (Table.ofPairs (before ++ ("rules", .arr documents) :: after)) :=
      Json.Decode.record_of_alone _ _ passes apart
    have held : wrapped scope (.obj (before ++ ("rules", .arr documents) :: after)) = .ok rules := by
      simp only [wrapped, whole, bind, Except.bind, Json.Decode.get, Table.find?_ofPairs_last back,
        listed, Json.Decode.under]
    simp only [importText, read, held]
    rfl

namespace RuleBook
open Attempt
variable {supply : Supply} {incoming : List Rule} {book wanted : RuleBook} {scope : Scope}

/-- How many rules have no id. -/
def nameless (incoming : List Rule) : Nat := incoming.countP fun rule => Text.isBlankText rule.id

/-- The ids of the rules that have one. -/
def givenIds (incoming : List Rule) : List String :=
  (ids incoming).filter fun id => !Text.isBlankText id

/-- Rules that can come in together: all are valid, and no two of them have the same id. -/
def Importable (incoming : List Rule) : Prop :=
  (∀ rule ∈ incoming, rule.validate = .ok ()) ∧ (givenIds incoming).Nodup

/-- The ids that a supply gives to the rules without one are new among these rules. -/
def Fresh (supply : Supply) (incoming : List Rule) : Prop :=
  (supply.uuids (nameless incoming)).Nodup ∧
    ∀ id ∈ supply.uuids (nameless incoming), id ∉ givenIds incoming

instance (incoming : List Rule) : Decidable (Importable incoming) :=
  inferInstanceAs (Decidable (_ ∧ _))

instance (supply : Supply) (incoming : List Rule) : Decidable (Fresh supply incoming) :=
  inferInstanceAs (Decidable (_ ∧ _))

/-- Of three rules two have no id; they can come in together. -/
example :
    let rule (id : String) : Rule :=
      ⟨id, "name", true, .body, .jsonPath, "$.a", "a", .request, none, none⟩
    Importable [rule "", rule "1", rule " "] ∧ Fresh ⟨⟨0⟩, 0⟩ [rule "", rule "1", rule " "] := by
  decide +kernel

theorem ids_withIds (supply : Supply) (incoming : List Rule) :
    (ids (withIds supply incoming).1).Perm
      (supply.uuids (nameless incoming) ++ givenIds incoming) := by
  induction incoming generalizing supply with
  | nil => exact .nil
  | cons rule rest ih =>
    cases blank : Text.isBlankText rule.id with
    | true =>
      simpa [withIds, Rule.withId, nameless, givenIds, ids, blank, Supply.uuids] using
        ih supply.uuid.2
    | false =>
      have placed := ((ih supply).cons rule.id).trans List.perm_middle.symm
      simpa [withIds, Rule.withId, nameless, givenIds, ids, blank] using placed

theorem withIds_eq_self (named : ∀ rule ∈ incoming, Text.isBlankText rule.id = false) :
    withIds supply incoming = (incoming, supply) := by
  induction incoming with
  | nil => rfl
  | cons rule rest ih =>
    obtain ⟨first, others⟩ := List.forall_mem_cons.mp named
    simp [withIds, Rule.withId, first, ih others]

/-- A merge that is done has taken rules that can come in together. -/
theorem importable_of_merge {result : RuleBook × Supply}
    (done : book.merge supply incoming = .ok result) : Importable incoming := by
  obtain ⟨valid, distinct, _⟩ := merge_eq_ok_iff.mp done
  have all := (ids_withIds supply incoming).nodup_iff.mp distinct
  exact ⟨valid, (List.nodup_append.mp all).2.1⟩

theorem merge_of_importable (distinct : book.Distinct) (together : Importable incoming)
    (fresh : Fresh supply incoming) : book.merge supply incoming =
      .ok (book.joined (withIds supply incoming).1, (withIds supply incoming).2) := by
  have single : (ids (withIds supply incoming).1).Nodup := by
    rw [(ids_withIds supply incoming).nodup_iff, List.nodup_append]
    refine ⟨fresh.1, together.2, ?_⟩
    rintro id drawn _ given rfl
    exact fresh.2 id drawn given
  rw [merge_eq_ok_iff, foldl_place_eq_joined distinct single]
  exact ⟨together.1, single, rfl⟩

/-- The rule that has no id comes behind one that gives up its place. -/
example :
    let rule (id name : String) : Rule :=
      ⟨id, name, true, .body, .jsonPath, "$.a", "a", .request, none, none⟩
    let names (result : RuleBook × Supply) := result.1.rules.map Rule.name
    ((⟨[rule "1" "old"]⟩ : RuleBook).merge ⟨⟨0⟩, 0⟩ [rule "" "more", rule "1" "new"]).toOption.map
      names = some ["new", "more"] := by
  decide +kernel

/-- Rules come in all together or not at all. -/
structure AllOrNone {ε : Type} (supply : Supply) (incoming : List Rule) (book wanted : RuleBook)
    (result : Except ε (Nat × RuleBook × Supply)) (after : RuleBook) : Prop where
  /-- If one of them is not valid or two have the same id, there is an error and the book is as it
  was. -/
  refused : ¬Importable incoming → (∃ error, result = .error error) ∧ after = book
  /-- Else all of them are counted and the book is as it should be. -/
  taken : Importable incoming → Fresh supply incoming →
    (∃ rest, result = .ok (incoming.length, wanted, rest)) ∧ after = wanted

theorem settle_error {ε : Type} {attempt : Except ε (Nat × RuleBook × Supply)} {error : ε}
    (refused : attempt = .error error) (book : RuleBook) :
    book.settle (attempt.map fun (_, after, _) => after) = book := by
  rw [refused]
  rfl

theorem settle_ok {ε : Type} {attempt : Except ε (Nat × RuleBook × Supply)}
    {result : Nat × RuleBook × Supply} (done : attempt = .ok result) (book : RuleBook) :
    book.settle (attempt.map fun (_, after, _) => after) = result.2.1 := by
  rw [done]
  rfl

/-- An attempt takes all or none if it is done for no other rules than those that can come in
together, and does for them what it should. -/
theorem allOrNone_of {ε : Type} {attempt : Except ε (Nat × RuleBook × Supply)}
    (sound : ∀ result, attempt = .ok result → Importable incoming)
    (complete : Importable incoming → Fresh supply incoming →
      ∃ rest, attempt = .ok (incoming.length, wanted, rest)) :
    AllOrNone supply incoming book wanted attempt
      (book.settle (attempt.map fun (_, after, _) => after)) where
  refused apart := by
    obtain ⟨error, refused⟩ := exists_error_iff.mpr fun result done => apart (sound result done)
    exact ⟨⟨error, refused⟩, settle_error refused book⟩
  taken together fresh := by
    obtain ⟨rest, done⟩ := complete together fresh
    exact ⟨⟨rest, done⟩, settle_ok done book⟩

theorem importable_of_importText {text : String} {result : Nat × RuleBook × Supply}
    (read : Rule.importText scope text = .ok incoming)
    (done : book.importText supply scope text = .ok result) : Importable incoming := by
  obtain ⟨own, same, _, merged, _⟩ := importText_eq_ok_iff.mp done
  cases read.symm.trans same
  exact importable_of_merge merged

theorem importText_of_importable {text : String} (distinct : book.Distinct)
    (read : Rule.importText scope text = .ok incoming) (together : Importable incoming)
    (fresh : Fresh supply incoming) : book.importText supply scope text =
      .ok (incoming.length, book.joined (withIds supply incoming).1, (withIds supply incoming).2) :=
  importText_eq_ok_iff.mpr
    ⟨incoming, read, _, merge_of_importable distinct together fresh, rfl⟩

theorem importText_of_fault {text : String} {fault : RuleTextFault}
    (read : Rule.importText scope text = .error fault) :
    book.importText supply scope text = .error (.unreadable fault) := by
  rw [importText, read]

theorem joined_empty (ready : List Rule) : empty.joined ready = ⟨ready⟩ := by
  simp [joined, empty, contains]

/-- Rules of directives are different as soon as their ids are. -/
theorem importable_directiveRules (lines : List (List Char))
    (different : (supply.uuids (lines.filterMap Rule.directive?).length).Nodup) :
    Importable (directiveRules supply scope (lines.filterMap Rule.directive?)).1 := by
  refine ⟨validate_directiveRules scope lines, List.Nodup.filter _ ?_⟩
  rwa [ids_directiveRules]

theorem named_directiveRules (supply : Supply) (scope : Scope) (directives : List Rule.Directive) :
    ∀ rule ∈ (directiveRules supply scope directives).1, Text.isBlankText rule.id = false := by
  intro rule member
  apply supply.uuids_not_blank directives.length
  rw [← ids_directiveRules supply scope]
  exact List.mem_map_of_mem member

theorem fresh_of_named (named : ∀ rule ∈ incoming, Text.isBlankText rule.id = false) :
    Fresh supply incoming := by
  have nobody : nameless incoming = 0 := List.countP_eq_zero.mpr fun rule member => by
    simp [named rule member]
  simp [Fresh, nobody, Supply.uuids]

/-- What imports do to a book. -/
structure Imports (book : RuleBook) (supply : Supply) (scope : Scope) : Prop where
  /-- A text holds rules if it is a list of them or an object with such a list. -/
  forms : ∀ text document documents incoming,
    Json.readWritten text = .ok document → Rule.Holds documents document →
    List.Forall₂ (fun document rule => Rule.ofJson scope document = .ok rule) documents incoming →
    Rule.importText scope text = .ok incoming
  /-- The rules of a text join the book all together or not at all, -/
  text : ∀ text incoming, Rule.importText scope text = .ok incoming →
    AllOrNone supply incoming book (book.joined (withIds supply incoming).1)
      (book.importText supply scope text) (book.perform supply (.importText scope text))
  /-- and nothing comes of a text that holds no rules. -/
  textRefused : ∀ text fault, Rule.importText scope text = .error fault →
    book.importText supply scope text = .error (.unreadable fault) ∧
      book.perform supply (.importText scope text) = book
  /-- The rules of the directives in a text join it all together or not at all, -/
  directives : ∀ text incoming rest,
    directiveRules supply scope (Rule.directives text) = (incoming, rest) →
      AllOrNone rest incoming book (book.joined incoming)
        (book.importDirectives supply scope text)
        (book.perform supply (.importDirectives scope text))
  /-- and they do join it if they are given different ids. -/
  directivesTaken : ∀ text, (supply.uuids (Rule.directives text).length).Nodup →
    ∃ incoming rest, directiveRules supply scope (Rule.directives text) = (incoming, rest) ∧
      Importable incoming ∧ Fresh rest incoming
  /-- The rules of a file take the place of the whole book, all together or not at all; -/
  file : ∀ content incoming, Rule.importText scope content = .ok incoming →
    AllOrNone supply incoming book ⟨(withIds supply incoming).1⟩
      (loadFile supply scope (.text content)) (book.perform supply (.load scope (.text content)))
  /-- nothing comes of a file that holds no rules or cannot be read, -/
  fileRefused : ∀ content fault, Rule.importText scope content = .error fault →
    loadFile supply scope (.text content) = .error (.refused (.unreadable fault)) ∧
      book.perform supply (.load scope (.text content)) = book
  fileUnreadable : ∀ reason,
    loadFile supply scope (.unreadable reason) = .error (.unreadable reason) ∧
      book.perform supply (.load scope (.unreadable reason)) = book
  /-- and a file that is not there empties the book. -/
  fileMissing : loadFile supply scope .missing = .ok (0, empty, supply) ∧
    book.perform supply (.load scope .missing) = empty

theorem imports_of_distinct (distinct : book.Distinct) (supply : Supply) (scope : Scope) :
    book.Imports supply scope where
  forms _ _ _ _ read holds decoded := Rule.importText_of_documents decoded read holds
  text text incoming read := allOrNone_of
    (fun _ done => importable_of_importText read done)
    (fun together fresh => ⟨_, importText_of_importable distinct read together fresh⟩)
  textRefused text fault read :=
    have refused := importText_of_fault read
    ⟨refused, settle_error refused book⟩
  directives text incoming rest found := by
    have named : ∀ rule ∈ incoming, Text.isBlankText rule.id = false := by
      simpa only [found] using named_directiveRules supply scope (Rule.directives text)
    apply allOrNone_of
    · intro result done
      obtain ⟨_, merged, _⟩ := importDirectives_eq_ok_iff.mp done
      rw [found] at merged
      exact importable_of_merge merged
    · intro together fresh
      have merged := merge_of_importable distinct together fresh
      rw [withIds_eq_self named] at merged
      refine ⟨rest, importDirectives_eq_ok_iff.mpr ?_⟩
      rw [found]
      exact ⟨_, merged, rfl⟩
  directivesTaken text different :=
    ⟨_, _, rfl, importable_directiveRules _ different,
      fresh_of_named (named_directiveRules supply scope _)⟩
  file content incoming read := by
    apply allOrNone_of
    · intro result done
      obtain ⟨missing, _⟩ | ⟨_, same, imported⟩ := loadFile_eq_ok_iff.mp done
      · cases missing
      · cases same
        exact importable_of_importText read imported
    · intro together fresh
      have imported := importText_of_importable distinct_empty read together fresh
      rw [joined_empty] at imported
      exact ⟨_, loadFile_eq_ok_iff.mpr (.inr ⟨content, rfl, imported⟩)⟩
  fileRefused content fault read := by
    have refused : loadFile supply scope (.text content) = .error (.refused (.unreadable fault)) :=
      congrArg (Except.mapError RuleFileError.refused) (importText_of_fault read)
    exact ⟨refused, settle_error refused book⟩
  fileUnreadable reason :=
    have refused : loadFile supply scope (.unreadable reason) = .error (.unreadable reason) := rfl
    ⟨refused, settle_error refused book⟩
  fileMissing :=
    have done : loadFile supply scope .missing = .ok (0, empty, supply) := rfl
    ⟨done, settle_ok done book⟩

/-- Whatever has been done to a book, rules that are brought in come in all together or not at all,
and the rules of the book keep their places. -/
theorem imports_all_or_none (events : List BookEvent) (supply : Supply) (scope : Scope) :
    (empty.after events).Imports supply scope :=
  imports_of_distinct (distinct_empty.after events) supply scope

end RuleBook
end ApiProbe
