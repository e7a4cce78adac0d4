import ApiProbe.Proofs.Json.RoundTrip
import ApiProbe.Proofs.Json.Record
import ApiProbe.Proofs.Rule.Importing
import ApiProbe.Proofs.Rule.Operation

/-!
Books that are written and read again. What a rule leaves open is not written, and what is not
written is left open when it is read: the default scope of the reader does not show.
-/
namespace ApiProbe
open Json

@[simp] theorem Scope.ofJson_name (scope : Scope) : ofJson (.str scope.name) = .ok scope := by
  cases scope <;> rfl

namespace Rule

@[simp] theorem Source.ofJson_name (source : Source) : ofJson (.str source.name) = .ok source := by
  cases source <;> rfl

@[simp] theorem Method.ofJson_name (method : Method) : ofJson (.str method.name) = .ok method := by
  cases method <;> rfl

/-- The members of a rule's document. -/
def members (rule : Rule) : List (String × Json) :=
  [("id", .str rule.id), ("name", .str rule.name), ("enabled", .bool rule.enabled),
    ("source", .str rule.source.name), ("method", .str rule.method.name),
    ("pattern", .str rule.pattern), ("variableName", .str rule.variable_),
    ("targetScope", .str rule.scope.name)]
    ++ rule.wantsGroup.toList.map (fun wanted => ("hasCaptureGroup", .bool wanted))
    ++ describedBy rule.description

theorem readable_toJson (rule : Rule) (depth : Nat) : Readable (depth + 1) rule.toJson := by
  obtain ⟨id, name, enabled, source, method, pattern, variable_, scope, wanted, description⟩ := rule
  cases wanted <;> cases description <;>
    simp [toJson, describedBy, Readable, ReadableMembers]

theorem nodup_members (rule : Rule) : (rule.members.map Prod.fst).Nodup := by
  obtain ⟨id, name, enabled, source, method, pattern, variable_, scope, wanted, description⟩ := rule
  cases wanted <;> cases description <;> simp [members, describedBy]

theorem lookup_hasCaptureGroup (rule : Rule) :
    rule.members.lookup "hasCaptureGroup" = rule.wantsGroup.map Json.bool := by
  obtain ⟨id, name, enabled, source, method, pattern, variable_, scope, wanted, description⟩ := rule
  cases wanted <;> cases description <;> rfl

theorem lookup_description (rule : Rule) :
    rule.members.lookup "description" = rule.description.map Json.str := by
  obtain ⟨id, name, enabled, source, method, pattern, variable_, scope, wanted, description⟩ := rule
  cases wanted <;> cases description <;> rfl

/-- A rule is read back from its document, whatever the default scope. -/
theorem ofJson_toJson (scope : Scope) (rule : Rule) : ofJson scope rule.toJson = .ok rule := by
  have distinct := nodup_members rule
  rw [show rule.toJson = .obj rule.members from rfl, ofJson, Decode.record_of_distinct _ distinct]
  case passes =>
    obtain ⟨id, name, enabled, source, method, pattern, variable_, home, wanted, description⟩ := rule
    cases wanted <;> cases description <;>
      simp [members, describedBy, Decode.Passes, Decode.possible, Decode.required, Decode.string,
        Decode.bool, Decode.optional, Except.map]
  case complete => simp [members, Decode.possible, Decode.required]
  have id : Decode.getOr (Table.ofPairs rule.members) "id" Decode.string "" = .ok rule.id :=
    Decode.getOr_ofPairs distinct (by rfl) (by rfl)
  have name : Decode.get (Table.ofPairs rule.members) "name" Decode.string = .ok rule.name :=
    Decode.get_ofPairs distinct (by rfl) (by rfl)
  have enabled : Decode.getOr (Table.ofPairs rule.members) "enabled" Decode.bool true = .ok rule.enabled :=
    Decode.getOr_ofPairs distinct (by rfl) (by rfl)
  have source : Decode.getOr (Table.ofPairs rule.members) "source" Source.ofJson .body = .ok rule.source :=
    Decode.getOr_ofPairs distinct (by rfl) (Source.ofJson_name rule.source)
  have method : Decode.get (Table.ofPairs rule.members) "method" Method.ofJson = .ok rule.method :=
    Decode.get_ofPairs distinct (by rfl) (Method.ofJson_name rule.method)
  have pattern : Decode.get (Table.ofPairs rule.members) "pattern" Decode.string = .ok rule.pattern :=
    Decode.get_ofPairs distinct (by rfl) (by rfl)
  have variable_ : Decode.get (Table.ofPairs rule.members) "variableName" Decode.string = .ok rule.variable_ :=
    Decode.get_ofPairs distinct (by rfl) (by rfl)
  have home : Decode.getOr (Table.ofPairs rule.members) "targetScope" Scope.ofJson scope = .ok rule.scope :=
    Decode.getOr_ofPairs distinct (by rfl) (Scope.ofJson_name rule.scope)
  have group : Decode.getOr (Table.ofPairs rule.members) "hasCaptureGroup" (Decode.optional Decode.bool) none =
      .ok rule.wantsGroup :=
    Decode.getOr_optional distinct (lookup_hasCaptureGroup rule) fun _ => rfl
  have description : Decode.getOr (Table.ofPairs rule.members) "description" (Decode.optional Decode.string) none =
      .ok rule.description :=
    Decode.getOr_optional distinct (lookup_description rule) fun _ => rfl
  simp only [bind, Except.bind, id, name, enabled, source, method, pattern, variable_, home, group,
    description]
  rfl

theorem readableItems_map_toJson (depth : Nat) (rules : List Rule) :
    ReadableItems (depth + 1) (rules.map toJson) := by
  induction rules with
  | nil => trivial
  | cons rule rest ih => exact ⟨readable_toJson rule depth, ih⟩

/-- The text of rules gives the same rules, whatever the default scope. -/
theorem importText_exportText (scope : Scope) (rules : List Rule) :
    importText scope (exportText rules) = .ok rules := by
  have readable : Readable maxDepth (.obj [("rules", .arr (rules.map toJson))]) := by
    simp [Readable, ReadableMembers, maxDepth, readableItems_map_toJson 124 rules]
  have read : readWritten (exportText rules) = .ok (.obj [("rules", .arr (rules.map toJson))]) :=
    readWritten_pretty readable
  refine importText_of_documents ?_ read (@Holds.member _ [] [] nofun)
  rw [List.forall₂_map_left_iff, List.forall₂_same]
  exact fun rule _ => ofJson_toJson scope rule

end Rule

namespace RuleBook
variable {book other : RuleBook} {rules : List Rule} {rule : Rule}

/-- A rule that comes in among rules with other ids takes its own place. -/
theorem renewed_of_mem (distinct : (ids rules).Nodup) (member : rule ∈ rules) :
    renewed rules rule = rule := by
  induction rules with
  | nil => cases member
  | cons first rest ih =>
    obtain ⟨new, distinct⟩ := List.nodup_cons.mp distinct
    rw [renewed_cons]
    rcases List.mem_cons.mp member with rfl | later
    · exact if_pos rfl
    · rw [if_neg, ih distinct later]
      exact fun same => new (same ▸ List.mem_map_of_mem later)

/-- Rules that come into their own book change nothing. -/
theorem Distinct.joined_self (distinct : book.Distinct) : book.joined book.rules = book := by
  have stay : book.rules.map (renewed book.rules) = book.rules := by
    rw [List.map_congr_left fun rule member => renewed_of_mem distinct member, List.map_id']
  have none_ : (book.rules.filter fun rule => !book.contains rule.id) = [] := by
    rw [List.filter_eq_nil_iff]
    intro rule member
    simp [contains_eq, ids, List.mem_map_of_mem member]
  rw [joined, stay, none_, List.append_nil]

/-- The rules of a book come into any other book, with the ids that they have. -/
theorem Sound.importText_exportText (sound : book.Sound) (distinct : other.Distinct)
    (supply : Supply) (scope : Scope) : other.importText supply scope book.exportText =
      .ok (book.size, other.joined book.rules, supply) := by
  have named : ∀ rule ∈ book.rules, Text.isBlankText rule.id = false :=
    fun rule member => (sound.filed rule member).named
  have together : Importable book.rules :=
    ⟨fun rule member => (sound.filed rule member).valid, sound.distinct.filter _⟩
  have read : Rule.importText scope book.exportText = .ok book.rules :=
    Rule.importText_exportText scope book.rules
  have fresh : Fresh supply book.rules := fresh_of_named named
  have imported := importText_of_importable distinct read together fresh
  rwa [withIds_eq_self named] at imported

/-- What comes of the text of a book, whatever ids are at hand and whatever scope is the default. -/
structure Restored (book : RuleBook) (supply : Supply) (scope : Scope) : Prop where
  /-- It makes an empty book the same book, -/
  fromText : empty.importText supply scope book.exportText = .ok (book.size, book, supply)
  /-- and it changes nothing in the book itself. -/
  intoItself : book.importText supply scope book.exportText = .ok (book.size, book, supply) ∧
    book.perform supply (.importText scope book.exportText) = book
  /-- A file that it was saved to gives the same book, -/
  fromFile : ∀ place file, book.saveFile place = .ok file →
    loadFile supply scope file = .ok (book.size, book, supply)
  /-- whatever book the file is loaded into. -/
  replaced : ∀ place file, book.saveFile place = .ok file →
    ∀ other : RuleBook, other.perform supply (.load scope file) = book
  /-- It is saved if nothing stands in the way of its file. -/
  saved : ∀ place : FilePlace, place.directory = .ok () → place.writing = .ok () →
    ∃ file, book.saveFile place = .ok file

theorem saveFile_eq_ok_iff {place : FilePlace} {file : RuleFile} : book.saveFile place = .ok file ↔
    place.directory = .ok () ∧ place.writing = .ok () ∧ .text book.exportText = file := by
  simp only [saveFile, Attempt.test_eq_ok_iff, Attempt.mapError_eq_ok_iff, Attempt.pure_eq_ok_iff]

theorem Sound.restored (sound : book.Sound) (supply : Supply) (scope : Scope) :
    book.Restored supply scope := by
  have fromText := sound.importText_exportText distinct_empty supply scope
  rw [joined_empty] at fromText
  have intoItself := sound.importText_exportText sound.distinct supply scope
  rw [sound.distinct.joined_self] at intoItself
  have fromFile (place : FilePlace) (file : RuleFile) (done : book.saveFile place = .ok file) :
      loadFile supply scope file = .ok (book.size, book, supply) := by
    obtain ⟨-, -, rfl⟩ := saveFile_eq_ok_iff.mp done
    exact loadFile_eq_ok_iff.mpr (.inr ⟨_, rfl, fromText⟩)
  exact {
    fromText
    intoItself := ⟨intoItself, settle_ok intoItself book⟩
    fromFile
    replaced := fun place file done other => settle_ok (fromFile place file done) other
    saved := fun place made written => ⟨_, saveFile_eq_ok_iff.mpr ⟨made, written, rfl⟩⟩ }

/-- Whatever has been asked of a book, its text and its file bring it back as it was. -/
theorem persistence_lossless (events : List BookEvent) (supply : Supply) (scope : Scope) :
    (empty.after events).Restored supply scope :=
  (sound_empty.after events).restored supply scope

end RuleBook
end ApiProbe
