import ApiProbe.Proofs.Rule.Batch

/-!
Rules against extractions by hand. A rule on its own and an extraction with the same method, pattern
and target come to the same value, the same refusal or the same end. They leave the same variables,
and histories in which only the sources and the times of changes can differ.
-/
namespace ApiProbe

/-- A change without the one who made it and without its time. -/
def Change.unsigned (change : Change) : Change := { change.undated with source := .manual }

/-- The history without any sources and times. -/
def History.unsigned (history : History) : History :=
  { history with trails := history.trails.mapValues (List.map Change.unsigned), now := ⟨0⟩ }

namespace History

theorem trail_unsigned (history : History) (name : String) :
    history.unsigned.trail name = (history.trail name).map Change.unsigned := by
  simp only [trail, unsigned, Table.find?_mapValues]
  cases history.trails.find? name <;> rfl

/-- Without sources and times it does not matter who records a change. -/
theorem unsigned_record (history : History) (name : String) (old new : Option String)
    (scope : Scope) (source : ChangeSource) :
    (history.record name old new scope source).unsigned =
      history.unsigned.record name old new scope .manual := by
  simp only [record, trail_unsigned]
  simp only [unsigned, Table.mapValues_insert, List.map_take, List.map_cons]
  rfl

end History

/-- An enabled rule that reads the body, or the headers if it is a header rule. -/
def Rule.standing (label name : String) (method : Method) (pattern variable_ : String)
    (scope : Scope) (wantsGroup : Option Bool) (description : Option String) : Rule :=
  ⟨label, name, true, method.defaultSource, method, pattern, variable_, scope, wantsGroup,
    description⟩

namespace Extraction

/-- The extraction that a method stands for, from the part of the response that its rules read. -/
def take (method : Rule.Method) (pattern : String) (wantsGroup : Option Bool) (target : Target)
    (source : ChangeSource) (response : Http.Response) (store : Store) :
    Except Trouble (Option String × Store) :=
  match method with
  | .jsonPath => do
    let (found, after) ← takeJson store source (some target) response.body pattern
    pure (found.map Json.display, after)
  | .xmlPath => takeXml store source (some target) response.body pattern
  | .header => takeHeader store source (some target) response.headers pattern
  | .regex => takeMatch store source (some target) response.body pattern wantsGroup

/-- A value is kept in the form in which it is given back. -/
theorem kept_written {α : Type} (store : Store) (source : ChangeSource) (target : Option Target)
    (written : α → String) (search : Except Trouble (Option α)) :
    (do
      let (found, after) ← kept store source target written search
      pure (found.map written, after)) =
      kept store source target id (do pure ((← search).map written)) := by
  cases search with
  | error trouble => rfl
  | ok found =>
    simp only [kept, bind, Except.bind, pure, Except.pure, Option.map_id_fun, id]
    cases keep store source target (found.map written) <;> rfl

/-- A value is kept unless the key of its variable cannot be used. -/
theorem kept_some (store : Store) (source : ChangeSource) (target : Target) (value : String) :
    kept store source (some target) id (.ok (some value)) =
      match Key.check target.variable_ with
      | .ok _ =>
        let old := store.raw? target.variable_ target.scope
        .ok (some value,
          store.put (Store.written old target.variable_ value none target.scope) source)
      | .error error => .error (.refused (.variable_ error)) := by
  simp only [kept, keep, Store.write, bind, Except.bind, Option.map_some, id]
  cases Key.check target.variable_ <;> rfl

/-- An extraction keeps what the rule of its method finds. -/
theorem take_eq_kept (label name : String) (method : Rule.Method) (pattern variable_ : String)
    (scope : Scope) (wantsGroup : Option Bool) (description : Option String)
    (response : Http.Response) (store : Store) (source : ChangeSource) :
    take method pattern wantsGroup ⟨variable_, scope⟩ source response store =
      kept store source (some ⟨variable_, scope⟩) id
        ((Rule.standing label name method pattern variable_ scope wantsGroup description).find
          response) := by
  cases method with
  | jsonPath => exact kept_written store source _ Json.display _
  | xmlPath | header | regex => rfl

end Extraction

namespace Rule
open Extraction (Trouble)

/-- How a rule on one store and an extraction on another one end. -/
inductive Agree (rule : Rule) (store other : Store) :
    Except Abort (Report × Store) → Except Trouble (Option String × Store) → Prop
  /-- Both give a value and keep it in the same variable. -/
  | found {value : String} {after later : Store} (contents : after.scopes = later.scopes)
    (histories : after.history.unsigned = later.history.unsigned) :
    Agree rule store other (.ok (.of [⟨rule, .ok value⟩], after)) (.ok (some value, later))
  /-- There is nothing to find. -/
  | missed : Agree rule store other (.ok (.of [⟨rule, .error .noMatch⟩], store)) (.ok (none, other))
  /-- The rule has failed, and the extraction is refused with the same error. -/
  | refused (error : ExtractionError) :
    Agree rule store other (.ok (.of [⟨rule, .error (.extraction error)⟩], store))
      (.error (.refused error))
  /-- Both break off. -/
  | aborted (abort : Abort) : Agree rule store other (.error abort) (.error (.aborted abort))

theorem applyAll_single {rule : Rule} (enabled : rule.enabled = true) (response : Http.Response)
    (store : Store) : applyAll [rule] response store =
      (rule.outcome response).map fun entry => (.of [entry], entry.keepIn store) := by
  have kept : [rule].filter Rule.enabled = [rule] := by simp [enabled]
  rw [applyAll_eq, kept, List.mapM_cons, List.mapM_nil]
  cases rule.outcome response <;> rfl

/-- Variables put into a store at different times and by different hands are the same. -/
theorem agree_put (rule : Rule) (value : String) (store : Store) (time later : Instant)
    (variable_ : Variable) (source : ChangeSource) :
    Agree rule (store.at_ time) (store.at_ later)
      (.ok (.of [⟨rule, .ok value⟩], (store.at_ time).put variable_ .rule))
      (.ok (some value, (store.at_ later).put variable_ source)) := by
  apply Agree.found
  · rfl
  · simp only [Store.put, History.unsigned_record]
    rfl

/-- A rule ends as an extraction that keeps what the rule finds. -/
theorem agree_kept {rule : Rule} (enabled : rule.enabled = true) (response : Http.Response)
    (store : Store) (source : ChangeSource) (time later : Instant) :
    Agree rule (store.at_ time) (store.at_ later) (applyAll [rule] response (store.at_ time))
      (Extraction.kept (store.at_ later) source (some ⟨rule.variable_, rule.scope⟩)
        (fun text => text) (rule.find response)) := by
  rw [applyAll_single enabled]
  unfold outcome
  cases rule.find response with
  | error trouble =>
    cases trouble with
    | refused error => exact .refused error
    | aborted abort => exact .aborted abort
  | ok found =>
    cases found with
    | none => exact .missed
    | some value =>
      have kept := Extraction.kept_some (store.at_ later) source ⟨rule.variable_, rule.scope⟩ value
      dsimp only at kept ⊢
      cases valid : Key.check rule.variable_ with
      | error error =>
        rw [valid] at kept
        exact kept ▸ .refused (.variable_ error)
      | ok _ =>
        rw [valid] at kept
        exact kept ▸ agree_put rule value store time later _ source

theorem Agree.succeeds_iff {rule : Rule} {store other : Store}
    {ran : Except Abort (Report × Store)} {taken : Except Trouble (Option String × Store)}
    (agree : Agree rule store other ran taken) :
    (∃ report after, ran = .ok (report, after) ∧ report.successCount = 1) ↔
      ∃ value after, taken = .ok (some value, after) := by
  cases agree with
  | found => exact ⟨fun _ => ⟨_, _, rfl⟩, fun _ => ⟨_, _, rfl, rfl⟩⟩
  | missed | refused =>
    constructor
    · rintro ⟨report, after, ⟨⟩, success⟩
      cases success
    · rintro ⟨value, after, ⟨⟩⟩
  | aborted =>
    constructor
    · rintro ⟨report, after, ⟨⟩, -⟩
    · rintro ⟨value, after, ⟨⟩⟩

/-- A rule on its own succeeds exactly if the extraction of its method gives a value, and then both
leave the same variables, and histories that differ in sources and times alone. In all other cases
both leave everything as it is. -/
theorem agrees_with_extraction (label name : String) (method : Method) (pattern variable_ : String)
    (scope : Scope) (wantsGroup : Option Bool) (description : Option String)
    (response : Http.Response) (store : Store) (source : ChangeSource) (time later : Instant) :
    let rule := standing label name method pattern variable_ scope wantsGroup description
    let ran := applyAll [rule] response (store.at_ time)
    let taken := Extraction.take method pattern wantsGroup ⟨variable_, scope⟩ source response
      (store.at_ later)
    ((∃ report after, ran = .ok (report, after) ∧ report.successCount = 1) ↔
        ∃ value after, taken = .ok (some value, after)) ∧
      Agree rule (store.at_ time) (store.at_ later) ran taken := by
  intro rule ran taken
  have same : taken = Extraction.kept (store.at_ later) source (some ⟨rule.variable_, rule.scope⟩)
      (fun text => text) (rule.find response) :=
    Extraction.take_eq_kept label name method pattern variable_ scope wantsGroup description
      response (store.at_ later) source
  have agree : Agree rule (store.at_ time) (store.at_ later) ran taken :=
    same ▸ agree_kept rfl response store source time later
  exact ⟨agree.succeeds_iff, agree⟩

end Rule
end ApiProbe
