import ApiProbe.Settings
import ApiProbe.Proofs.Attempt

/-!
The current settings, from the defaults on through everything that is asked of them. They keep to
their bounds all the time: a document that asks for others is refused, a change that leads to others
brings back the defaults, and settings that cannot be read are no settings at all.
-/
namespace ApiProbe

/-- What can be asked of the current settings. -/
inductive SettingsCall
  | load (document : Option Json)
  | update (change : Settings → Settings)
  | reset

namespace Settings

/-- Loads settings in place of the current ones: the answer, and what is current then. -/
def replace (section_ : String) (current : Settings) (document : Option Json) :
    Except SettingsFault Settings × Settings :=
  match load section_ document with
  | .ok loaded => (.ok loaded, loaded)
  | .error fault => (.error fault, current)

def perform (section_ : String) (current : Settings) : SettingsCall → Settings
  | .load document => (current.replace section_ document).2
  | .update change => current.update change
  | .reset => default

/-- The current settings after a sequence of calls. -/
def after (section_ : String) (calls : List SettingsCall) : Settings :=
  calls.foldl (perform section_) default

/-- Settings that scripts can be run with. -/
structure InBounds (settings : Settings) : Prop where
  timeout : 0 < settings.timeout
  historyLimit : 0 < settings.historyLimit
  depth : 0 < settings.depth ∧ settings.depth ≤ maxDepth
  callLevels : 0 < settings.maxCallLevels

theorem validate_eq_ok_iff (settings : Settings) :
    settings.validate = .ok () ↔ settings.InBounds := by
  constructor
  · intro valid
    simp only [validate, beq_iff_eq, Bool.or_eq_true, decide_eq_true_eq] at valid
    split at valid
    · cases valid
    split at valid
    · cases valid
    split at valid
    · cases valid
    split at valid
    · cases valid
    constructor <;> omega
  · intro bounds
    obtain ⟨timeout, historyLimit, ⟨positive, bounded⟩, callLevels⟩ := bounds
    simp [validate, Nat.ne_of_gt timeout, Nat.ne_of_gt historyLimit, Nat.ne_of_gt positive,
      Nat.not_lt.mpr bounded, Nat.ne_of_gt callLevels]

theorem isValid_iff (settings : Settings) : settings.isValid = true ↔ settings.InBounds := by
  rw [← validate_eq_ok_iff, isValid]
  cases settings.validate <;> simp

theorem default_inBounds : default.InBounds := by
  constructor <;> decide

/-- Loading asks for settings and validates them. -/
theorem load_eq (section_ : String) (document : Option Json) :
    load section_ document =
      (requested section_ document).validate.map fun _ => requested section_ document := by
  rw [load]
  cases (requested section_ document).validate <;> rfl

/-- Only a section that is there and can be read is ever refused. -/
theorem readable_of_load_error {section_ : String} {document : Option Json} {fault : SettingsFault}
    (refused : load section_ document = .error fault) :
    ∃ found settings, document.bind (Json.member? section_) = some found ∧
      ofJson found = .ok settings ∧ settings.validate = .error fault := by
  have invalid : (requested section_ document).validate = .error fault := by
    rw [load_eq] at refused
    cases outcome : (requested section_ document).validate with
    | ok _ =>
      rw [outcome] at refused
      cases refused
    | error other =>
      rw [outcome] at refused
      cases refused
      rfl
  unfold requested at invalid
  split at invalid
  · rename_i found present
    split at invalid
    · rename_i settings read
      exact ⟨found, settings, present, read, invalid⟩
    · cases invalid
  · cases invalid

/-- A load is answered with settings within their bounds, which are current then, or with the fault
of those that the document asks for, and nothing has changed. -/
theorem replace_answers (section_ : String) (current : Settings) (document : Option Json) :
    match current.replace section_ document with
    | (.ok loaded, next) =>
      loaded = requested section_ document ∧ loaded.validate = .ok () ∧ next = loaded
    | (.error fault, next) =>
      (∃ found settings, document.bind (Json.member? section_) = some found ∧
        ofJson found = .ok settings ∧ settings.validate = .error fault) ∧ next = current := by
  unfold replace
  cases outcome : load section_ document with
  | ok loaded =>
    rw [load_eq] at outcome
    obtain ⟨_, valid, rfl⟩ := Attempt.map_eq_ok_iff.mp outcome
    exact ⟨rfl, valid, rfl⟩
  | error fault => exact ⟨readable_of_load_error outcome, rfl⟩

theorem InBounds.update (current : Settings) (change : Settings → Settings) :
    (current.update change).InBounds := by
  rw [Settings.update]
  split
  · rename_i valid
    exact (isValid_iff _).mp valid
  · exact default_inBounds

theorem InBounds.perform {current : Settings} (bounds : current.InBounds) (section_ : String)
    (call : SettingsCall) : (current.perform section_ call).InBounds := by
  cases call with
  | load document =>
    have answers := replace_answers section_ current document
    rw [Settings.perform]
    split at answers
    · rename_i loaded next outcome
      obtain ⟨-, valid, rfl⟩ := answers
      rw [outcome]
      exact (validate_eq_ok_iff _).mp valid
    · rename_i fault next outcome
      obtain ⟨-, rfl⟩ := answers
      rw [outcome]
      exact bounds
  | update change => exact .update current change
  | reset => exact default_inBounds

theorem after_inBounds (section_ : String) (calls : List SettingsCall) :
    (after section_ calls).InBounds := by
  have keeps (current : Settings) (bounds : current.InBounds) :
      (calls.foldl (perform section_) current).InBounds := by
    induction calls generalizing current with
    | nil => exact bounds
    | cons call rest ih => exact ih _ (bounds.perform section_ call)
  exact keeps default default_inBounds

/-- Whatever has been asked of them, the current settings are valid. A load that is refused leaves
them as they are, and one that is not makes the settings that it gives back the current ones. -/
theorem current_always_valid (section_ : String) (calls : List SettingsCall) :
    let current := after section_ calls
    (current.validate = .ok () ∧ current.InBounds) ∧
      ∀ document, match current.replace section_ document with
        | (.ok loaded, next) =>
          loaded = requested section_ document ∧ loaded.validate = .ok () ∧ next = loaded
        | (.error fault, next) =>
          (∃ found settings, document.bind (Json.member? section_) = some found ∧
            ofJson found = .ok settings ∧ settings.validate = .error fault) ∧ next = current := by
  intro current
  have bounds : current.InBounds := after_inBounds section_ calls
  refine ⟨⟨(validate_eq_ok_iff current).mpr bounds, bounds⟩, ?_⟩
  intro document
  exact replace_answers section_ current document

end Settings
end ApiProbe
