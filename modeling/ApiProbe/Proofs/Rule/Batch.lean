import ApiProbe.Proofs.Rule.Outcome

/-!
What a batch of rules does. Batches may be run one after the other or as one, a rule that fails
leaves nothing behind but its entries in the report, and of several rules for a variable the last one
with a value has its way.
-/
namespace ApiProbe.Rule
variable {response : Http.Response} {rules : List Rule} {store after : Store} {report : Report}

deriving instance DecidableEq for Applied

namespace Report

/-- The report with these entries. -/
def of (entries : List Applied) : Report := ⟨entries, entries.filterMap Applied.failed?⟩

/-- The entries of the rules that found a value. -/
def successes (report : Report) : List Applied := report.applied.filter Applied.isSuccess

/-- The report of two batches, one after the other. -/
def append (first second : Report) : Report :=
  ⟨first.applied ++ second.applied, first.errors ++ second.errors⟩

instance : Append Report := ⟨append⟩

theorem of_append (first second : List Applied) : of (first ++ second) = of first ++ of second := by
  rw [of, List.filterMap_append]
  rfl

theorem foldl_add (entries : List Applied) (report : Report) :
    entries.foldl add report = report ++ of entries := by
  induction entries generalizing report with
  | nil =>
    change report = ⟨report.applied ++ [], report.errors ++ []⟩
    rw [List.append_nil, List.append_nil]
  | cons entry rest ih =>
    rw [List.foldl_cons, ih, ← List.singleton_append (l := rest), of_append]
    simp only [HAppend.hAppend, Append.append, append, of, add, List.filterMap, Applied.failed?]
    cases entry.result <;> simp

end Report

/-- A run settles its rules, enters all of them in the report and writes what they found. -/
theorem applyEach_eq (response : Http.Response) (rules : List Rule) (report : Report)
    (store : Store) : applyEach response rules report store = (do
      let entries ← rules.mapM (outcome response)
      pure (report ++ .of entries, keepAll entries store)) := by
  have run (report : Report) : applyEach response rules report store = (do
      let entries ← rules.mapM (outcome response)
      pure (entries.foldl Report.add report, keepAll entries store)) := by
    induction rules generalizing report store with
    | nil => rfl
    | cons rule rest ih =>
      rw [applyEach, apply_eq, List.mapM_cons]
      cases rule.outcome response with
      | error abort => rfl
      | ok entry =>
        simp only [Except.map, bind, Except.bind] at ih ⊢
        rw [ih]
        cases rest.mapM (outcome response) <;> rfl
  simp only [run, Report.foldl_add]

theorem applyAll_eq (rules : List Rule) (response : Http.Response) (store : Store) :
    applyAll rules response store = (do
      let entries ← (rules.filter Rule.enabled).mapM (outcome response)
      pure (.of entries, keepAll entries store)) :=
  applyEach_eq response _ .empty store

theorem mapM_outcome_cons (rule : Rule) (rest : List Rule) (entries : List Applied) :
    (rule :: rest).mapM (outcome response) = .ok entries ↔
      ∃ entry later, rule.outcome response = .ok entry ∧
        rest.mapM (outcome response) = .ok later ∧ entries = entry :: later := by
  rw [List.mapM_cons]
  constructor
  · intro settled
    cases own : rule.outcome response with
    | error abort =>
      rw [own] at settled
      cases settled
    | ok entry =>
      cases others : rest.mapM (outcome response) with
      | error abort =>
        rw [own, others] at settled
        cases settled
      | ok later =>
        rw [own, others] at settled
        cases settled
        exact ⟨entry, later, rfl, rfl, rfl⟩
  · rintro ⟨entry, later, own, others, rfl⟩
    rw [own, others]
    rfl

/-- The entries of a run are those of its rules, in order. -/
theorem mapM_outcome_eq_ok_iff (rules : List Rule) (entries : List Applied) :
    rules.mapM (outcome response) = .ok entries ↔ entries.map Applied.rule = rules ∧
      ∀ entry ∈ entries, entry.rule.outcome response = .ok entry := by
  induction rules generalizing entries with
  | nil =>
    rw [List.mapM_nil, List.map_eq_nil_iff]
    constructor
    · intro settled
      cases settled
      exact ⟨rfl, by simp⟩
    · rintro ⟨rfl, -⟩
      rfl
  | cons rule rest ih =>
    rw [mapM_outcome_cons]
    constructor
    · rintro ⟨entry, later, own, others, rfl⟩
      obtain ⟨same, genuine⟩ := (ih later).mp others
      have named := outcome_rule own
      exact ⟨by rw [List.map_cons, named, same],
        List.forall_mem_cons.mpr ⟨by rw [named, own], genuine⟩⟩
    · rintro ⟨same, genuine⟩
      cases entries with
      | nil => cases same
      | cons entry later =>
        obtain ⟨rfl, rest_same⟩ := List.cons.inj same
        obtain ⟨own, genuine⟩ := List.forall_mem_cons.mp genuine
        exact ⟨entry, later, own, (ih later).mpr ⟨rest_same, genuine⟩, rfl⟩

theorem exists_outcomes_iff (rules : List Rule) :
    (∃ entries, rules.mapM (outcome response) = .ok entries) ↔
      ∀ rule ∈ rules, ∃ entry, rule.outcome response = .ok entry := by
  induction rules with
  | nil => exact ⟨fun _ => by simp, fun _ => ⟨[], rfl⟩⟩
  | cons rule rest ih =>
    rw [List.forall_mem_cons, ← ih]
    simp only [mapM_outcome_cons]
    constructor
    · rintro ⟨_, entry, later, own, others, -⟩
      exact ⟨⟨entry, own⟩, later, others⟩
    · rintro ⟨⟨entry, own⟩, later, others⟩
      exact ⟨_, entry, later, own, others, rfl⟩

/-- A batch has a report unless the search of one of its rules breaks off. -/
theorem applyAll_ok_iff (rules : List Rule) (response : Http.Response) (store : Store) :
    (∃ result, applyAll rules response store = .ok result) ↔
      ∀ rule ∈ rules, rule.enabled = true →
        ∀ abort, rule.find response ≠ .error (.aborted abort) := by
  have settles (rule : Rule) : (∃ entry, rule.outcome response = .ok entry) ↔
      ∀ abort, rule.find response ≠ .error (.aborted abort) := by
    simp only [ne_eq, ← outcome_eq_error_iff]
    cases rule.outcome response <;> simp
  calc (∃ result, applyAll rules response store = .ok result)
    _ ↔ ∃ entries, (rules.filter Rule.enabled).mapM (outcome response) = .ok entries := by
      rw [applyAll_eq]
      cases (rules.filter Rule.enabled).mapM (outcome response) <;>
        simp [bind, Except.bind, pure, Except.pure]
    _ ↔ _ := by
      rw [exists_outcomes_iff]
      simp only [List.mem_filter, and_imp, settles]

/-- A batch split in two: the second part may be run later, on what the first one left. -/
theorem applyAll_append (first second : List Rule) (response : Http.Response) (store : Store)
    (time later : Instant) : (do
      let (report, after) ← applyAll (first ++ second) response store
      pure (report, after.undated)) = (do
      let (one, middle) ← applyAll first response (store.at_ time)
      let (two, after) ← applyAll second response (middle.at_ later)
      pure (one ++ two, after.undated)) := by
  simp only [applyAll_eq, List.filter_append, List.mapM_append]
  cases (first.filter Rule.enabled).mapM (outcome response) with
  | error abort => rfl
  | ok earlier =>
    cases (second.filter Rule.enabled).mapM (outcome response) with
    | error abort => rfl
    | ok further =>
      simp only [bind, Except.bind, pure, Except.pure, Report.of_append, keepAll_append,
        undated_keepAll, Store.undated_at_]

/-- What the report of a batch tells about its rules and about the store that is left. -/
structure Report.Tells (report : Report) (rules : List Rule) (response : Http.Response)
    (store after : Store) : Prop where
  /-- There is an entry for each enabled rule, in order. -/
  complete : report.applied.map Applied.rule = rules.filter Rule.enabled
  /-- The failures are those of the entries, in order. -/
  failures : report.errors = report.applied.filterMap Applied.failed?
  /-- An entry is what its rule alone would get, with any store. -/
  independent : ∀ entry ∈ report.applied, ∀ other,
    ∃ last, applyAll [entry.rule] response other = .ok (.of [entry], last)
  /-- Without the rules that are disabled or fail, the store ends the same. -/
  isolated : applyAll (report.successes.map Applied.rule) response store =
    .ok (⟨report.successes, []⟩, after)
  /-- Without any success the store stays as it is. -/
  harmless : report.successCount = 0 → after = store
  /-- A variable has the value of the last rule that found one for it, -/
  latest : ∀ key scope value, lastValue? report.applied key scope = some value →
    after.get? key (some scope) = some value
  /-- and stays as it is if none did. -/
  untouched : ∀ key scope, lastValue? report.applied key scope = none →
    after.raw? key scope = store.raw? key scope

/-- Successes are no failures. -/
theorem Report.of_successes (report : Report) : of report.successes = ⟨report.successes, []⟩ := by
  rw [of, List.filterMap_eq_nil_iff.mpr]
  intro entry member
  have success := (List.mem_filter.mp member).2
  unfold Applied.isSuccess at success
  unfold Applied.failed?
  cases result : entry.result with
  | ok value => rfl
  | error failure => simp [result] at success

/-- Rules with these outcomes, all of them enabled, have them in every batch. -/
theorem applyAll_of_outcomes {entries : List Applied}
    (settled : ∀ entry ∈ entries, entry.rule.outcome response = .ok entry)
    (enabled : ∀ entry ∈ entries, entry.rule.enabled = true) (store : Store) :
    applyAll (entries.map Applied.rule) response store = .ok (.of entries, keepAll entries store) := by
  have all : (entries.map Applied.rule).filter Rule.enabled = entries.map Applied.rule := by
    apply List.filter_eq_self.mpr
    intro rule member
    obtain ⟨entry, present, rfl⟩ := List.mem_map.mp member
    exact enabled entry present
  rw [applyAll_eq, all, (mapM_outcome_eq_ok_iff _ entries).mpr ⟨rfl, settled⟩]
  rfl

/-- A batch that has run leaves what its report tells. -/
theorem tells_of_applyAll (ran : applyAll rules response store = .ok (report, after)) :
    report.Tells rules response store after := by
  rw [applyAll_eq] at ran
  cases outcomes : (rules.filter Rule.enabled).mapM (outcome response) with
  | error abort =>
    rw [outcomes] at ran
    cases ran
  | ok entries =>
    rw [outcomes] at ran
    cases ran
    obtain ⟨complete, settled⟩ := (mapM_outcome_eq_ok_iff _ entries).mp outcomes
    have enabled (entry : Applied) (member : entry ∈ entries) : entry.rule.enabled = true := by
      have kept : entry.rule ∈ rules.filter Rule.enabled :=
        complete ▸ List.mem_map_of_mem member
      exact (List.mem_filter.mp kept).2
    refine ⟨complete, rfl, ?independent, ?isolated, ?harmless, ?latest, ?untouched⟩
    case independent =>
      intro entry member other
      refine ⟨_, @applyAll_of_outcomes response [entry] ?_ ?_ other⟩
      · simpa using settled entry member
      · simpa using enabled entry member
    case isolated =>
      rw [← keepAll_filter_isSuccess, ← Report.of_successes]
      apply applyAll_of_outcomes
      · intro entry member
        exact settled entry ((List.mem_filter.mp member).1)
      · intro entry member
        exact enabled entry ((List.mem_filter.mp member).1)
    case harmless =>
      intro none
      have failed : entries.filter Applied.isSuccess = [] := List.length_eq_zero_iff.mp none
      rw [← keepAll_filter_isSuccess, failed]
      rfl
    case latest =>
      intro key scope value last
      exact get?_keepAll last store
    case untouched =>
      intro key scope nothing
      exact raw?_keepAll nothing store

/-- Batches are sequential and keep failures apart: a batch does what its parts do one after the
other, times aside; it has a report unless a search breaks off; and its report tells what has become
of the rules and of the store. -/
theorem batches_sequential (response : Http.Response) (store : Store) :
    (∀ (first second : List Rule) (time later : Instant), (do
        let (report, after) ← applyAll (first ++ second) response store
        pure (report, after.undated)) = (do
        let (one, middle) ← applyAll first response (store.at_ time)
        let (two, after) ← applyAll second response (middle.at_ later)
        pure (one ++ two, after.undated))) ∧
      (∀ rules, (∃ result, applyAll rules response store = .ok result) ↔
        ∀ rule ∈ rules, rule.enabled = true →
          ∀ abort, rule.find response ≠ .error (.aborted abort)) ∧
      ∀ rules report after, applyAll rules response store = .ok (report, after) →
        report.Tells rules response store after :=
  ⟨fun first second => applyAll_append first second response store,
    fun rules => applyAll_ok_iff rules response store, fun _ _ _ => tells_of_applyAll⟩

/-- Of five rules one is disabled, one cannot be used and one has a blank variable; the others write
the same variable one after the other. -/
theorem batches_sequential_numbers :
    let reading (method : Method) (pattern variable_ : String) : Rule :=
      ⟨"id", "name", true, .body, method, pattern, variable_, .environment, none, none⟩
    let one := reading .regex "[0-9]" "n"
    let refused := { one with source := .headers, method := .xmlPath }
    let disabled := { one with enabled := false }
    let blank := reading .regex "[0-9]" " "
    let two := reading .jsonPath "$[1]" "n"
    let rules := [one, refused, disabled, blank, two]
    let response : Http.Response := ⟨200, "OK", [], "[7,8]", 0, 0⟩
    let store := Store.empty 10 5 ⟨0⟩
    let report : Report := .of [⟨one, .ok "7"⟩, ⟨refused, .error (.extraction .xmlInHeaders)⟩,
      ⟨blank, .error (.extraction (.variable_ (.invalidKey .blank)))⟩, ⟨two, .ok "8"⟩]
    ∃ after, applyAll rules response store = .ok (report, after) ∧
      after.get? "n" (some .environment) = some "8" := by
  intro reading one refused disabled blank two rules response store report
  have outcomes : (rules.filter Rule.enabled).mapM (outcome response) = .ok report.applied := by
    decide +kernel
  have ran : applyAll rules response store = .ok (report, keepAll report.applied store) := by
    rw [applyAll_eq, outcomes]
    rfl
  have told := (batches_sequential response store).2.2 rules report _ ran
  have last : lastValue? report.applied "n" .environment = some "8" := by decide +kernel
  exact ⟨_, ran, told.latest "n" .environment "8" last⟩

end ApiProbe.Rule
