import ApiProbe.Proofs.Variable.Log
import ApiProbe.Proofs.Table.Order

/-!
What a history keeps of its log. Of every name it keeps the latest changes since the name was last
cleared, up to its limit, and it gives them out newest first; all else that it tells follows from
them. The numbers of the changes belong to the log, so no clearing starts them anew.
-/
namespace ApiProbe.History
variable {history : History} {cap : Nat} {log : Log}

theorem mem_trail_iff (history : History) (name : String) (change : Change) :
    change ∈ history.trail name ↔
      ∃ changes, history.trails.find? name = some changes ∧ change ∈ changes := by
  unfold trail
  cases history.trails.find? name <;> simp

theorem trail_clear (history : History) (cleared : Option String) (name : String) :
    (history.clear cleared).trail name =
      if LogLine.clears name (.cleared cleared) then [] else history.trail name := by
  cases cleared with
  | none => rfl
  | some other =>
    simp only [LogLine.clears, beq_iff_eq]
    split
    · rename_i same
      rw [same, clear, trail, Table.find?_erase_self, Option.getD_none]
    · rename_i different
      rw [clear, trail, Table.find?_erase_of_ne _ fun same => different same.symm, trail]

theorem length_flatten_eq (history : History) :
    history.size = history.trails.values.flatten.length := by
  have run (trails : List (List Change)) (n : Nat) :
      trails.foldl (fun size trail => size + trail.length) n = n + trails.flatten.length := by
    induction trails generalizing n with
    | nil => rfl
    | cons trail rest ih =>
      rw [List.foldl_cons, ih, List.flatten_cons, List.length_append, Nat.add_assoc]
  rw [size, run, Nat.zero_add]

/-- A history is what is left of a log when so many changes of every name are kept. -/
structure Mirrors (history : History) (cap : Nat) (log : Log) : Prop where
  limit : history.limit = cap
  last : history.last = log.changes.length
  ordered : history.trails.Ordered
  trail : ∀ name, history.trail name = (log.since name).take cap
  lasting : ∀ name changes, history.trails.find? name = some changes → changes ≠ []

theorem mirrors_empty (limit : Nat) (now : Instant) :
    (empty limit now).Mirrors (max limit 1) (Log.of []) where
  limit := rfl
  last := rfl
  ordered := Table.ordered_nil
  trail name := List.take_nil.symm
  lasting name changes found := by cases found

theorem Mirrors.record (mirrors : history.Mirrors cap log) (positive : 0 < cap) (name : String)
    (old new : Option String) (scope : Scope) (source : ChangeSource) (time : Instant) :
    ({ history with now := time }.record name old new scope source).Mirrors cap
      (log.write ⟨time, .record name old new scope source⟩) where
  limit := mirrors.limit
  last := congrArg (· + 1) mirrors.last
  ordered := Table.ordered_insert _ _ mirrors.ordered
  trail other := by
    have before : { history with now := time }.trail other = (log.since other).take cap :=
      mirrors.trail other
    rw [trail_record, before, Log.write, Log.since_recorded, mirrors.limit, mirrors.last]
    by_cases same : other = name
    · rw [if_pos same, if_pos same.symm]
      cases cap with
      | zero => rfl
      | succ cap => rw [List.take_succ_cons, List.take_succ_cons, List.take_take,
          Nat.min_eq_left (Nat.le_succ cap)]
    · rw [if_neg same, if_neg fun equal => same equal.symm]
  lasting other changes found := by
    by_cases same : other = name
    · subst same
      rw [History.record, Table.find?_insert_self] at found
      cases found
      rw [mirrors.limit]
      simpa using Nat.ne_of_gt positive
    · rw [History.record, Table.find?_insert_of_ne _ _ same] at found
      exact mirrors.lasting other changes found

theorem Mirrors.clear (mirrors : history.Mirrors cap log) (cleared : Option String)
    (time : Instant) :
    ({ history with now := time }.clear cleared).Mirrors cap
      (log.write ⟨time, .clear cleared⟩) where
  limit := by cases cleared <;> exact mirrors.limit
  last := by cases cleared <;> exact mirrors.last
  ordered := by
    cases cleared with
    | none => exact Table.ordered_nil
    | some name => exact Table.ordered_erase name mirrors.ordered
  trail name := by
    have before : { history with now := time }.trail name = (log.since name).take cap :=
      mirrors.trail name
    rw [trail_clear, before, Log.write, Log.since_cleared]
    split
    · exact List.take_nil.symm
    · rfl
  lasting name changes found := by
    cases cleared with
    | none => cases found
    | some other =>
      by_cases same : name = other
      · subst same
        rw [History.clear, Table.find?_erase_self] at found
        cases found
      · rw [History.clear, Table.find?_erase_of_ne _ same] at found
        exact mirrors.lasting name changes found

theorem Mirrors.step (mirrors : history.Mirrors cap log) (positive : 0 < cap)
    (event : HistoryEvent) : (history.step event).Mirrors cap (log.write event) := by
  obtain ⟨time, operation⟩ := event
  cases operation with
  | record name old new scope source => exact mirrors.record positive name old new scope source time
  | clear name => exact mirrors.clear name time

theorem mirrors_after (limit : Nat) (now : Instant) (events : List HistoryEvent) :
    ((empty limit now).after events).Mirrors (max limit 1) (Log.of events) := by
  induction events using List.reverseRecOn with
  | nil => exact mirrors_empty limit now
  | append_singleton events event ih =>
    rw [Log.of_concat, after, List.foldl_append]
    exact ih.step (Nat.lt_of_lt_of_le Nat.zero_lt_one (Nat.le_max_right limit 1)) event

theorem Mirrors.mem_everything_iff (mirrors : history.Mirrors cap log) (change : Change) :
    change ∈ history.everything ↔ change ∈ history.trail change.variable_ := by
  rw [mem_everything, mem_trail_iff]
  simp only [Table.mem_values_iff mirrors.ordered]
  constructor
  · rintro ⟨changes, ⟨name, found⟩, inside⟩
    have kept := (mem_trail_iff history name change).mpr ⟨changes, found, inside⟩
    rw [mirrors.trail] at kept
    rw [Log.variable_of_mem_since (List.mem_of_mem_take kept)]
    exact ⟨changes, found, inside⟩
  · rintro ⟨changes, found, inside⟩
    exact ⟨changes, ⟨_, found⟩, inside⟩

theorem Mirrors.trail_sublist (mirrors : history.Mirrors cap log) (name : String) :
    (history.trail name).Sublist log.changes := by
  rw [mirrors.trail]
  exact (List.take_sublist _ _).trans (log.since_sublist name)

theorem Mirrors.everything_subset (mirrors : history.Mirrors cap log) {change : Change}
    (member : change ∈ history.everything) : change ∈ log.changes :=
  (mirrors.trail_sublist _).subset ((mirrors.mem_everything_iff change).mp member)

/-- The trails together have no number twice: two trails are about different names. -/
theorem Mirrors.distinct_sequences (mirrors : history.Mirrors cap log)
    (sorted : NewestFirst log.changes) :
    history.trails.values.flatten.Pairwise fun one other => one.sequence ≠ other.sequence := by
  have inTrail {entry : String × List Change} (member : entry ∈ history.trails) {change : Change}
      (inside : change ∈ entry.2) : change ∈ history.trail entry.1 :=
    (mem_trail_iff _ _ _).mpr ⟨entry.2, (Table.find?_eq_some_iff mirrors.ordered).mpr member, inside⟩
  have named {entry : String × List Change} (member : entry ∈ history.trails) {change : Change}
      (inside : change ∈ entry.2) : change.variable_ = entry.1 := by
    have kept := inTrail member inside
    rw [mirrors.trail] at kept
    exact Log.variable_of_mem_since (List.mem_of_mem_take kept)
  have logged {entry : String × List Change} (member : entry ∈ history.trails) {change : Change}
      (inside : change ∈ entry.2) : change ∈ log.changes :=
    (mirrors.trail_sublist _).subset (inTrail member inside)
  refine List.pairwise_flatten.mpr ⟨fun changes present => ?_, ?_⟩
  · obtain ⟨name, found⟩ := (Table.mem_values_iff mirrors.ordered).mp present
    have own : history.trail name = changes := by rw [History.trail, found, Option.getD_some]
    rw [← own]
    exact (sorted.sublist (mirrors.trail_sublist name)).imp fun less => Nat.ne_of_gt less
  · refine List.pairwise_map.mpr (mirrors.ordered.imp_of_mem fun {first second} one two less => ?_)
    intro change inside other elsewhere same
    have equal := sorted.eq_of_sequence_eq (logged one inside) (logged two elsewhere) same
    rw [← named one inside, ← named two elsewhere, equal] at less
    exact String.lt_irrefl _ less

theorem Mirrors.newestFirst_everything (mirrors : history.Mirrors cap log)
    (sorted : NewestFirst log.changes) : NewestFirst history.everything := by
  have descending : history.everything.Pairwise fun a b => newerFirst a b = true := by
    refine List.pairwise_mergeSort (fun a b c => ?_) (fun a b => ?_) _
    · simp only [newerFirst, decide_eq_true_eq]
      exact fun first second => Nat.le_trans second first
    · simp only [newerFirst, Bool.or_eq_true, decide_eq_true_eq]
      exact Nat.le_total _ _
  have distinct : history.everything.Pairwise fun one other => one.sequence ≠ other.sequence :=
    ((List.mergeSort_perm _ _).pairwise_iff fun {a b} different => different.symm).mpr
      (mirrors.distinct_sequences sorted)
  refine (descending.and distinct).imp fun {newer older} both => ?_
  exact Nat.lt_of_le_of_ne (of_decide_eq_true both.1) both.2.symm

/-- What a history tells that keeps so many changes of every name in a log. -/
structure Tells (history : History) (cap : Nat) (log : Log) : Prop where
  /-- Of one name it gives the latest changes since the name was last cleared, -/
  named : ∀ name limit,
    history.entries (some name) limit = truncate ((log.since name).take cap) limit
  /-- of all names those that are left in the log, -/
  all : ∀ limit, history.entries none limit = truncate (log.retained cap) limit
  /-- in strictly decreasing order of their numbers, -/
  decreasing : NewestFirst (history.entries none none)
  /-- and among them those of a name are as they are for the name alone. -/
  restricted : ∀ name, (history.entries none none).filter (fun change => change.variable_ == name) =
    history.entries (some name) none
  /-- The size is the number of all of them, -/
  counted : history.size = (history.entries none none).length
  /-- and the tracked names are those that have one, in order. -/
  tracked : ∀ name, name ∈ history.tracked ↔ history.entries (some name) none ≠ []
  sorted : history.tracked.Pairwise (· < ·)

theorem Mirrors.tells (mirrors : history.Mirrors cap log) (sorted : NewestFirst log.changes) :
    history.Tells cap log := by
  have newest := mirrors.newestFirst_everything sorted
  have retained : history.everything = log.retained cap := by
    refine newest.ext (sorted.sublist List.filter_sublist) fun change => ?_
    rw [mirrors.mem_everything_iff, mirrors.trail, Log.retained, List.mem_filter,
      List.contains_iff_mem]
    refine ⟨fun kept => ⟨?_, kept⟩, fun kept => kept.2⟩
    exact (log.since_sublist _).subset (List.mem_of_mem_take kept)
  exact {
    named := fun name limit => by rw [entries, mirrors.trail]
    all := fun limit => by rw [entries, retained]
    decreasing := newest
    restricted := fun name => by
      refine NewestFirst.ext (newest.sublist List.filter_sublist)
        (sorted.sublist (mirrors.trail_sublist name)) fun change => ?_
      change change ∈ history.everything.filter _ ↔ change ∈ history.trail name
      rw [List.mem_filter, mirrors.mem_everything_iff, beq_iff_eq]
      constructor
      · rintro ⟨kept, rfl⟩
        exact kept
      · intro kept
        have own : change.variable_ = name := by
          rw [mirrors.trail] at kept
          exact Log.variable_of_mem_since (List.mem_of_mem_take kept)
        exact ⟨own ▸ kept, own⟩
    counted := by
      rw [length_flatten_eq]
      exact (List.length_mergeSort _).symm
    tracked := fun name => by
      rw [tracked, Table.mem_keys_iff mirrors.ordered]
      change _ ↔ history.trail name ≠ []
      unfold History.trail
      cases found : history.trails.find? name with
      | none => simp
      | some changes => simpa using mirrors.lasting name changes found
    sorted := Table.pairwise_keys mirrors.ordered }

/-- What is kept was kept before or has come with later lines. -/
theorem mem_since_append {later earlier : Log} {name : String} {change : Change}
    (kept : change ∈ (Log.since (later ++ earlier) name).take cap) :
    change ∈ later.changes ∨ change ∈ (earlier.since name).take cap := by
  rcases Log.since_append later earlier name with alone | both
  · rw [alone] at kept
    exact .inl ((later.since_sublist name).subset (List.mem_of_mem_take kept))
  · rw [both, List.take_append] at kept
    rcases List.mem_append.mp kept with new | old
    · exact .inl ((later.since_sublist name).subset (List.mem_of_mem_take new))
    · exact .inr ((List.take_subset_take_left _ (Nat.sub_le _ _)) old)

/-- A history is the rest of an append-only log, whatever is recorded and cleared and however many
changes are kept. The log numbers its changes in order, and a change that is not in the history yet
will have a higher number than all that are. -/
theorem tells_rest_of_log (limit : Nat) (now : Instant) (events : List HistoryEvent) :
    let start := empty limit now
    (start.after events).Tells (max limit 1) (Log.of events) ∧
      NewestFirst (Log.of events).changes ∧
      ∀ part rest, events = part ++ rest →
        ∀ old ∈ (start.after part).entries none none,
          ∀ new ∈ (start.after events).entries none none,
            new ∈ (start.after part).entries none none ∨ old.sequence < new.sequence := by
  intro start
  have mirrors := mirrors_after limit now
  have sorted := Log.newestFirst_changes events
  refine ⟨(mirrors events).tells sorted, sorted, ?_⟩
  rintro part rest rfl old before new present
  obtain ⟨lines, grown⟩ := Log.exists_of_append part rest
  have kept := (mirrors (part ++ rest)).mem_everything_iff new |>.mp present
  rw [(mirrors (part ++ rest)).trail, grown] at kept
  rcases mem_since_append kept with added | still
  · rw [grown, Log.changes_append] at sorted
    exact .inr ((List.pairwise_append.mp sorted).2.2 new added old
      ((mirrors part).everything_subset before))
  · rw [← (mirrors part).trail] at still
    exact .inl (((mirrors part).mem_everything_iff new).mpr still)

end ApiProbe.History
