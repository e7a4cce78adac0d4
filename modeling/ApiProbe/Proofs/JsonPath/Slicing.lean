import ApiProbe.Proofs.Attempt
import ApiProbe.Proofs.Decimal.Written
import ApiProbe.Proofs.JsonPath.Spelling
import ApiProbe.Proofs.Text.Cutting
import Mathlib.Order.Basic
import Mathlib.Tactic.Ring

/-!
The positions of a slice. A slice selects the places of the sequence `start`, `start + step`,
`start + 2 * step` and so on that lie before its stop, once both bounds are brought into the list; this
is the rule that Python has for its sequences.

The loop that looks for these places moves on behind the last one too, and that may lead beyond 64
bits. Where it does not, the loop finds exactly the places of the slice.
-/
namespace ApiProbe.JsonPath.Slice
variable {run : Slice} {length : Nat}

/-- The numbers from `first` on, `step` apart. -/
def walk (first step : Int) (count : Nat) : List Int :=
  (List.range count).map fun (n : Nat) => first + n * step

/-- How many numbers that lie `size` apart there are in a gap, if one is at its near end. -/
def rounds (gap size : Int) : Nat := ((gap + size - 1) / size).toNat

/-- The foremost place at which a run may start or stop. -/
def lowest (run : Slice) : Int := if 0 < run.step then 0 else -1

/-- The last place at which a run may start or stop. -/
def highest (run : Slice) (length : Nat) : Int := if 0 < run.step then length else length - 1

/-- A bound as a place: counted from the end if it is below zero, and then brought into the list. -/
def resolve (run : Slice) (length : Nat) (bound : Int) : Int :=
  if bound < 0 then max (length + bound) run.lowest else min bound (run.highest length)

/-- Where a run starts. -/
def first (run : Slice) (length : Nat) : Int :=
  (run.start.map (run.resolve length)).getD (if 0 < run.step then run.lowest else run.highest length)

/-- The place that a run stops in front of. -/
def limit (run : Slice) (length : Nat) : Int :=
  (run.stop.map (run.resolve length)).getD (if 0 < run.step then run.highest length else run.lowest)

/-- The places of a slice in a list of `length` items, in order. -/
def places (run : Slice) (length : Nat) : List Int :=
  let first := run.first length
  let limit := run.limit length
  walk first run.step
    (if 0 < run.step then rounds (limit - first) run.step else rounds (first - limit) (-run.step))

/-- What can be read as a slice: bounds and a step of 64 bits, the step not zero. -/
structure Fits (run : Slice) : Prop where
  start : ∀ bound ∈ run.start, Decimal.fits64 bound = true
  stop : ∀ bound ∈ run.stop, Decimal.fits64 bound = true
  step : Decimal.fits64 run.step = true
  moves : run.step ≠ 0

section Walk
variable {gap size place step stop : Int} {count : Nat}

theorem walk_succ (first step : Int) (count : Nat) :
    walk first step (count + 1) = first :: walk (first + step) step count := by
  rw [walk, List.range_succ_eq_map, List.map_cons, List.map_map, walk]
  congr 1
  · simp
  · apply List.map_congr_left
    intro n _
    simp only [Function.comp_apply, Nat.succ_eq_add_one, Nat.cast_add, Nat.cast_one]
    ring

theorem mem_walk {first : Int} : place ∈ walk first step count ↔ ∃ n < count, first + n * step = place := by
  simp [walk]

theorem rounds_of_nonpos (ahead : 0 < size) (none_ : gap ≤ 0) : rounds gap size = 0 := by
  apply Int.toNat_of_nonpos
  apply Int.lt_add_one_iff.mp
  apply Int.ediv_lt_of_lt_mul ahead
  omega

theorem rounds_of_pos (ahead : 0 < size) (some_ : 0 < gap) :
    rounds gap size = rounds (gap - size) size + 1 := by
  have further : (gap + size - 1) / size = (gap - size + size - 1) / size + 1 := by
    rw [← Int.add_mul_ediv_right _ 1 (ne_of_gt ahead)]
    congr 1
    ring
  have start : 0 ≤ (gap - size + size - 1) / size := Int.ediv_nonneg (by omega) (by omega)
  rw [rounds, rounds, further]
  omega

theorem lt_rounds_iff (ahead : 0 < size) {n : Nat} : n < rounds gap size ↔ n * size < gap := by
  rw [rounds, Int.lt_toNat, ← Int.add_one_le_iff, Int.le_ediv_iff_mul_le ahead, Int.add_mul]
  omega

/-- The loop finds the places up to its stop if it can move on behind each of them. -/
theorem upward_eq_walk (ahead : 0 < step) (fuel : Nat) (inside : 0 ≤ place)
    (enough : stop ≤ place + fuel) :
    upward stop step fuel place =
      if (walk place step (rounds (stop - place) step)).all fun place => Decimal.fits64 (place + step)
      then .ok ((walk place step (rounds (stop - place) step)).map Int.toNat)
      else .error .positionOverflow := by
  induction fuel generalizing place with
  | zero =>
    have none_ : rounds (stop - place) step = 0 := rounds_of_nonpos ahead (by omega)
    rw [none_]
    rfl
  | succ fuel ih =>
    rw [upward]
    by_cases before : place < stop
    · have further : rounds (stop - place) step = rounds (stop - (place + step)) step + 1 := by
        rw [rounds_of_pos ahead (by omega), Int.sub_sub]
      rw [if_pos before, further, walk_succ, List.all_cons, List.map_cons]
      by_cases fits : Decimal.fits64 (place + step) = true
      · rw [if_pos fits, ih (by omega) (by omega), fits, Bool.true_and]
        split <;> rfl
      · rw [if_neg fits, Bool.eq_false_iff.mpr fits, Bool.false_and]
        rfl
    · have none_ : rounds (stop - place) step = 0 := rounds_of_nonpos ahead (by omega)
      rw [if_neg before, none_]
      rfl

theorem downward_eq_walk (behind : step < 0) (fuel : Nat) (enough : place - stop ≤ fuel) :
    downward stop step fuel place =
      (walk place step (rounds (place - stop) (-step))).map Int.toNat := by
  induction fuel generalizing place with
  | zero =>
    have none_ : rounds (place - stop) (-step) = 0 := rounds_of_nonpos (by omega) (by omega)
    rw [none_]
    rfl
  | succ fuel ih =>
    rw [downward]
    by_cases before : stop < place
    · have further : rounds (place - stop) (-step) = rounds (place + step - stop) (-step) + 1 := by
        rw [rounds_of_pos (by omega) (by omega)]
        congr 2
        ring
      rw [if_pos before, further, walk_succ, List.map_cons, ih (by omega)]
    · have none_ : rounds (place - stop) (-step) = 0 := rounds_of_nonpos (by omega) (by omega)
      rw [if_neg before, none_]
      rfl

end Walk

/-- Both ends of an upward run lie in the list or right behind it. -/
theorem resolve_upward (ahead : 0 < run.step) (bound : Int) :
    0 ≤ run.resolve length bound ∧ run.resolve length bound ≤ length := by
  simp only [resolve, lowest, highest, if_pos ahead]
  split <;> omega

/-- Both ends of a downward run lie in the list or right in front of it. -/
theorem resolve_downward (behind : ¬0 < run.step) (bound : Int) :
    -1 ≤ run.resolve length bound ∧ run.resolve length bound < length := by
  simp only [resolve, lowest, highest, if_neg behind]
  split <;> omega

theorem ends_upward (ahead : 0 < run.step) : 0 ≤ run.first length ∧ run.limit length ≤ length := by
  constructor
  · unfold first
    cases run.start with
    | none => simp [lowest, ahead]
    | some bound => exact (resolve_upward ahead bound).1
  · unfold limit
    cases run.stop with
    | none => simp [highest, ahead]
    | some bound => exact (resolve_upward ahead bound).2

theorem ends_downward (behind : ¬0 < run.step) :
    run.first length < length ∧ -1 ≤ run.limit length := by
  constructor
  · unfold first
    cases run.start with
    | none => simp [highest, behind]
    | some bound => exact (resolve_downward behind bound).2
  · unfold limit
    cases run.stop with
    | none => simp [lowest, behind]
    | some bound => exact (resolve_downward behind bound).1

/-- All places lie in the list. -/
theorem places_inside (moves : run.step ≠ 0) {place : Int} (member : place ∈ run.places length) :
    0 ≤ place ∧ place < length := by
  simp only [places] at member
  split at member
  · rename_i ahead
    obtain ⟨n, within, rfl⟩ := mem_walk.mp member
    have gone := (lt_rounds_iff ahead).mp within
    have start : 0 ≤ (n : Int) * run.step := Int.mul_nonneg (Int.natCast_nonneg n) (by omega)
    have ends : 0 ≤ run.first length ∧ run.limit length ≤ length := ends_upward ahead
    omega
  · rename_i behind
    obtain ⟨n, within, rfl⟩ := mem_walk.mp member
    have gone := (lt_rounds_iff (by omega)).mp within
    have start : 0 ≤ (n : Int) * -run.step := Int.mul_nonneg (Int.natCast_nonneg n) (by omega)
    rw [Int.mul_neg] at gone start
    have ends : run.first length < length ∧ -1 ≤ run.limit length := ends_downward behind
    omega

/-- A slice that goes forwards is one run of the loop between its ends. -/
theorem positions_upward (ahead : 0 < run.step) :
    run.positions length = upward (run.limit length) run.step length (run.first length) := by
  have bounds : run.resolve length =
      fun n => if n < 0 then max (Int.ofNat length + n) 0 else min n (Int.ofNat length) := by
    funext bound
    simp only [resolve, lowest, highest, if_pos ahead]
    rfl
  simp only [positions, first, limit, bounds, lowest, highest, if_pos ahead]
  rfl

/-- What the loop finds, in either direction. -/
theorem positions_eq (fits : run.Fits) (countable : (length : Int) ≤ Decimal.int64Max) :
    run.positions length =
      if (run.places length).all fun place => Decimal.fits64 (place + run.step)
      then .ok ((run.places length).map Int.toNat) else .error .positionOverflow := by
  by_cases ahead : 0 < run.step
  · have ends : 0 ≤ run.first length ∧ run.limit length ≤ length := ends_upward ahead
    have loop : upward (run.limit length) run.step length (run.first length) = _ :=
      upward_eq_walk ahead length ends.1 (by omega)
    simp only [positions_upward ahead, loop, places, if_pos ahead]
  · have ends : run.first length < length ∧ -1 ≤ run.limit length := ends_downward ahead
    have behind : run.step < 0 := lt_of_le_of_ne (Int.not_lt.mp ahead) fits.moves
    have loop : downward (run.limit length) run.step length (run.first length) = _ :=
      downward_eq_walk behind length (by omega)
    have bounds : run.resolve length =
        fun n => if n < 0 then max (Int.ofNat length + n) (-1) else min n (Int.ofNat length - 1) := by
      funext bound
      simp only [resolve, lowest, highest, if_neg ahead]
      rfl
    have same : run.positions length =
        .ok (downward (run.limit length) run.step length (run.first length)) := by
      simp only [positions, first, limit, bounds, lowest, highest, if_neg ahead]
      rfl
    -- Downward no place can be left too far: the step is at least the lowest number of 64 bits.
    have moves : (run.places length).all (fun place => Decimal.fits64 (place + run.step)) = true := by
      rw [List.all_eq_true]
      intro place member
      have inside := places_inside fits.moves member
      have step := Decimal.fits64_iff.mp fits.step
      rw [Decimal.fits64_iff]
      omega
    rw [same, loop, if_pos moves]
    simp only [places, if_neg ahead]

/-- A place from which the loop cannot move on is the last one of an upward run. -/
theorem stuck_place (fits : run.Fits) (countable : (length : Int) ≤ Decimal.int64Max) {place : Int}
    (member : place ∈ run.places length) (stuck : Decimal.fits64 (place + run.step) = false) :
    0 < run.step ∧ (run.places length).getLast? = some place := by
  have inside := places_inside fits.moves member
  have step := Decimal.fits64_iff.mp fits.step
  have beyond : Decimal.int64Max < place + run.step := by
    by_contra within
    have : Decimal.fits64 (place + run.step) = true := Decimal.fits64_iff.mpr (by omega)
    simp [this] at stuck
  have ahead : 0 < run.step := by omega
  refine ⟨ahead, ?_⟩
  simp only [places, if_pos ahead] at member ⊢
  obtain ⟨n, within, rfl⟩ := mem_walk.mp member
  have last : rounds (run.limit length - run.first length) run.step = n + 1 := by
    by_contra more
    have next := (lt_rounds_iff ahead).mp
      (show n + 1 < rounds (run.limit length - run.first length) run.step by omega)
    have end_ : run.limit length ≤ length := (ends_upward ahead).2
    push_cast at next
    rw [Int.add_mul] at next
    omega
  rw [last, walk, List.getLast?_map, List.getLast?_range]
  simp

section Reading
variable {inner : List Char}

theorem readBound_fits {text : List Char} {bound : Option Int} (read : readBound text = .ok bound) :
    ∀ n ∈ bound, Decimal.fits64 n = true := by
  unfold readBound at read
  split at read
  · cases read
    simp
  · split at read
    · rename_i n number
      cases read
      rintro _ ⟨⟩
      exact Decimal.fits64_of_readInt64? number
    · cases read

/-- How the bounds of a slice stand in its text. -/
theorem readSlice_eq_ok_iff : readSlice inner = .ok run ↔
    let parts := (Text.parts ':' inner).map Text.trimChars
    parts.length ≤ 3 ∧ readBound ((parts[0]?).getD []) = .ok run.start ∧
      readBound ((parts[1]?).getD []) = .ok run.stop ∧
        ∃ step, readBound ((parts[2]?).getD []) = .ok step ∧ step.getD 1 = run.step ∧ run.step ≠ 0 := by
  unfold readSlice
  extract_lets parts
  constructor
  · intro accepted
    split at accepted
    · cases accepted
    rename_i short
    obtain ⟨start, first, accepted⟩ := Attempt.bind_eq_ok_iff.mp accepted
    obtain ⟨stop, second, accepted⟩ := Attempt.bind_eq_ok_iff.mp accepted
    obtain ⟨step, third, accepted⟩ := Attempt.bind_eq_ok_iff.mp accepted
    dsimp only at accepted
    split at accepted
    · cases accepted
    rename_i moves
    cases accepted
    exact ⟨Nat.not_lt.mp short, first, second, step, third, rfl, by simpa using moves⟩
  · rintro ⟨short, first, second, step, third, same, moves⟩
    rw [if_neg (Nat.not_lt.mpr short)]
    refine Attempt.bind_eq_ok_iff.mpr ⟨_, first, ?_⟩
    refine Attempt.bind_eq_ok_iff.mpr ⟨_, second, ?_⟩
    refine Attempt.bind_eq_ok_iff.mpr ⟨_, third, ?_⟩
    dsimp only
    rw [same, if_neg (by simpa using moves)]
    rfl

theorem readSlice_fits (accepted : readSlice inner = .ok run) : run.Fits := by
  obtain ⟨-, first, second, step, third, same, moves⟩ := readSlice_eq_ok_iff.mp accepted
  refine ⟨readBound_fits first, readBound_fits second, ?_, moves⟩
  rw [← same]
  cases step with
  | none => decide
  | some step => exact readBound_fits third step rfl

/-- A bound as it is written; a missing one is not. -/
def writtenBound (bound : Option Int) : List Char := (bound.map fun n => (toString n).toList).getD []

theorem readBound_written {bound : Option Int} (fits : ∀ n ∈ bound, Decimal.fits64 n = true) :
    readBound (writtenBound bound) = .ok bound := by
  cases bound with
  | none => rfl
  | some n =>
    have digits : (toString n).toList ≠ [] := (Decimal.toString_numeral n).1
    have some_ : (toString n).toList.isEmpty = false := by simpa using digits
    simp only [readBound, writtenBound, Option.map_some, Option.getD_some, some_,
      Decimal.readInt64?_toString (fits n rfl)]
    rfl

theorem numeral_writtenBound {bound : Option Int} :
    ∀ c ∈ writtenBound bound, Decimal.isNumeral c = true := by
  cases bound with
  | none => simp [writtenBound]
  | some n => exact (Decimal.toString_numeral n).2

/-- What can be read as a slice is all that fits into 64 bits and moves. -/
theorem exists_readSlice_iff : (∃ inner, readSlice inner = .ok run) ↔ run.Fits := by
  constructor
  · rintro ⟨inner, accepted⟩
    exact readSlice_fits accepted
  · intro fits
    let segments := [writtenBound run.start, writtenBound run.stop, writtenBound (some run.step)]
    have numeral : ∀ segment ∈ segments, ∀ c ∈ segment, Decimal.isNumeral c = true := by
      simp only [segments, List.forall_mem_cons]
      exact ⟨numeral_writtenBound, numeral_writtenBound, numeral_writtenBound, by simp⟩
    have parts : (Text.parts ':' ([':'].intercalate segments)).map Text.trimChars = segments := by
      rw [Text.parts_intercalate (List.cons_ne_nil _ _) fun segment member colon =>
        Decimal.ne_of_isNumeral (numeral segment member _ colon) ':' (by decide) rfl]
      refine (List.map_congr_left fun segment member => ?_).trans (List.map_id' _)
      exact Text.trimChars_of_visible fun c inside =>
        Decimal.visible_of_isNumeral (numeral segment member c inside)
    refine ⟨[':'].intercalate segments, readSlice_eq_ok_iff.mpr ?_⟩
    have step : readBound (writtenBound (some run.step)) = .ok (some run.step) := by
      apply readBound_written
      rintro _ ⟨⟩
      exact fits.step
    rw [parts]
    exact ⟨Nat.le_refl 3, readBound_written fits.start, readBound_written fits.stop, _, step, rfl,
      fits.moves⟩

end Reading

/-- A slice that can be read selects, in order, the places that its bounds and its step say, all of
them in the list, if the loop can move on behind each of them within 64 bits. It cannot behind the last
place of an upward slice if the step is too large; then it breaks off. Bounds that are counted from the
end never lead out of 64 bits. -/
theorem positions_eq_places_iff {inner : List Char} (accepted : readSlice inner = .ok run)
    (countable : (length : Int) ≤ Decimal.int64Max) :
    (∀ place ∈ run.places length, 0 ≤ place ∧ place < length) ∧
      (∀ bound, run.start = some bound ∨ run.stop = some bound → bound < 0 →
        Decimal.fits64 (length + bound) = true) ∧
      (run.positions length = .ok ((run.places length).map Int.toNat) ↔
        ∀ place ∈ run.places length, Decimal.fits64 (place + run.step) = true) ∧
      ∀ place ∈ run.places length, Decimal.fits64 (place + run.step) = false →
        0 < run.step ∧ (run.places length).getLast? = some place ∧
          run.positions length = .error .positionOverflow := by
  have fits := readSlice_fits accepted
  have loop : run.positions length = _ := positions_eq fits countable
  refine ⟨fun place member => places_inside fits.moves member, ?_, ?_, ?_⟩
  · intro bound given below
    have bounded : Decimal.fits64 bound = true := given.elim (fits.start bound) (fits.stop bound)
    rw [Decimal.fits64_iff] at bounded ⊢
    omega
  · rw [loop, ← List.all_eq_true]
    split
    · rename_i moves
      exact iff_of_true rfl moves
    · rename_i stuck
      refine iff_of_false ?_ stuck
      intro same
      cases same
  · intro place member stuck
    obtain ⟨ahead, last⟩ := stuck_place fits countable member stuck
    refine ⟨ahead, last, ?_⟩
    rw [loop, if_neg]
    intro moves
    simp [List.all_eq_true.mp moves place member] at stuck

/-- From the second of three items a step of the greatest size leads nowhere, but the loop takes it. -/
theorem positions_eq_places_iff_far :
    read "$[1::9223372036854775807]" = .ok [.child (.slice ⟨some 1, none, 9223372036854775807⟩)] ∧
      places ⟨some 1, none, 9223372036854775807⟩ 3 = [1] ∧
      positions ⟨some 1, none, 9223372036854775807⟩ 3 = .error .positionOverflow := by
  have accepted : readSlice "1::9223372036854775807".toList =
      .ok ⟨some 1, none, 9223372036854775807⟩ := by rfl
  have one : places ⟨some 1, none, 9223372036854775807⟩ 3 = [1] := by decide
  have far := (positions_eq_places_iff accepted (show ((3 : Nat) : Int) ≤ Decimal.int64Max by decide)).2.2.2
  refine ⟨by cbv, one, (far 1 ?_ (by decide)).2.2⟩
  rw [one]
  exact List.mem_singleton_self 1

end ApiProbe.JsonPath.Slice
