import ApiProbe.Variable.Generated
import ApiProbe.Proofs.Attempt

/-!
Which expressions have a generated value. An expression is honoured if it names a value and its
arguments fit; further arguments do not matter. An offset that fits but moves the time out of the
calendar has no answer at all. Every other expression is refused.
-/
namespace ApiProbe.Generated

/-- The milliseconds of an amount of a unit. -/
def offset? (amount unit : String) : Option Int :=
  (Decimal.readInt64? (amount.toList.dropWhile (· == '+'))).bind fun n =>
    (unitMillis? unit).map (n * ·)

/-- The time moved by so many milliseconds. -/
def moved (now : Instant) (millis : Int) : Instant := ⟨now.millis + millis⟩

/-- Arguments that move the time by an amount of a unit, within the calendar or out of it. -/
def Moves (within : Bool) (now : Instant) (args : List String) : Prop :=
  ∃ amount unit more millis, args = amount :: unit :: more ∧ offset? amount unit = some millis ∧
    (moved now millis).inCalendar = within

/-- Arguments that start with the bounds of a range. -/
def Bounds (args : List String) : Prop :=
  ∃ low high more least most, args = low :: high :: more ∧
    Decimal.readInt64? low.toList = some least ∧ Decimal.readInt64? high.toList = some most ∧
    least ≤ most

def dateFormats : List String := ["iso8601", "rfc1123"]

/-- A name of a generated value with arguments that fit it. -/
def Fits (now : Instant) (name : String) (args : List String) : Prop :=
  match name with
  | "guid" | "randomUUID" | "isoTimestamp" => True
  | "timestamp" => args = [] ∨ Moves true now args
  | "datetime" =>
    ∃ format offset, args = format :: offset ∧ format ∈ dateFormats ∧
      (offset = [] ∨ Moves true now offset)
  | "randomInt" => Bounds args
  | _ => False

/-- A name of a time with an offset that moves it out of the calendar. -/
def Leaves (now : Instant) (name : String) (args : List String) : Prop :=
  match name with
  | "timestamp" => Moves false now args
  | "datetime" => ∃ format offset, args = format :: offset ∧ Moves false now offset
  | _ => False

/-- An expression that has a value: its words are a name behind a dollar sign and arguments that fit. -/
def Honoured (now : Instant) (expression : String) : Prop :=
  ∃ name args, words expression = ("$" ++ name) :: args ∧ Fits now name args

/-- An expression whose offset moves the time out of the calendar. -/
def BeyondCalendar (now : Instant) (expression : String) : Prop :=
  ∃ name args, words expression = ("$" ++ name) :: args ∧ Leaves now name args

/-- What an answer is, according to what holds of the question. -/
inductive Answers {α : Type} (honoured beyond : Prop) : Except Trouble α → Prop
  | value (holds : honoured) (within : ¬beyond) (result : α) : Answers honoured beyond (.ok result)
  | refusal (fails : ¬honoured) (within : ¬beyond) (error : VariableError) :
    Answers honoured beyond (.error (.refused error))
  | none (fails : ¬honoured) (holds : beyond) : Answers honoured beyond (.error .outOfCalendar)

namespace Answers
variable {α β : Type} {honoured beyond honoured' beyond' : Prop} {answer : Except Trouble α}

theorem congr (answers : Answers honoured beyond answer) (same : honoured ↔ honoured')
    (same' : beyond ↔ beyond') : Answers honoured' beyond' answer := by
  rwa [← propext same, ← propext same']

theorem map (answers : Answers honoured beyond answer) (change : α → β) :
    Answers honoured beyond (answer.map change) := by
  cases answers with
  | value holds within result => exact .value holds within (change result)
  | refusal fails within error => exact .refusal fails within error
  | none fails holds => exact .none fails holds

end Answers

section Offsets
variable {now : Instant} {within : Bool} {amount unit : String} {more : List String}

theorem moves_cons_iff : Moves within now (amount :: unit :: more) ↔
    ∃ millis, offset? amount unit = some millis ∧ (moved now millis).inCalendar = within := by
  constructor
  · rintro ⟨_, _, _, millis, ⟨⟩, reads, holds⟩
    exact ⟨millis, reads, holds⟩
  · rintro ⟨millis, reads, holds⟩
    exact ⟨amount, unit, more, millis, rfl, reads, holds⟩

theorem not_moves_of_unread (unread : offset? amount unit = none) :
    ¬Moves within now (amount :: unit :: more) := by
  rw [moves_cons_iff, unread]
  rintro ⟨_, ⟨⟩, _⟩

theorem shifted_answers (now : Instant) (args : List String) :
    Answers (Moves true now args) (Moves false now args) (shifted now args) := by
  unfold shifted
  split
  · rename_i amount unit more
    split
    · rename_i none_
      have unread : offset? amount unit = none := by simp [offset?, none_]
      exact .refusal (not_moves_of_unread unread) (not_moves_of_unread unread) _
    · rename_i n found
      split
      · rename_i none_
        have unread : offset? amount unit = none := by simp [offset?, none_]
        exact .refusal (not_moves_of_unread unread) (not_moves_of_unread unread) _
      · rename_i millis known
        have reads : offset? amount unit = some (n * millis) := by simp [offset?, found, known]
        have iff (within : Bool) : Moves within now (amount :: unit :: more) ↔
            (moved now (n * millis)).inCalendar = within := by
          rw [moves_cons_iff, reads]
          simp
        have shift : now.shift? (n * millis) = if (moved now (n * millis)).inCalendar then
            some (moved now (n * millis)) else none := rfl
        refine Answers.congr ?_ (iff true).symm (iff false).symm
        rw [shift]
        cases (moved now (n * millis)).inCalendar with
        | true => exact .value rfl Bool.noConfusion _
        | false => exact .none Bool.noConfusion rfl
  · rename_i short
    have none_ (within : Bool) : ¬Moves within now args :=
      fun ⟨amount, unit, more, _, parts, _⟩ => short amount unit more parts
    exact .refusal (none_ true) (none_ false) _

/-- A time without an offset is the present one. -/
theorem shiftedIf_answers (now : Instant) (args : List String) :
    Answers (args = [] ∨ Moves true now args) (Moves false now args)
      (if args.isEmpty then .ok now else shifted now args) := by
  split
  · rename_i empty
    obtain rfl := List.isEmpty_iff.mp empty
    exact .value (.inl rfl) (fun ⟨_, _, _, _, parts, _⟩ => by cases parts) now
  · rename_i some_
    have offset : args ≠ [] := fun none_ => some_ (by rw [none_]; rfl)
    exact (shifted_answers now args).congr (by simp [offset]) Iff.rfl

end Offsets

section Values
variable {now : Instant} {args : List String}

theorem timestamp_answers (now : Instant) (args : List String) :
    Answers (Fits now "timestamp" args) (Leaves now "timestamp" args) (timestamp now args) := by
  have answers := (shiftedIf_answers now args).map fun at_ => toString at_.seconds
  unfold timestamp
  split
  · rename_i empty
    rwa [if_pos empty] at answers
  · rename_i some_
    rwa [if_neg some_] at answers

/-- A time in one of the known formats. -/
def dated (format : String) (at_ : Instant) : Except Trouble String :=
  match format with
  | "iso8601" => .ok at_.iso
  | "rfc1123" => .ok at_.headerForm
  | other => .error (.refused (.badSyntax (.formatUnknown other)))

theorem dated_answers (format : String) (at_ : Instant) :
    Answers (format ∈ dateFormats) False (dated format at_) := by
  unfold dated
  split
  · exact .value (by decide) id _
  · exact .value (by decide) id _
  · rename_i noIso noHeader
    refine .refusal (fun known => ?_) id _
    rcases List.mem_cons.mp known with iso | header
    · exact noIso iso
    · exact noHeader (List.mem_singleton.mp header)

theorem datetime_cons (now : Instant) (format : String) (offset : List String) :
    datetime now (format :: offset) =
      (if offset.isEmpty then .ok now else shifted now offset) >>= dated format := by
  by_cases empty : offset.isEmpty = true
  · simp only [datetime, if_pos empty]
    rfl
  · simp only [datetime, if_neg empty]
    rfl

/-- The offset of a date is read before its format is looked at. -/
theorem datetime_answers (now : Instant) (args : List String) :
    Answers (Fits now "datetime" args) (Leaves now "datetime" args) (datetime now args) := by
  cases args with
  | nil =>
    refine .refusal ?_ ?_ _
    · rintro ⟨_, _, ⟨⟩, _⟩
    · rintro ⟨_, _, ⟨⟩, _⟩
  | cons format offset =>
    have fits : (format ∈ dateFormats ∧ (offset = [] ∨ Moves true now offset)) ↔
        Fits now "datetime" (format :: offset) :=
      ⟨fun holds => ⟨format, offset, rfl, holds⟩, fun ⟨_, _, parts, holds⟩ => by cases parts; exact holds⟩
    have leaves : Moves false now offset ↔ Leaves now "datetime" (format :: offset) :=
      ⟨fun holds => ⟨format, offset, rfl, holds⟩, fun ⟨_, _, parts, holds⟩ => by cases parts; exact holds⟩
    refine Answers.congr ?_ fits leaves
    rw [datetime_cons]
    have time := shiftedIf_answers now offset
    generalize (if offset.isEmpty then Except.ok now else shifted now offset) = answer at time ⊢
    cases time with
    | value holds within at_ => exact (dated_answers format at_).congr (by simp [holds]) (by simp [within])
    | refusal fails within error => exact .refusal (fun both => fails both.2) within error
    | none fails holds => exact .none (fun both => fails both.2) holds

theorem bounds_refused {args : List String} {trouble : Trouble} (failed : bounds args = .error trouble) :
    ∃ arg error, arg ∈ args ∧ Decimal.readInt64? arg.toList = none ∧ trouble = .refused error := by
  induction args with
  | nil => cases failed
  | cons arg rest ih =>
    rw [bounds] at failed
    split at failed
    · rename_i unread
      cases failed
      exact ⟨arg, _, List.mem_cons_self, unread, rfl⟩
    · cases later : bounds rest with
      | ok more =>
        rw [later] at failed
        cases failed
      | error other =>
        rw [later] at failed
        cases failed
        obtain ⟨bad, error, member, unread, same⟩ := ih later
        exact ⟨bad, error, List.mem_cons_of_mem arg member, unread, same⟩

theorem bounds_read {args : List String} {found : List Int} (done : bounds args = .ok found) :
    args.map (fun arg => Decimal.readInt64? arg.toList) = found.map some := by
  induction args generalizing found with
  | nil =>
    cases done
    rfl
  | cons arg rest ih =>
    rw [bounds] at done
    split at done
    · cases done
    · rename_i n reads
      obtain ⟨more, later, same⟩ := Attempt.map_eq_ok_iff.mp done
      subst same
      rw [List.map_cons, List.map_cons, ih later, reads]

/-- A number between two bounds. -/
def drawn (supply : Supply) : List Int → Except Trouble (String × Supply)
  | [low, high] =>
    if low ≤ high then .ok (toString (supply.between low high).1, (supply.between low high).2)
    else .error (.refused (.badSyntax (.boundsReversed low high)))
  | _ => .error (.refused (.badSyntax .boundsMissing))

theorem randomInt_eq (supply : Supply) (args : List String) :
    randomInt supply args = bounds (args.take 2) >>= drawn supply := by
  unfold randomInt
  congr 1

theorem drawn_answers (supply : Supply) (found : List Int) :
    Answers (∃ least most, found = [least, most] ∧ least ≤ most) False (drawn supply found) := by
  unfold drawn
  split
  · rename_i least most
    split
    · rename_i ordered
      exact .value ⟨least, most, rfl, ordered⟩ id _
    · rename_i reversed
      refine .refusal ?_ id _
      rintro ⟨_, _, ⟨⟩, ordered⟩
      exact reversed ordered
  · rename_i short
    refine .refusal ?_ id _
    rintro ⟨least, most, rfl, -⟩
    exact short least most rfl

/-- Bounds are what the first two arguments say. -/
theorem bounds_iff {args : List String} {found : List Int} (read : bounds (args.take 2) = .ok found) :
    Bounds args ↔ ∃ least most, found = [least, most] ∧ least ≤ most := by
  have same := bounds_read read
  constructor
  · rintro ⟨low, high, more, least, most, rfl, first, second, ordered⟩
    refine ⟨least, most, ?_, ordered⟩
    have values : found.map some = [some least, some most] := by
      rw [← same]
      simp [first, second]
    exact (List.map_inj_right fun _ _ => Option.some.inj).mp values
  · rintro ⟨least, most, rfl, ordered⟩
    match args, same with
    | low :: high :: more, same =>
      simp only [List.take_succ_cons, List.take_zero, List.map_cons, List.map_nil, List.cons.injEq,
        and_true] at same
      exact ⟨low, high, more, least, most, rfl, same.1, same.2, ordered⟩
    | [low], same => simp at same
    | [], same => simp at same

theorem randomInt_answers (supply : Supply) (args : List String) :
    Answers (Bounds args) False (randomInt supply args) := by
  rw [randomInt_eq]
  cases read : bounds (args.take 2) with
  | error trouble =>
    obtain ⟨bad, error, member, unread, rfl⟩ := bounds_refused read
    refine .refusal ?_ id error
    rintro ⟨low, high, more, least, most, rfl, first, second, -⟩
    have either : bad = low ∨ bad = high := by simpa using member
    rcases either with rfl | rfl
    · cases unread.symm.trans first
    · cases unread.symm.trans second
  | ok found => exact (drawn_answers supply found).congr (bounds_iff read).symm Iff.rfl

theorem value_answers (supply : Supply) (name : String) (args : List String) :
    Answers (Fits supply.now name args) (Leaves supply.now name args) (value supply name args) := by
  unfold value
  split
  · exact .value trivial id _
  · exact .value trivial id _
  · exact (timestamp_answers supply.now args).map _
  · exact .value trivial id _
  · exact (datetime_answers supply.now args).map _
  · exact randomInt_answers supply args
  · rename_i guid uuid timestamp iso datetime random
    refine .refusal (fun fits => ?_) (fun leaves => ?_) _
    · unfold Fits at fits
      split at fits <;> simp_all
    · unfold Leaves at leaves
      split at leaves <;> simp_all

end Values

theorem ofList_dollar (name : List Char) :
    String.ofList ('$' :: name) = "$" ++ String.ofList name := by
  apply String.ext
  simp

theorem not_fits_empty (now : Instant) (args : List String) : ¬Fits now "" args := id

theorem not_leaves_empty (now : Instant) (args : List String) : ¬Leaves now "" args := id

/-- Every expression is honoured, refused or without an answer, and which of these it is lies in its
words and the time alone. -/
theorem evaluate_answers (supply : Supply) (expression : String) :
    Answers (Honoured supply.now expression) (BeyondCalendar supply.now expression)
      (evaluate supply expression) := by
  unfold evaluate
  simp only
  cases read : words expression with
  | nil =>
    refine .refusal ?_ ?_ _ <;>
      · rintro ⟨name, args, parts, -⟩
        cases read.symm.trans parts
  | cons head args =>
    have only {property : String → List String → Prop} {name : String} (same : head = "$" ++ name) :
        (∃ name args, words expression = ("$" ++ name) :: args ∧ property name args) ↔
          property name args := by
      constructor
      · rintro ⟨other, more, parts, holds⟩
        obtain ⟨heads, rfl⟩ := List.cons.inj (read.symm.trans parts)
        have equal : other = name := by
          have chars := congrArg String.toList (heads.symm.trans same)
          exact String.ext (by simpa using chars)
        exact equal ▸ holds
      · exact fun holds => ⟨name, args, same ▸ read, holds⟩
    have whole : head = String.ofList head.toList := String.ofList_toList.symm
    simp only
    split
    · rename_i name parts
      have same : head = "$" ++ String.ofList name := by rw [whole, parts, ofList_dollar]
      refine Answers.congr ?_ (only same).symm (only same).symm
      split
      · rename_i empty
        obtain rfl := List.isEmpty_iff.mp empty
        exact .refusal (not_fits_empty supply.now args) (not_leaves_empty supply.now args) _
      · exact value_answers supply (String.ofList name) args
    · rename_i plain
      refine .refusal ?_ ?_ _ <;>
        · rintro ⟨name, more, parts, -⟩
          obtain ⟨heads, -⟩ := List.cons.inj (read.symm.trans parts)
          exact plain name.toList (by simp [heads])

section Time
variable {supply rest : Supply} {text : String}

theorem draw_now (supply : Supply) : supply.draw.2.now = supply.now := by
  obtain ⟨now, seed⟩ := supply
  rfl

theorem uuid_now (supply : Supply) : supply.uuid.2.now = supply.now := by
  have first := draw_now supply
  unfold Supply.uuid
  generalize supply.draw = drawn at first ⊢
  obtain ⟨high, afterHigh⟩ := drawn
  have second := draw_now afterHigh
  simp only at first second ⊢
  generalize afterHigh.draw = drawn at second ⊢
  exact second.trans first

theorem between_now (supply : Supply) (low high : Int) :
    (supply.between low high).2.now = supply.now := by
  have first := draw_now supply
  unfold Supply.between
  generalize supply.draw = drawn at first ⊢
  obtain ⟨a, afterFirst⟩ := drawn
  have second := draw_now afterFirst
  simp only at first second ⊢
  generalize afterFirst.draw = drawn at second ⊢
  exact second.trans first

theorem value_now {name : String} {args : List String}
    (done : value supply name args = .ok (text, rest)) : rest.now = supply.now := by
  unfold value at done
  split at done
  · have same : supply.uuid.2 = rest := congrArg Prod.snd (Except.ok.inj done)
    rw [← same, uuid_now]
  · have same : supply.uuid.2 = rest := congrArg Prod.snd (Except.ok.inj done)
    rw [← same, uuid_now]
  · obtain ⟨_, -, same⟩ := Attempt.map_eq_ok_iff.mp done
    cases same
    rfl
  · cases done
    rfl
  · obtain ⟨_, -, same⟩ := Attempt.map_eq_ok_iff.mp done
    cases same
    rfl
  · rw [randomInt_eq] at done
    obtain ⟨found, -, drawn_⟩ := Attempt.bind_eq_ok_iff.mp done
    unfold drawn at drawn_
    split at drawn_
    · split at drawn_
      · rename_i low high _
        have same : (supply.between low high).2 = rest := congrArg Prod.snd (Except.ok.inj drawn_)
        rw [← same, between_now]
      · cases drawn_
    · cases drawn_
  · cases done

/-- Values are generated without the time going on. -/
theorem evaluate_now {expression : String}
    (done : evaluate supply expression = .ok (text, rest)) : rest.now = supply.now := by
  unfold evaluate at done
  simp only at done
  split at done
  · cases done
  · split at done
    · split at done
      · cases done
      · exact value_now done
    · cases done

end Time
end ApiProbe.Generated
