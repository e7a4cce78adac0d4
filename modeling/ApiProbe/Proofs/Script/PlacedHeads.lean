import ApiProbe.Proofs.Script.Drafts

/-!
Heads of loops and closures read by place. A head is looked at from the front, and the places found
there become the ends of its parts: they are in order for every head, since the head is given up
where a part is missing.
-/
namespace ApiProbe.Script.Placed
open Lowering

section Loops

/-- The meaningful tokens of a list that starts at a place, with their places. -/
def entriesOf (part : List Token) (start : Nat) : List (Token × Nat) :=
  (part.zipIdx start).filter fun entry => entry.1.isMeaningful

def placesOf (part : List Token) (start : Nat) : List Nat := (entriesOf part start).map Prod.snd

/-- The places of the semicolons between two places. -/
def semicolons (tokens : List Token) (start stop : Nat) : List Nat :=
  (List.range' start (stop - start)).filter fun place => signAt? tokens place == some ";"

/-- The head of a loop that counts up by one, as a loop over a range. It stands between two places,
and `inner` are the places of its meaningful tokens behind any keyword of declaration. -/
def countingHead? (tokens : List Token) (start stop : Nat) (inner : List Nat) :
    Outcome (Option String) := do
  let some name := inner[0]?.bind (wordAt? tokens) | pure none
  let some assigns := inner[1]? | pure none
  if signAt? tokens assigns != some "=" then return none
  let some first := (semicolons tokens start stop)[0]? | pure none
  let some second := (semicolons tokens start stop)[1]? | pure none
  let condition := inner.filter fun place => first < place && place < second
  let some tested := condition[0]?.bind (wordAt? tokens) | pure none
  let some compares := condition[1]? | pure none
  let some range := tokens[compares]?.bind rangeSign? | pure none
  let step ← (inner.filter (second < ·)).mapM (fetch tokens)
  if tested == name && countsUp name step then
    let lowest := render (← slice tokens (assigns + 1) first)
    let highest := render (← slice tokens (compares + 1) second)
    pure (some s!"for {name} in ({lowest}){range}({highest})")
  else pure none

variable {tokens part after : List Token} {start : Nat}

theorem entriesOf_cons (token : Token) (rest : List Token) (start : Nat) :
    entriesOf (token :: rest) start
      = if token.isMeaningful then (token, start) :: entriesOf rest (start + 1)
        else entriesOf rest (start + 1) := by
  rw [entriesOf, List.zipIdx_cons, List.filter_cons]
  rfl

theorem entriesOf_append (part more : List Token) (start : Nat) :
    entriesOf (part ++ more) start = entriesOf part start ++ entriesOf more (start + part.length) := by
  rw [entriesOf, List.zipIdx_append, List.filter_append]
  rfl

theorem entriesOf_blank (blank : Blank part) (start : Nat) : entriesOf part start = [] := by
  refine List.filter_eq_nil_iff.mpr fun entry member => ?_
  simp [blank entry.1 (List.fst_mem_of_mem_zipIdx member)]

theorem entriesOf_ahead {found : Ahead} (is : ahead? part = some found) (start : Nat) :
    entriesOf part start = (found.token, start + found.passed) ::
      entriesOf found.rest (start + found.passed + 1) := by
  obtain ⟨passed, parts, long, blank, meant⟩ := ahead?_eq is
  rw [parts, entriesOf_append, entriesOf_blank blank, entriesOf_cons, if_pos meant, long]
  rfl

theorem placesOf_cons (token : Token) (rest : List Token) (start : Nat) :
    placesOf (token :: rest) start
      = if token.isMeaningful then start :: placesOf rest (start + 1) else placesOf rest (start + 1) := by
  rw [placesOf, entriesOf_cons]
  split <;> rfl

theorem placesOf_append (part more : List Token) (start : Nat) :
    placesOf (part ++ more) start = placesOf part start ++ placesOf more (start + part.length) := by
  rw [placesOf, entriesOf_append, List.map_append]
  rfl

theorem placesOf_ahead {found : Ahead} (is : ahead? part = some found) (start : Nat) :
    placesOf part start
      = (start + found.passed) :: placesOf found.rest (start + found.passed + 1) := by
  rw [placesOf, entriesOf_ahead is]
  rfl

theorem mem_placesOf {place : Nat} (member : place ∈ placesOf part start) :
    start ≤ place ∧ place < start + part.length := by
  obtain ⟨⟨token, _⟩, inside, rfl⟩ := List.mem_map.mp member
  obtain ⟨here, before, -⟩ := List.mem_zipIdx (List.mem_filter.mp inside).1
  exact ⟨here, by simpa [Nat.add_comm] using before⟩

/-- The tokens at the places are the meaningful ones. -/
theorem placesOf_getElem? (parts : tokens.drop start = part ++ after) (n : Nat) :
    (placesOf part start)[n]?.bind (fun place => tokens[place]?) = (meaningful part)[n]? := by
  induction part generalizing start n with
  | nil => rfl
  | cons token rest ih =>
    obtain ⟨here, behind⟩ := getElem?_of_drop parts
    rw [placesOf_cons, meaningful, List.filter_cons]
    split
    · cases n with
      | zero => exact here
      | succ n => exact ih behind n
    · exact ih behind n

theorem placesOf_fetch (parts : tokens.drop start = part ++ after) :
    (placesOf part start).mapM (fetch tokens) = .ok (meaningful part) := by
  induction part generalizing start with
  | nil => rfl
  | cons token rest ih =>
    obtain ⟨here, behind⟩ := getElem?_of_drop parts
    rw [placesOf_cons, meaningful, List.filter_cons]
    split
    · rw [List.mapM_cons, fetch_eq here, ih behind]
      rfl
    · exact ih behind

/-- The second place in a part is in front of what is left without the first two. -/
theorem slice_second {second : Token} (parts : tokens.drop start = part ++ after)
    (is : (meaningful part)[1]? = some second) :
    ∃ place, (placesOf part start)[1]? = some place ∧ tokens[place]? = some second ∧
      slice tokens (place + 1) (start + part.length) = .ok (dropMeaningful 2 part) := by
  cases one : ahead? part with
  | none =>
    rw [ahead?_none one] at is
    cases is
  | some first =>
    rw [meaningful_ahead one] at is
    obtain ⟨-, -, behind, long⟩ := next_in_part parts one
    cases two : ahead? first.rest with
    | none =>
      rw [ahead?_none two] at is
      cases is
    | some next =>
      rw [meaningful_ahead two] at is
      obtain rfl : next.token = second := Option.some.inj is
      obtain ⟨-, here, behind, long'⟩ := next_in_part behind two
      have dropped : dropMeaningful 2 part = next.rest := by
        rw [dropMeaningful, one]
        simp only [dropMeaningful, two]
      have stop : start + part.length
          = start + first.passed + 1 + next.passed + 1 + next.rest.length := by
        omega
      refine ⟨_, ?_, here, ?_⟩
      · rw [placesOf_ahead one, placesOf_ahead two]
        rfl
      · rw [dropped, stop]
        exact (slice_drop (List.getElem?_eq_some_iff.mp here).1 behind).1

theorem semicolons_cons {token : Token} {more : List Token}
    (parts : tokens.drop start = token :: more) (n : Nat) :
    semicolons tokens start (start + (n + 1))
      = if token.isSign ";" then start :: semicolons tokens (start + 1) (start + (n + 1))
        else semicolons tokens (start + 1) (start + (n + 1)) := by
  have left : start + (n + 1) - (start + 1) = n := by omega
  rw [semicolons, Nat.add_sub_cancel_left, List.range'_succ, List.filter_cons, signAt?,
    (getElem?_of_drop parts).1, Option.bind_some, sign?_beq, semicolons, left]

/-- Semicolons between two places are those of the part between them. -/
theorem semicolons_eq (parts : tokens.drop start = part ++ after) :
    semicolons tokens start (start + part.length) = match splitSemicolon? part with
      | none => []
      | some (before, _) => (start + before.length) ::
          semicolons tokens (start + before.length + 1) (start + part.length) := by
  induction part generalizing start with
  | nil => simp [semicolons, splitSemicolon?]
  | cons token rest ih =>
    rw [List.length_cons, semicolons_cons parts, splitSemicolon?]
    have more := ih (getElem?_of_drop parts).2
    rw [Nat.add_right_comm, Nat.add_assoc] at more
    split
    · rfl
    · rw [more]
      cases splitSemicolon? rest with
      | none => rfl
      | some found =>
        have place : start + 1 + found.1.length = start + (found.1.length + 1) := by omega
        simp only [Option.map_some, List.length_cons, place]

theorem placesOf_length (part : List Token) (start : Nat) :
    (placesOf part start).length = (meaningful part).length := by
  induction part generalizing start with
  | nil => rfl
  | cons token rest ih =>
    rw [placesOf_cons, meaningful, List.filter_cons]
    split
    · exact congrArg (· + 1) (ih _)
    · exact ih _

theorem placesOf_none {n : Nat} (is : (meaningful part)[n]? = none) (start : Nat) :
    (placesOf part start)[n]? = none := by
  rw [List.getElem?_eq_none_iff] at is ⊢
  rwa [placesOf_length]

theorem placesOf_word (parts : tokens.drop start = part ++ after) (n : Nat) :
    (placesOf part start)[n]?.bind (wordAt? tokens) = (meaningful part)[n]?.bind Token.word? := by
  rw [← placesOf_getElem? parts n, Option.bind_assoc]
  rfl

theorem first_word (parts : tokens.drop start = part ++ after) :
    (placesOf part start)[0]?.bind (wordAt? tokens)
      = (ahead? part).bind fun found => found.token.word? := by
  rw [placesOf_word parts]
  cases is : ahead? part with
  | none => rw [ahead?_none is]; rfl
  | some found => rw [meaningful_ahead is]; rfl

theorem countingHead?_few {stop : Nat} {inner : List Nat}
    (few : (semicolons tokens start stop)[1]? = none) :
    countingHead? tokens start stop inner = .ok none := by
  rw [countingHead?]
  split
  · split
    · simp only [few]
      split
      · rfl
      · split <;> rfl
    · rfl
  · rfl

/-- The three parts of a loop's head, which starts at a place. -/
structure HeadParts (tokens : List Token) (start : Nat) where
  initial : List Token
  condition : List Token
  step : List Token
  first : Token
  second : Token
  after : List Token
  whole : tokens.drop start = initial ++ first :: (condition ++ second :: (step ++ after))
  firstEnds : first.isSign ";" = true
  secondEnds : second.isSign ";" = true

namespace HeadParts
variable (parts : HeadParts tokens start)

def head : List Token :=
  parts.initial ++ parts.first :: (parts.condition ++ parts.second :: parts.step)

def firstPlace : Nat := start + parts.initial.length

def secondPlace : Nat := parts.firstPlace + 1 + parts.condition.length

theorem at_first : tokens[parts.firstPlace]? = some parts.first ∧
    tokens.drop (parts.firstPlace + 1)
      = parts.condition ++ parts.second :: (parts.step ++ parts.after) :=
  getElem?_of_drop (by rw [firstPlace, ← List.drop_drop, parts.whole, List.drop_left])

theorem behind_second : tokens.drop (parts.secondPlace + 1) = parts.step ++ parts.after := by
  rw [secondPlace, Nat.add_assoc, ← List.drop_drop, parts.at_first.2]
  exact drop_front ..

theorem placesOf_head : placesOf parts.head start
    = placesOf parts.initial start ++ parts.firstPlace ::
        (placesOf parts.condition (parts.firstPlace + 1) ++ parts.secondPlace ::
          placesOf parts.step (parts.secondPlace + 1)) := by
  have meant {token : Token} (sign : token.isSign ";" = true) : token.isMeaningful = true := by
    rw [Token.isMeaningful, Token.kind_of_isSign sign]
    rfl
  rw [head, placesOf_append, placesOf_cons, if_pos (meant parts.firstEnds), placesOf_append,
    placesOf_cons, if_pos (meant parts.secondEnds)]
  rfl

/-- The places between the semicolons are those of the condition. -/
theorem filter_condition :
    (placesOf parts.head start).filter (fun place => parts.firstPlace < place && place < parts.secondPlace)
      = placesOf parts.condition (parts.firstPlace + 1) := by
  have initial : (placesOf parts.initial start).filter
      (fun place => parts.firstPlace < place && place < parts.secondPlace) = [] := by
    refine List.filter_eq_nil_iff.mpr fun place member => ?_
    have before : place < parts.firstPlace := (mem_placesOf member).2
    simp
    omega
  have condition : (placesOf parts.condition (parts.firstPlace + 1)).filter
      (fun place => parts.firstPlace < place && place < parts.secondPlace)
        = placesOf parts.condition (parts.firstPlace + 1) := by
    refine List.filter_eq_self.mpr fun place member => ?_
    have bounds := mem_placesOf member
    have before : place < parts.secondPlace := bounds.2
    simp
    omega
  have step : (placesOf parts.step (parts.secondPlace + 1)).filter
      (fun place => parts.firstPlace < place && place < parts.secondPlace) = [] := by
    refine List.filter_eq_nil_iff.mpr fun place member => ?_
    have behind := (mem_placesOf member).1
    simp
    omega
  rw [placesOf_head, List.filter_append, List.filter_cons_of_neg (by simp), List.filter_append,
    List.filter_cons_of_neg (by simp), initial, condition, step, List.nil_append, List.append_nil]

/-- The places behind the second semicolon are those of the step. -/
theorem filter_step :
    (placesOf parts.head start).filter (parts.secondPlace < ·)
      = placesOf parts.step (parts.secondPlace + 1) := by
  have ordered : parts.firstPlace < parts.secondPlace := by
    rw [secondPlace]
    omega
  have initial : (placesOf parts.initial start).filter (parts.secondPlace < ·) = [] := by
    refine List.filter_eq_nil_iff.mpr fun place member => ?_
    have before : place < parts.firstPlace := (mem_placesOf member).2
    simp
    omega
  have condition :
      (placesOf parts.condition (parts.firstPlace + 1)).filter (parts.secondPlace < ·) = [] := by
    refine List.filter_eq_nil_iff.mpr fun place member => ?_
    have before : place < parts.secondPlace := (mem_placesOf member).2
    simp
    omega
  have step : (placesOf parts.step (parts.secondPlace + 1)).filter (parts.secondPlace < ·)
      = placesOf parts.step (parts.secondPlace + 1) := by
    refine List.filter_eq_self.mpr fun place member => ?_
    have behind := (mem_placesOf member).1
    simp
    omega
  rw [placesOf_head, List.filter_append, List.filter_cons_of_neg (by simp; omega), List.filter_append,
    List.filter_cons_of_neg (by simp), initial, condition, step, List.nil_append, List.nil_append]

/-- The name of the loop's variable is the first token of its first part. -/
theorem name_eq : (placesOf parts.head start)[0]?.bind (wordAt? tokens)
    = (ahead? parts.initial).bind fun found => found.token.word? := by
  rw [← first_word parts.whole, placesOf_head]
  cases placesOf parts.initial start with
  | cons place more => rfl
  | nil =>
    simp [wordAt?, parts.at_first.1, Token.word?, Token.kind_of_isSign parts.firstEnds]

/-- A first part of one token is followed by its semicolon. -/
theorem assigns_none {found : Ahead} (named : ahead? parts.initial = some found)
    (short : (meaningful parts.initial)[1]? = none) :
    (placesOf parts.head start)[1]? = some parts.firstPlace ∧
      signAt? tokens parts.firstPlace = some ";" := by
  have only := placesOf_none short start
  rw [placesOf_ahead named] at only
  constructor
  · rw [placesOf_head, placesOf_ahead named]
    cases more : placesOf found.rest (start + found.passed + 1) with
    | nil => rfl
    | cons place rest =>
      rw [more] at only
      cases only
  · simp [signAt?, parts.at_first.1, Token.sign?, Token.kind_of_isSign parts.firstEnds]

theorem assigns_some {place : Nat} (second : (placesOf parts.initial start)[1]? = some place) :
    (placesOf parts.head start)[1]? = some place := by
  rw [placesOf_head, List.getElem?_append_left (List.getElem?_eq_some_iff.mp second).1]
  exact second

/-- The bounds of the range are cut where the second tokens of their parts stand, whatever the parts
are: a part without a second token comes to no loop. -/
theorem countingHead?_eq {from_ stop : Nat} {more : List Nat}
    (marks : semicolons tokens from_ stop = parts.firstPlace :: parts.secondPlace :: more)
    (one : splitSemicolon? parts.head
      = some (parts.initial, parts.condition ++ parts.second :: parts.step))
    (two : splitSemicolon? (parts.condition ++ parts.second :: parts.step)
      = some (parts.condition, parts.step)) :
    countingHead? tokens from_ stop (placesOf parts.head start)
      = .ok (Lowering.countingHead? parts.head) := by
  have model : Lowering.countingHead? parts.head
      = ((ahead? parts.initial).bind fun found => found.token.word?).bind fun name =>
        ((meaningful parts.initial)[1]?.filter fun token => token.isSign "=").bind fun _ =>
        ((ahead? parts.condition).bind fun found => found.token.word?).bind fun tested =>
        ((meaningful parts.condition)[1]?.bind rangeSign?).bind fun range =>
        if tested == name && countsUp name (meaningful parts.step) then
          let first := render (dropMeaningful 2 parts.initial)
          let last := render (dropMeaningful 2 parts.condition)
          some s!"for {name} in ({first}){range}({last})"
        else none := by
    simp only [Lowering.countingHead?, one, two, Option.bind_eq_bind, Option.bind_some]
  rw [countingHead?, parts.name_eq, model]
  simp only [marks, List.getElem?_cons_zero, List.getElem?_cons_succ, parts.filter_condition,
    parts.filter_step, placesOf_fetch parts.behind_second, first_word parts.at_first.2]
  cases named : (ahead? parts.initial).bind fun found => found.token.word? with
  | none => rfl
  | some name =>
    obtain ⟨found, named, -⟩ := Option.bind_eq_some_iff.mp named
    dsimp only [Option.bind_some]
    cases assigned : (meaningful parts.initial)[1]? with
    | none =>
      obtain ⟨place, sign⟩ := parts.assigns_none named assigned
      simp only [place, sign]
      rfl
    | some sign =>
      obtain ⟨assigns, second, there, lowest⟩ := slice_second parts.whole assigned
      rw [parts.assigns_some second]
      simp only [signAt?, there, Option.bind_some, bne, sign?_beq, Option.filter_some]
      cases sign.isSign "=" with
      | false => rfl
      | true =>
        cases (ahead? parts.condition).bind fun found => found.token.word? with
        | none => rfl
        | some tested =>
          cases compared : (meaningful parts.condition)[1]? with
          | none =>
            rw [placesOf_none compared]
            rfl
          | some relation =>
            obtain ⟨compares, second, there, highest⟩ := slice_second parts.at_first.2 compared
            rw [← firstPlace] at lowest
            rw [← secondPlace] at highest
            rw [second]
            simp only [there, Option.bind_some]
            cases rangeSign? relation with
            | none => rfl
            | some range =>
              simp only [Bool.not_true, Bool.false_eq_true, ↓reduceIte, Option.bind_some, lowest,
                highest, bind, Except.bind]
              split <;> rfl

end HeadParts

theorem semicolons_behind {front : List Token} (parts : tokens.drop start = front ++ after)
    (free : ∀ token ∈ front, token.isSign ";" = false) (n : Nat) :
    semicolons tokens start (start + front.length + n)
      = semicolons tokens (start + front.length) (start + front.length + n) := by
  induction front generalizing start with
  | nil => rfl
  | cons token rest ih =>
    have more := ih (getElem?_of_drop parts).2 fun other member => free other (List.mem_cons_of_mem _ member)
    have whole : start + (token :: rest).length + n = start + (rest.length + n + 1) := by
      simp only [List.length_cons]
      omega
    rw [whole, semicolons_cons parts, if_neg (by simp [free token List.mem_cons_self])]
    have same : start + 1 + rest.length = start + (token :: rest).length := by
      simp only [List.length_cons]
      omega
    rw [same, whole] at more
    exact more

/-- Wherever its semicolons are, the head of a loop is read without a crash. -/
theorem countingHead?_eq {front head : List Token} (parts : tokens.drop start = front ++ (head ++ after))
    (free : ∀ token ∈ front, token.isSign ";" = false) :
    countingHead? tokens start (start + front.length + head.length)
      (placesOf head (start + front.length)) = .ok (Lowering.countingHead? head) := by
  have here : tokens.drop (start + front.length) = head ++ after := by
    rw [← List.drop_drop, parts, List.drop_left]
  have marks := (semicolons_behind parts free head.length).trans (semicolons_eq here)
  cases one : splitSemicolon? head with
  | none =>
    rw [one] at marks
    rw [countingHead?_few (by rw [marks]; rfl), Lowering.countingHead?, one]
    rfl
  | some found =>
    obtain ⟨initial, rest⟩ := found
    obtain ⟨first, whole, firstEnds⟩ := splitSemicolon?_eq one
    have behind : tokens.drop (start + front.length + initial.length + 1) = rest ++ after := by
      rw [Nat.add_assoc _ initial.length, ← List.drop_drop, here, whole]
      simp [List.drop_append]
    have stop : start + front.length + head.length
        = start + front.length + initial.length + 1 + rest.length := by
      rw [whole]
      simp
      omega
    simp only [one] at marks
    rw [stop, semicolons_eq behind] at marks
    rw [stop]
    cases two : splitSemicolon? rest with
    | none =>
      rw [two] at marks
      rw [countingHead?_few (by rw [marks]; rfl)]
      simp [Lowering.countingHead?, one, two]
    | some found =>
      obtain ⟨condition, step⟩ := found
      obtain ⟨second, whole', secondEnds⟩ := splitSemicolon?_eq two
      let headParts : HeadParts tokens (start + front.length) :=
        { initial, condition, step, first, second, after, firstEnds, secondEnds
          whole := by rw [here, whole, whole']; simp }
      have same : head = headParts.head := by rw [whole, whole']; rfl
      rw [two] at marks
      rw [same] at one ⊢
      exact headParts.countingHead?_eq marks (by rw [one, whole']) (by rw [← whole', two])

/-- Places behind the first few are those of what is left without the first few tokens. -/
theorem placesOf_drop (n : Nat) (part : List Token) (start : Nat) :
    (placesOf part start).drop n
      = placesOf (dropMeaningful n part) (start + (part.length - (dropMeaningful n part).length)) := by
  induction n generalizing part start with
  | zero => rw [dropMeaningful, Nat.sub_self]; rfl
  | succ n ih =>
    rw [dropMeaningful]
    cases is : ahead? part with
    | none =>
      have none_ : placesOf part start = [] :=
        List.eq_nil_of_length_eq_zero (by rw [placesOf_length, ahead?_none is]; rfl)
      rw [none_]
      rfl
    | some found =>
      obtain ⟨passed, whole, long, -⟩ := ahead?_eq is
      obtain ⟨front, rest, -⟩ := dropMeaningful_eq n found.rest
      have counted := congrArg List.length whole
      have counted' := congrArg List.length rest
      simp only [List.length_append, List.length_cons] at counted counted'
      have place : start + found.passed + 1
          + (found.rest.length - (dropMeaningful n found.rest).length)
            = start + (part.length - (dropMeaningful n found.rest).length) := by
        omega
      rw [placesOf_ahead is, List.drop_succ_cons, ih, place]

/-- The third place is the first one in what is left without two. -/
theorem placesOf_third {third : Token} (is : (meaningful part)[2]? = some third) (start : Nat) :
    (dropMeaningful 2 part).length ≤ part.length ∧
      (placesOf part start)[2]? = some (start + (part.length - (dropMeaningful 2 part).length)
        + ((ahead? (dropMeaningful 2 part)).map Ahead.passed).getD 0) := by
  obtain ⟨front, whole, kept⟩ := dropMeaningful_eq 2 part
  have counted := congrArg List.length whole
  rw [List.length_append] at counted
  refine ⟨by omega, ?_⟩
  have there : (placesOf part start)[2]? = ((placesOf part start).drop 2)[0]? := by simp
  rw [there, placesOf_drop]
  cases found : ahead? (dropMeaningful 2 part) with
  | none =>
    have short := congrArg (·[2]?) (congrArg meaningful whole)
    rw [meaningful_append, ahead?_none found, kept, is] at short
    simp at short
  | some next =>
    rw [placesOf_ahead found]
    rfl

/-- Whether a keyword of declaration stands first. -/
def declares (tokens : List Token) (inner : List Nat) : Bool :=
  (inner[0]?.bind (wordAt? tokens)).any ["let", "const", "var", "def"].contains

/-- No semicolon is among blanks and a word. -/
theorem no_semicolon {passed : List Token} {token : Token} {text : String} (blank : Blank passed)
    (word : token.word? = some text) : ∀ other ∈ passed ++ [token], other.isSign ";" = false := by
  intro other member
  refine Bool.eq_false_iff.mpr fun sign => ?_
  have kind := Token.kind_of_isSign sign
  rcases List.mem_append.mp member with idle | last
  · have meant := blank other idle
    rw [Token.isMeaningful, kind] at meant
    cases meant
  · rw [← List.mem_singleton.mp last, Token.word?, kind] at word
    cases word

/-- A keyword of declaration is passed over, or else nothing is. -/
theorem loopHead_ahead {found : Ahead} (is : ahead? part = some found) : loopHead part
    = if found.token.word?.any ["let", "const", "var", "def"].contains then found.rest else part := by
  have declaring : ((meaningful part).head?.map isDeclaring == some true)
      = found.token.word?.any ["let", "const", "var", "def"].contains := by
    rw [meaningful_ahead is, List.head?_cons, Option.map_some, isDeclaring]
    cases found.token.word? with
    | none => rfl
    | some word =>
      simp only [Option.map_some, Option.any_some]
      cases ["let", "const", "var", "def"].contains word <;> rfl
  have dropped : dropMeaningful 1 part = found.rest := by
    rw [dropMeaningful, is]
    rfl
  rw [loopHead, declaring, dropped]

/-- The head of a loop behind any keyword of declaration, and what is in front of it. -/
theorem loopHead_places (parts : tokens.drop start = part ++ after) :
    ∃ front, part = front ++ loopHead part ∧ (∀ token ∈ front, token.isSign ";" = false) ∧
      slice (placesOf part start) (if declares tokens (placesOf part start) then 1 else 0)
        (placesOf part start).length = .ok (placesOf (loopHead part) (start + front.length)) := by
  rw [declares, first_word parts]
  cases is : ahead? part with
  | none =>
    rw [loopHead, ahead?_none is]
    exact ⟨[], rfl, nofun, slice_tail (Nat.zero_le _)⟩
  | some found =>
    obtain ⟨passed, whole, long, blank, -⟩ := ahead?_eq is
    rw [Option.bind_some, loopHead_ahead is]
    cases declared : found.token.word?.any ["let", "const", "var", "def"].contains with
    | false => exact ⟨[], rfl, nofun, slice_tail (Nat.zero_le _)⟩
    | true =>
      obtain ⟨text, word, -⟩ := (Option.any_eq_true _ _).mp declared
      have places := placesOf_ahead is start
      have behind : start + found.passed + 1 = start + (passed ++ [found.token]).length := by
        rw [List.length_append, long]
        rfl
      refine ⟨passed ++ [found.token], ?_, no_semicolon blank word, ?_⟩
      · simpa using whole
      · simp only [↓reduceIte]
        rw [places, slice_tail (Nat.le_add_left ..), ← behind]
        rfl

end Loops

section Closures

/-- The parameters of a closure and the place behind its arrow, if it has one in front of its closing
brace. The places run on to the next meaningful token, in no more rounds than there are tokens. -/
def closureHead? (tokens : List Token) (close rounds : Nat) (names : List String)
    (place : Option Nat) : Outcome (Option (List String × Nat)) :=
  match place.filter (· < close) with
  | none => pure none
  | some here =>
    match rounds with
    | 0 => .error .hang
    | rounds + 1 =>
      if signAt? tokens here == some "->" then pure (some (names.reverse, here + 1))
      else
        match wordAt? tokens here with
        | none => pure none
        | some name =>
          match nextFrom? tokens (here + 1) with
          | none => pure none
          | some sign =>
            if signAt? tokens sign == some "," then
              closureHead? tokens close rounds (name :: names) (nextFrom? tokens (sign + 1))
            else if signAt? tokens sign == some "->" then
              closureHead? tokens close rounds (name :: names) (some sign)
            else pure none

/-- Whether tokens from a place on speak of the unnamed parameter. -/
def usesIt (tokens : List Token) (i : Nat) : Nat → Outcome Bool
  | 0 => pure false
  | count + 1 => do
    if wordAt? tokens i == some "it" && !(← lastIsSign tokens i [".", "?."]) then pure true
    else usesIt tokens (i + 1) count

/-- The names of a closure's parameters and the place behind them. -/
def closureParameters (tokens : List Token) (i close : Nat) : Outcome (String × Nat) := do
  match ← closureHead? tokens close tokens.length [] (nextFrom? tokens (i + 1)) with
  | some (names, behind) => pure (", ".intercalate names, behind)
  | none => pure (if ← usesIt tokens (i + 1) (close - (i + 1)) then "it" else "", i + 1)

variable {tokens part after : List Token} {closer : Token} {start : Nat}

/-- Behind blanks alone, the closing bracket is what is found. -/
theorem ahead?_closing (is : ahead? part = none) (closes : isClosing closer = true)
    (after : List Token) : ahead? (part ++ closer :: after) = some ⟨part.length, closer, after⟩ := by
  induction part with
  | nil =>
    have meant : closer.isMeaningful = true := by
      simp only [isClosing, Bool.or_eq_true] at closes
      rcases closes with (sign | sign) | sign <;>
        rw [Token.isMeaningful, Token.kind_of_isSign sign] <;> rfl
    rw [List.nil_append, ahead?, if_pos meant]
    rfl
  | cons token rest ih =>
    rw [ahead?] at is
    rw [List.cons_append, ahead?]
    split at is
    · cases is
    · rename_i blank
      rw [if_neg blank, ih (Option.map_eq_none_iff.mp is)]
      rfl

/-- A closing bracket goes on with no head. -/
theorem sign_of_isClosing (closes : isClosing closer = true) {text : String}
    (other : text ∉ brackets := by decide) : closer.isSign text = false := by
  refine Bool.eq_false_iff.mpr fun sign => ?_
  have clear := (clear_sign sign other).2.2
  rw [closes] at clear
  cases clear

theorem blank_of_ahead? (is : ahead? part = none) : Blank part := by
  intro token member
  have absent := List.filter_eq_nil_iff.mp (ahead?_none is) token member
  exact Bool.eq_false_iff.mpr absent

theorem closureHead?_stop (close rounds : Nat) (names : List String) {place : Option Nat}
    (stops : place.filter (· < close) = none) :
    closureHead? tokens close rounds names place = .ok none := by
  rw [closureHead?.eq_def, stops]
  rfl

/-- With blanks alone in the part, the bracket itself is next. -/
theorem next_closing (parts : tokens.drop start = part ++ closer :: after)
    (closes : isClosing closer = true) (is : ahead? part = none) :
    nextFrom? tokens start = some (start + part.length) ∧
      tokens[start + part.length]? = some closer := by
  have next := ahead?_closing is closes after
  refine ⟨?_, (ahead?_place parts next).1⟩
  rw [nextFrom?_eq, parts, next]
  rfl

/-- The head of a closure is read without a crash, in fewer rounds than there are tokens. -/
theorem closureHead?_eq {rounds base : Nat} (offset : Nat) {names : List String}
    (parts : tokens.drop start = part ++ closer :: after) (closes : isClosing closer = true)
    (enough : part.length ≤ rounds) (place : start = base + offset) :
    closureHead? tokens (start + part.length) rounds names (nextFrom? tokens start)
      = .ok ((Lowering.closureHead? names (entriesOf part offset)).map
          fun (names, taken) => (names, base + taken)) := by
  induction rounds generalizing part names start offset with
  | zero =>
    obtain rfl := List.eq_nil_of_length_eq_zero (Nat.le_zero.mp enough)
    rw [(next_closing parts closes rfl).1, closureHead?_stop _ _ _ (by simp)]
    simp [entriesOf, Lowering.closureHead?]
  | succ rounds ih =>
    cases one : ahead? part with
    | none =>
      rw [(next_closing parts closes one).1, closureHead?_stop _ _ _ (by simp),
        entriesOf_blank (blank_of_ahead? one)]
      simp [Lowering.closureHead?]
    | some found =>
      obtain ⟨next, here, behind, long⟩ := next_in_part parts one
      have inside : start + found.passed < start + part.length := by omega
      have close : start + part.length = start + found.passed + 1 + found.rest.length := by omega
      rw [next, entriesOf_ahead one, closureHead?, Lowering.closureHead?.eq_def]
      simp only [Option.filter_some, inside, decide_true, ↓reduceIte, signAt?, wordAt?, here,
        Option.bind_some, sign?_beq]
      by_cases arrow : found.token.isSign "->" = true
      · have behindArrow : start + found.passed + 1 = base + (offset + found.passed + 1) := by omega
        simp only [if_pos arrow, behindArrow]
        rfl
      simp only [if_neg arrow]
      cases found.token.word? with
      | none => rfl
      | some name =>
        cases two : ahead? found.rest with
        | none =>
          obtain ⟨next, here⟩ := next_closing behind closes two
          have noComma : closer.isSign "," = false := sign_of_isClosing closes
          have noArrow : closer.isSign "->" = false := sign_of_isClosing closes
          rw [next, entriesOf_blank (blank_of_ahead? two)]
          simp only [here, Option.bind_some, sign?_beq, noComma, noArrow]
          rfl
        | some sign =>
          obtain ⟨next, here, more, long'⟩ := next_in_part behind two
          simp only [next, entriesOf_ahead two, here, Option.bind_some, sign?_beq]
          by_cases comma : sign.token.isSign "," = true
          · have close : start + part.length
                = start + found.passed + 1 + sign.passed + 1 + sign.rest.length := by omega
            simp only [if_pos comma]
            rw [close, ih (offset + found.passed + 1 + sign.passed + 1) more (by omega) (by omega)]
          by_cases arrow : sign.token.isSign "->" = true
          · simp only [if_neg comma, if_pos arrow]
            rw [close, ← next, ih (offset + found.passed + 1) behind (by omega) (by omega),
              entriesOf_ahead two, Lowering.closureHead?.eq_def]
            simp only [if_pos arrow]
          · simp only [if_neg comma, if_neg arrow]
            rfl

theorem word?_beq (token : Token) (text : String) :
    (token.word? == some text) = token.isWord text := by
  obtain ⟨kind, line⟩ := token
  cases kind with
  | word own =>
    rw [Bool.eq_iff_iff]
    simp [Token.word?, Token.isWord]
  | _ => rfl

theorem usesIt_eq {before : List Token} {last : Token}
    (behind : before.find? Token.isMeaningful = some last) (part after : List Token) :
    usesIt (before.reverse ++ (part ++ after)) before.length part.length
      = .ok (Lowering.usesIt last part) := by
  induction part generalizing before last with
  | nil => rfl
  | cons token rest ih =>
    have whole : before.reverse ++ (token :: rest ++ after)
        = (token :: before).reverse ++ (rest ++ after) := by
      simp
    have next : (token :: before).find? Token.isMeaningful
        = some (if token.isMeaningful then token else last) := by
      rw [List.find?_cons, behind]
      split <;> simp_all
    have more := ih next
    have dots : (last.sign?.any [".", "?."].contains) = (last.isSign "." || last.isSign "?.") := by
      rw [← sign?_beq, ← sign?_beq]
      cases last.sign? with
      | none => rfl
      | some text =>
        rw [Bool.eq_iff_iff]
        simp
    rw [List.length_cons, usesIt, lastIsSign, lastToken?_eq, behind, wordAt?, List.cons_append,
      getElem?_behind, Option.bind_some, word?_beq, Lowering.usesIt]
    simp only [bind, Except.bind, pure, Except.pure, Option.bind_some, dots]
    split
    · rename_i uses
      rw [uses]
      rfl
    · rename_i other
      rw [Bool.eq_false_iff.mpr other, Bool.false_or, ← List.cons_append, whole]
      exact more

/-- The parameters of a closure are found without a crash. -/
theorem closureParameters_eq {tokens inner after : List Token} {i : Nat} {spot : Spot} {closer : Token}
    (stands : Stands tokens i spot) (meant : spot.token.isMeaningful = true)
    (parts : spot.rest = inner ++ closer :: after) (closes : isClosing closer = true) :
    closureParameters tokens i (i + 1 + inner.length)
      = .ok ((Lowering.closureParameters spot inner).1,
          i + 1 + (Lowering.closureParameters spot inner).2) := by
  have here := stands.ahead.trans parts
  have enough : inner.length ≤ tokens.length := by
    rw [stands.length, parts]
    simp
    omega
  have uses : usesIt tokens (i + 1) (i + 1 + inner.length - (i + 1))
      = .ok (Lowering.usesIt spot.token inner) := by
    have last : (spot.token :: spot.before).find? Token.isMeaningful = some spot.token := by
      rw [List.find?_cons, meant]
    have whole := usesIt_eq last inner (closer :: after)
    rw [Nat.add_sub_cancel_left, stands.whole, stands.place, parts]
    simpa using whole
  rw [closureParameters, closureHead?_eq 0 here closes enough rfl,
    Lowering.closureParameters, ← entriesOf]
  simp only [bind, Except.bind]
  cases Lowering.closureHead? [] (entriesOf inner 0) with
  | none =>
    simp only [Option.map_none, uses]
    rfl
  | some found => rfl

end Closures
end ApiProbe.Script.Placed
