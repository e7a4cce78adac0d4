import ApiProbe.Proofs.Script.Lookahead

/-!
Scripts read by place. A text and its tokens are numbered from the front, and a part of them lies
between two places. To read behind the end, or to cut a part whose ends are out of order or out of
bounds, is a crash; to go round a loop more often than there is something left to take is a hang. What
stands ahead of a place and behind it is what the lowering finds in the lists of tokens there.
-/
namespace ApiProbe.Script.Lowering

section Parts
variable {tokens inner after : List Token} {found : Ahead} {last : Token} {text : String}

theorem ahead?_length (is : ahead? tokens = some found) :
    tokens.length = found.passed + 1 + found.rest.length := by
  obtain ⟨passed, parts, long, -⟩ := ahead?_eq is
  rw [parts, ← long, List.length_append, List.length_cons]
  omega

theorem aheadSign?_length (is : aheadSign? tokens text = some found) :
    tokens.length = found.passed + 1 + found.rest.length :=
  ahead?_length (Option.filter_eq_some_iff.mp is).1

theorem splitClosing?_length (is : splitClosing? 1 tokens = some (inner, last, after)) :
    tokens.length = inner.length + 1 + after.length := by
  rw [(splitClosing?_eq is).1, List.length_append, List.length_cons]
  omega

/-- What follows a list is not looked at when something is found in it. -/
theorem ahead?_append (is : ahead? tokens = some found) (more : List Token) :
    ahead? (tokens ++ more) = some { found with rest := found.rest ++ more } := by
  induction tokens generalizing found with
  | nil => cases is
  | cons token rest ih =>
    rw [ahead?] at is
    rw [List.cons_append, ahead?]
    split at is
    · rename_i meant
      cases is
      rw [if_pos meant]
    · rename_i blank
      obtain ⟨inner, inside, rfl⟩ := Option.map_eq_some_iff.mp is
      rw [if_neg blank, ih inside]
      rfl

end Parts

end ApiProbe.Script.Lowering

namespace ApiProbe.Script.Placed
open Lowering

/-- Why nothing comes of a script. Only a fault is told to its author. -/
inductive Halt
  | crash
  | hang
  | fault (error : SyntaxError)
  deriving Repr, DecidableEq

abbrev Outcome := Except Halt

/-- What comes of a script if nothing goes wrong but the script itself. -/
def settled {α : Type} (result : Except SyntaxError α) : Outcome α := result.mapError .fault

section Parts
variable {α : Type}

def fetch (list : List α) (i : Nat) : Outcome α :=
  match list[i]? with
  | some item => .ok item
  | none => .error .crash

/-- What stands from one place up to another. -/
def slice (list : List α) (start stop : Nat) : Outcome (List α) :=
  if start ≤ stop ∧ stop ≤ list.length then .ok ((list.take stop).drop start) else .error .crash

theorem fetch_eq {list : List α} {i : Nat} {item : α} (there : list[i]? = some item) :
    fetch list i = .ok item := by
  rw [fetch, there]

theorem slice_eq {list part : List α} {start stop : Nat} (front back : List α)
    (parts : list = front ++ (part ++ back)) (starts : start = front.length)
    (stops : stop = front.length + part.length) : slice list start stop = .ok part := by
  subst parts starts stops
  rw [slice, if_pos (by simp only [List.length_append]; omega), ← List.append_assoc,
    ← List.length_append, List.take_left, List.drop_left]

/-- A part that begins what follows a place. -/
theorem slice_drop {list part back : List α} {start : Nat} (inside : start ≤ list.length)
    (parts : list.drop start = part ++ back) :
    slice list start (start + part.length) = .ok part ∧
      list.drop (start + part.length) = back := by
  have long : (list.take start).length = start := by
    rw [List.length_take, Nat.min_eq_left inside]
  constructor
  · refine slice_eq (list.take start) back ?_ long.symm (by rw [long])
    rw [← parts, List.take_append_drop]
  · rw [← List.drop_drop, parts, List.drop_left]

theorem slice_tail {list : List α} {start : Nat} (inside : start ≤ list.length) :
    slice list start list.length = .ok (list.drop start) := by
  have whole := (slice_drop inside (List.append_nil (list.drop start)).symm).1
  rwa [List.length_drop, Nat.add_sub_cancel' inside] at whole

theorem drop_front (front : List α) (item : α) (rest : List α) :
    (front ++ item :: rest).drop (front.length + 1) = rest := by
  rw [← List.drop_drop, List.drop_left]
  rfl

/-- The end of a part that goes on in front. -/
theorem map_front {β : Type} (i : Nat) (front : List α) (found : Option (List α × β)) :
    (found.map fun (part, after) => (front ++ part, after)).map (fun found => i + found.1.length)
      = found.map fun found => i + front.length + found.1.length := by
  rw [Option.map_map]
  congr 1
  funext found
  simp only [Function.comp, List.length_append]
  omega

end Parts

def signAt? (tokens : List Token) (i : Nat) : Option String := tokens[i]?.bind Token.sign?

def wordAt? (tokens : List Token) (i : Nat) : Option String := tokens[i]?.bind Token.word?

def lineAt (tokens : List Token) (i : Nat) : Nat := (tokens[i]?.map Token.line).getD 0

theorem sign?_beq (token : Token) (text : String) :
    (token.sign? == some text) = token.isSign text := by
  obtain ⟨kind, line⟩ := token
  cases kind with
  | sign own =>
    rw [Bool.eq_iff_iff]
    simp [Token.sign?, Token.isSign]
  | _ => rfl

section Ahead

/-- The place of the first meaningful token from a place on. -/
def nextFrom? (tokens : List Token) (i : Nat) : Option Nat :=
  if inside : i < tokens.length then
    if tokens[i].isMeaningful then some i else nextFrom? tokens (i + 1)
  else none
termination_by tokens.length - i

/-- The place of the first meaningful token from a place on, if it is that sign. -/
def nextSign? (tokens : List Token) (i : Nat) (text : String) : Option Nat :=
  (nextFrom? tokens i).filter fun place => signAt? tokens place == some text

/-- The place of the first meaningful token from a place on, if no line ends before it. -/
def nextOnLine? (tokens : List Token) (i : Nat) : Option Nat :=
  if inside : i < tokens.length then
    if tokens[i].kind == .newline then none
    else if tokens[i].isMeaningful then some i
    else nextOnLine? tokens (i + 1)
  else none
termination_by tokens.length - i

/-- The place of the bracket that closes `depth` open ones. -/
def closingFrom? (tokens : List Token) (depth i : Nat) : Option Nat :=
  if inside : i < tokens.length then
    if isOpening tokens[i] then closingFrom? tokens (depth + 1) (i + 1)
    else if isClosing tokens[i] then
      if depth ≤ 1 then some i else closingFrom? tokens (depth - 1) (i + 1)
    else closingFrom? tokens depth (i + 1)
  else none
termination_by tokens.length - i

/-- The place of the bracket that closes the one at a place. -/
def closing (tokens : List Token) (i : Nat) : Outcome Nat :=
  match closingFrom? tokens 0 i with
  | some close => .ok close
  | none => .error (.fault ⟨.unclosed, lineAt tokens i⟩)

variable {tokens : List Token} {i : Nat}

theorem nextFrom?_eq (tokens : List Token) (i : Nat) :
    nextFrom? tokens i = (ahead? (tokens.drop i)).map (i + ·.passed) := by
  fun_induction nextFrom? tokens i with
  | case1 i inside meant =>
    rw [List.drop_eq_getElem_cons inside, ahead?, if_pos meant]
    rfl
  | case2 i inside blank ih =>
    rw [List.drop_eq_getElem_cons inside, ahead?, if_neg blank, ih, Option.map_map]
    congr 1
    funext found
    simp only [Function.comp]
    omega
  | case3 i outside =>
    rw [List.drop_eq_nil_of_le (by omega)]
    rfl

/-- Where a meaningful token stands that is found from a place on, and what follows it there. -/
theorem ahead?_place {found : Ahead} {rest : List Token} (from_ : tokens.drop i = rest)
    (is : ahead? rest = some found) :
    tokens[i + found.passed]? = some found.token ∧
      tokens.drop (i + found.passed + 1) = found.rest := by
  subst from_
  obtain ⟨passed, parts, long, -⟩ := ahead?_eq is
  constructor
  · rw [← List.getElem?_drop, parts, ← long, List.getElem?_append_right (Nat.le_refl _),
      Nat.sub_self]
    rfl
  · rw [Nat.add_assoc, ← List.drop_drop, parts, ← long]
    simp

theorem nextSign?_eq (tokens : List Token) (i : Nat) (text : String) :
    nextSign? tokens i text = (aheadSign? (tokens.drop i) text).map (i + ·.passed) := by
  rw [nextSign?, nextFrom?_eq, aheadSign?]
  cases is : ahead? (tokens.drop i) with
  | none => rfl
  | some found =>
    rw [Option.map_some, Option.filter_some, Option.filter_some, signAt?, (ahead?_place rfl is).1,
      Option.bind_some, sign?_beq]
    split <;> rfl

theorem aheadSign?_place {found : Ahead} {rest : List Token} {text : String}
    (from_ : tokens.drop i = rest) (is : aheadSign? rest text = some found) :
    tokens[i + found.passed]? = some found.token ∧
      tokens.drop (i + found.passed + 1) = found.rest :=
  ahead?_place from_ (Option.filter_eq_some_iff.mp is).1

theorem nextOnLine?_eq (tokens : List Token) (i : Nat) :
    nextOnLine? tokens i = (aheadOnLine? (tokens.drop i)).map (i + ·.passed) := by
  fun_induction nextOnLine? tokens i with
  | case1 i inside ends =>
    have blank : tokens[i].isMeaningful ≠ true := by
      rw [Token.isMeaningful, beq_iff_eq.mp ends]
      exact Bool.false_ne_true
    rw [List.drop_eq_getElem_cons inside, aheadOnLine?, ahead?, if_neg blank]
    cases ahead? (tokens.drop (i + 1)) with
    | none => rfl
    | some found =>
      rw [Option.map_some, Option.filter_some, List.take_succ_cons, List.any_cons, ends]
      rfl
  | case2 i inside _ meant =>
    rw [List.drop_eq_getElem_cons inside, aheadOnLine?, ahead?, if_pos meant]
    rfl
  | case3 i inside stays blank ih =>
    rw [List.drop_eq_getElem_cons inside, aheadOnLine?, ahead?, if_neg blank, ih, aheadOnLine?]
    cases ahead? (tokens.drop (i + 1)) with
    | none => rfl
    | some found =>
      simp only [Option.map_some, Option.filter_some, List.take_succ_cons, List.any_cons,
        Bool.eq_false_iff.mpr stays, Bool.false_or]
      split
      · simp only [Option.map_some, Option.some.injEq]
        omega
      · rfl
  | case4 i outside =>
    rw [List.drop_eq_nil_of_le (by omega)]
    rfl

theorem closingFrom?_eq (tokens : List Token) (depth i : Nat) :
    closingFrom? tokens depth i
      = (splitClosing? depth (tokens.drop i)).map fun found => i + found.1.length := by
  fun_induction closingFrom? tokens depth i with
  | case1 depth i inside opens ih =>
    rw [List.drop_eq_getElem_cons inside, splitClosing?, if_pos opens, ih]
    exact (map_front i [_] _).symm
  | case2 depth i inside other closes last =>
    rw [List.drop_eq_getElem_cons inside, splitClosing?, if_neg other, if_pos closes, if_pos last]
    rfl
  | case3 depth i inside other closes more ih =>
    rw [List.drop_eq_getElem_cons inside, splitClosing?, if_neg other, if_pos closes, if_neg more,
      ih]
    exact (map_front i [_] _).symm
  | case4 depth i inside other neither ih =>
    rw [List.drop_eq_getElem_cons inside, splitClosing?, if_neg other, if_neg neither, ih]
    exact (map_front i [_] _).symm
  | case5 depth i outside =>
    rw [List.drop_eq_nil_of_le (by omega)]
    rfl

/-- What stands at a place from which tokens are known on. -/
theorem getElem?_of_drop {token : Token} {more : List Token}
    (parts : tokens.drop i = token :: more) :
    tokens[i]? = some token ∧ tokens.drop (i + 1) = more := by
  constructor
  · rw [← List.head?_drop, parts]
    rfl
  · rw [← List.drop_drop, parts]
    rfl

/-- What is next in a part that begins at a place. -/
theorem next_in_part {part after : List Token} {found : Ahead}
    (parts : tokens.drop i = part ++ after)
    (is : ahead? part = some found) :
    nextFrom? tokens i = some (i + found.passed) ∧ tokens[i + found.passed]? = some found.token ∧
      tokens.drop (i + found.passed + 1) = found.rest ++ after ∧
      part.length = found.passed + 1 + found.rest.length := by
  have next := ahead?_append is after
  refine ⟨?_, (ahead?_place parts next).1, (ahead?_place parts next).2, ahead?_length is⟩
  rw [nextFrom?_eq, parts, next]
  rfl

theorem closing_eq {token : Token} (there : tokens[i]? = some token)
    (opens : isOpening token = true) :
    closing tokens i = match splitClosing? 1 (tokens.drop (i + 1)) with
      | some (inner, _, _) => .ok (i + 1 + inner.length)
      | none => .error (.fault ⟨.unclosed, token.line⟩) := by
  obtain ⟨inside, same⟩ := List.getElem?_eq_some_iff.mp there
  rw [closing, closingFrom?_eq, List.drop_eq_getElem_cons inside, same, splitClosing?, if_pos opens,
    lineAt, there]
  simp only [Nat.zero_add]
  cases splitClosing? 1 (tokens.drop (i + 1)) with
  | none => rfl
  | some found =>
    simp only [Option.map_some, List.length_cons, Except.ok.injEq]
    omega

/-- What a bracket encloses is cut off without a crash, and what follows it is known. -/
theorem enclosed_places {inner after : List Token} {closer : Token} (inside : i ≤ tokens.length)
    (encloses : splitClosing? 1 (tokens.drop i) = some (inner, closer, after)) :
    slice tokens i (i + inner.length) = .ok inner ∧ tokens.drop i = inner ++ closer :: after ∧
      tokens.drop (i + inner.length + 1) = after := by
  obtain ⟨parts, -⟩ := splitClosing?_eq encloses
  obtain ⟨cut, behind⟩ := slice_drop inside parts
  exact ⟨cut, parts, (getElem?_of_drop behind).2⟩

end Ahead

section Behind

/-- The place of the last meaningful token before a place. -/
def lastBefore? (tokens : List Token) : Nat → Outcome (Option Nat)
  | 0 => .ok none
  | i + 1 => do
    if (← fetch tokens i).isMeaningful then pure (some i) else lastBefore? tokens i

/-- The last meaningful token before a place. -/
def lastToken? (tokens : List Token) (i : Nat) : Outcome (Option Token) := do
  match ← lastBefore? tokens i with
  | some place => some <$> fetch tokens place
  | none => pure none

def lastIsSign (tokens : List Token) (i : Nat) (texts : List String) : Outcome Bool := do
  pure (((← lastToken? tokens i).bind Token.sign?).any texts.contains)

def lastIsWord (tokens : List Token) (i : Nat) (texts : List String) : Outcome Bool := do
  pure (((← lastToken? tokens i).bind Token.word?).any texts.contains)

/-- Whether a line ends between two places. -/
def breaksBetween (tokens : List Token) (start stop : Nat) : Outcome Bool := do
  pure ((← slice tokens start stop).any fun token => token.kind == .newline)

/-- The place of the bracket before a place that opens `depth` closed ones. -/
def openingBefore? (tokens : List Token) (depth : Nat) : Nat → Option Nat
  | 0 => none
  | i + 1 =>
    if tokens[i]?.any isClosing then openingBefore? tokens (depth + 1) i
    else if tokens[i]?.any isOpening then
      if depth ≤ 1 then some i else openingBefore? tokens (depth - 1) i
    else openingBefore? tokens depth i

/-- Whether a place starts a statement. -/
def atStatementStart (tokens : List Token) (i : Nat) : Outcome Bool := do
  match ← lastBefore? tokens i with
  | none => pure true
  | some last =>
    if (signAt? tokens last).any [";", "\x7b", "\x7d"].contains then pure true
    else breaksBetween tokens (last + 1) i

/-- The name of the variable that a declaration in front of a place gives a value. -/
def declaredName? (tokens : List Token) (i : Nat) : Outcome (Option String) := do
  let some sign ← lastBefore? tokens i | pure none
  if signAt? tokens sign != some "=" then return none
  let some name ← lastBefore? tokens sign | pure none
  let some keyword ← lastBefore? tokens name | pure none
  if (wordAt? tokens keyword).any ["let", "const", "var", "def"].contains then
    pure (wordAt? tokens name)
  else pure none

variable {before rest : List Token}

theorem getElem?_behind (before : List Token) (token : Token) (rest : List Token) :
    (before.reverse ++ token :: rest)[before.length]? = some token := by
  rw [List.getElem?_append_right (Nat.le_of_eq (List.length_reverse ..)), List.length_reverse,
    Nat.sub_self]
  rfl

/-- The tokens before a place, nearest first, and those from the place on. -/
theorem lastBefore?_eq (before rest : List Token) :
    lastBefore? (before.reverse ++ rest) before.length
      = .ok ((ahead? before).map (·.rest.length)) := by
  induction before generalizing rest with
  | nil => rfl
  | cons token more ih =>
    have same : (token :: more).reverse ++ rest = more.reverse ++ token :: rest := by simp
    rw [List.length_cons, lastBefore?, same, fetch_eq (getElem?_behind more token rest), ahead?]
    simp only [bind, Except.bind]
    split
    · rfl
    · rw [ih, Option.map_map]
      rfl

/-- What is found behind a place stands in front of blanks. -/
theorem behind_place {found : Ahead} (is : ahead? before = some found) (rest : List Token) :
    ∃ passed, passed.length = found.passed ∧ Blank passed ∧ before = passed ++ found.token :: found.rest ∧
      before.reverse ++ rest = found.rest.reverse ++ found.token :: (passed.reverse ++ rest) := by
  obtain ⟨passed, parts, long, blank, -⟩ := ahead?_eq is
  exact ⟨passed, long, blank, parts, by rw [parts]; simp⟩

theorem find?_ahead (tokens : List Token) :
    tokens.find? Token.isMeaningful = (ahead? tokens).map Ahead.token := by
  induction tokens with
  | nil => rfl
  | cons token rest ih =>
    rw [List.find?_cons, ahead?]
    split
    · rename_i meant
      rw [if_pos meant]
      rfl
    · rename_i blank
      rw [if_neg (by simp [blank]), ih, Option.map_map]
      rfl

theorem lastToken?_eq (before rest : List Token) :
    lastToken? (before.reverse ++ rest) before.length = .ok (before.find? Token.isMeaningful) := by
  rw [lastToken?, lastBefore?_eq, find?_ahead]
  cases is : ahead? before with
  | none => rfl
  | some found =>
    obtain ⟨passed, -, -, -, parts⟩ := behind_place is rest
    simp only [bind, Except.bind, Option.map_some, parts, fetch_eq (getElem?_behind ..)]
    rfl

theorem openingBefore?_eq (before rest : List Token) (depth : Nat) :
    openingBefore? (before.reverse ++ rest) depth before.length
      = (beforeOpening? depth before).map List.length := by
  induction before generalizing rest depth with
  | nil => rfl
  | cons token more ih =>
    have same : (token :: more).reverse ++ rest = more.reverse ++ token :: rest := by simp
    rw [List.length_cons, openingBefore?, same, getElem?_behind, beforeOpening?]
    simp only [Option.any_some, ih]
    split
    · rfl
    · split
      · split <;> rfl
      · rfl

/-- What is before a bracket is the end of what is before a place, nearest first. -/
theorem beforeOpening?_suffix {depth : Nat} {front : List Token}
    (is : beforeOpening? depth before = some front) : front <:+ before := by
  induction before generalizing depth with
  | nil => cases is
  | cons token more ih =>
    rw [beforeOpening?] at is
    have further {deeper : Nat} (is : beforeOpening? deeper more = some front) : front <:+ token :: more :=
      (ih is).trans (List.suffix_cons ..)
    split at is
    · exact further is
    · split at is
      · split at is
        · cases is
          exact List.suffix_cons ..
        · exact further is
      · exact further is

end Behind

end ApiProbe.Script.Placed
