import ApiProbe.Proofs.Script.Places
import ApiProbe.Proofs.Script.WrittenBreaks

/-!
Tokens cut by place. The text stays whole, and a token is the part of it between two places that
the cutting goes through once. The parts are in order and in bounds, every round takes something,
and the tokens are those of the script.
-/
namespace ApiProbe.Script.Placed

section Ends

/-- The first place from `i` on whose character is none of the kind. -/
def passWhile (p : Char → Bool) (chars : List Char) (i : Nat) : Nat :=
  if inside : i < chars.length then
    if p chars[i] then passWhile p chars (i + 1) else i
  else i
termination_by chars.length - i

/-- The place behind the end of a comment that may go over lines, and the line ends before it. -/
def commentEnd? (chars : List Char) (breaks i : Nat) : Option (Nat × Nat) :=
  if inside : i < chars.length then
    if chars[i] == '*' && chars[i + 1]? == some '/' then some (i + 2, breaks)
    else commentEnd? chars (breaks + [chars[i]].count '\n') (i + 1)
  else none
termination_by chars.length - i

/-- The place of the closing quote of a string. -/
def quotedEnd? (quote : Char) (chars : List Char) (i : Nat) : Option Nat :=
  if inside : i < chars.length then
    if chars[i] == '\n' then none
    else if chars[i] == '\\' then quotedEnd? quote chars (i + 2)
    else if chars[i] == quote then some i
    else quotedEnd? quote chars (i + 1)
  else none
termination_by chars.length - i

/-- The place of the closing tick of a template, and the line ends before it. -/
def templateEnd? (chars : List Char) (breaks i : Nat) : Option (Nat × Nat) :=
  if inside : i < chars.length then
    if chars[i] == '\\' then templateEnd? chars breaks (i + 2)
    else if chars[i].toNat == 96 then some (i, breaks)
    else templateEnd? chars (breaks + [chars[i]].count '\n') (i + 1)
  else none
termination_by chars.length - i

/-- The place of the closing slash of a regular expression. -/
def regexEnd? (inBrackets : Bool) (chars : List Char) (i : Nat) : Option Nat :=
  if inside : i < chars.length then
    if chars[i] == '\n' then none
    else if chars[i] == '\\' then regexEnd? inBrackets chars (i + 2)
    else if chars[i] == '/' && !inBrackets then some i
    else regexEnd? (bracketsAfter inBrackets chars[i]) chars (i + 1)
  else none
termination_by chars.length - i

/-- Whether a sign at a place belongs to an exponent of the number that starts at `start`. -/
def isExponentSign (chars : List Char) (start i : Nat) (d : Char) : Outcome Bool :=
  if d == '+' || d == '-' then
    match i with
    | 0 => .error .crash
    | before + 1 => do
      let mark ← fetch chars before
      if mark == 'e' || mark == 'E' then
        let digits ← slice chars start i
        pure (!isHexadecimal digits.reverse)
      else pure false
  else pure false

/-- The place behind a number that starts at `start`. -/
def numberEnd (chars : List Char) (start i : Nat) : Outcome Nat :=
  if inside : i < chars.length then do
    let d := chars[i]
    let point := d == '.' && (chars[i + 1]?.map Char.isDigit).getD false
    if d.isAlphanum || d == '_' || point || (← isExponentSign chars start i d) then
      numberEnd chars start (i + 1)
    else pure i
  else pure i
termination_by chars.length - i

/-- Whether a text stands at a place. -/
def standsAt (chars text : List Char) (i : Nat) : Bool :=
  text.zipIdx.all fun (c, k) => chars[i + k]? == some c

variable {chars : List Char} {i : Nat}

theorem passWhile_eq (p : Char → Bool) (chars : List Char) (i : Nat) :
    passWhile p chars i = i + ((chars.drop i).takeWhile p).length := by
  fun_induction passWhile p chars i with
  | case1 i inside passes ih =>
    rw [List.drop_eq_getElem_cons inside, List.takeWhile_cons_of_pos passes, ih, List.length_cons]
    omega
  | case2 i inside ends =>
    rw [List.drop_eq_getElem_cons inside, List.takeWhile_cons_of_neg ends]
    rfl
  | case3 i outside =>
    rw [List.drop_eq_nil_of_le (by omega)]
    rfl

theorem commentEnd?_eq (chars : List Char) (breaks i : Nat) :
    commentEnd? chars breaks i = (Text.cutAt? ['*', '/'] (chars.drop i)).map
      fun (body, _) => (i + body.length + 2, breaks + body.count '\n') := by
  have ends {i : Nat} (inside : i < chars.length) :
      ['*', '/'].isPrefixOf (chars[i] :: chars.drop (i + 1))
        = (chars[i] == '*' && chars[i + 1]? == some '/') := by
    rw [← List.head?_drop]
    cases chars.drop (i + 1) <;> simp [List.isPrefixOf, Bool.beq_comm]
  fun_induction commentEnd? chars breaks i with
  | case1 breaks i inside here =>
    rw [List.drop_eq_getElem_cons inside, Text.cutAt?, ends, if_pos here]
    rfl
  | case2 breaks i inside other ih =>
    rw [List.drop_eq_getElem_cons inside, Text.cutAt?, ends, if_neg other, ih, Option.map_map]
    congr 1
    funext found
    simp only [Function.comp, List.length_cons, List.count_cons, List.count_nil, Prod.mk.injEq]
    omega
  | case3 breaks i outside =>
    rw [List.drop_eq_nil_of_le (by omega)]
    rfl

theorem quotedEnd?_eq {quote : Char} (mark : quote ≠ '\\') (chars : List Char) (i : Nat) :
    quotedEnd? quote chars i
      = (quotedBody? quote (chars.drop i)).map fun found => i + found.1.length := by
  fun_induction quotedEnd? quote chars i with
  | case1 i inside ends =>
    rw [List.drop_eq_getElem_cons inside, beq_iff_eq.mp ends]
    simp [quotedBody?]
  | case2 i inside _ escape ih =>
    rw [List.drop_eq_getElem_cons inside, beq_iff_eq.mp escape, ih]
    by_cases more : i + 1 < chars.length
    · rw [List.drop_eq_getElem_cons more, quotedBody?]
      exact (map_front i ['\\', _] _).symm
    · rw [List.drop_eq_nil_of_le (by omega), List.drop_eq_nil_of_le (by omega)]
      simp [quotedBody?, Ne.symm mark]
  | case3 i inside stays plain closes =>
    rw [List.drop_eq_getElem_cons inside, quotedBody?, if_neg stays, if_pos closes]
    · rfl
    · exact fun _ _ same => (plain (beq_iff_eq.mpr same)).elim
  | case4 i inside stays plain other ih =>
    rw [List.drop_eq_getElem_cons inside, quotedBody?, if_neg stays, if_neg other, ih]
    · exact (map_front i [_] _).symm
    · exact fun _ _ same => (plain (beq_iff_eq.mpr same)).elim
  | case5 i outside =>
    rw [List.drop_eq_nil_of_le (by omega)]
    rfl

theorem templateEnd?_eq (chars : List Char) (breaks i : Nat) :
    templateEnd? chars breaks i = (templateBody? (chars.drop i)).map
      fun (body, more, _) => (i + body.length, breaks + more) := by
  fun_induction templateEnd? chars breaks i with
  | case1 breaks i inside escape ih =>
    rw [List.drop_eq_getElem_cons inside, beq_iff_eq.mp escape, ih]
    by_cases more : i + 1 < chars.length
    · rw [List.drop_eq_getElem_cons more, templateBody?, Option.map_map]
      congr 1
      funext found
      simp only [Function.comp, List.length_cons, Prod.mk.injEq, and_true]
      omega
    · rw [List.drop_eq_nil_of_le (by omega), List.drop_eq_nil_of_le (by omega)]
      rfl
  | case2 breaks i inside plain closes =>
    rw [List.drop_eq_getElem_cons inside, templateBody?, if_pos closes]
    · rfl
    · exact fun _ _ same => (plain (beq_iff_eq.mpr same)).elim
  | case3 breaks i inside plain other ih =>
    rw [List.drop_eq_getElem_cons inside, templateBody?, if_neg other, ih, Option.map_map]
    · congr 1
      funext found
      simp only [Function.comp, List.length_cons, List.count_cons, List.count_nil, Prod.mk.injEq]
      constructor
      · omega
      · split <;> omega
    · exact fun _ _ same => (plain (beq_iff_eq.mpr same)).elim
  | case4 breaks i outside =>
    rw [List.drop_eq_nil_of_le (by omega)]
    rfl

theorem regexEnd?_eq (inBrackets : Bool) (chars : List Char) (i : Nat) :
    regexEnd? inBrackets chars i
      = (regexBody? inBrackets (chars.drop i)).map fun found => i + found.1.length := by
  fun_induction regexEnd? inBrackets chars i with
  | case1 inBrackets i inside ends =>
    rw [List.drop_eq_getElem_cons inside, beq_iff_eq.mp ends]
    simp [regexBody?]
  | case2 inBrackets i inside _ escape ih =>
    rw [List.drop_eq_getElem_cons inside, beq_iff_eq.mp escape, ih]
    by_cases more : i + 1 < chars.length
    · rw [List.drop_eq_getElem_cons more, regexBody?]
      exact (map_front i ['\\', _] _).symm
    · rw [List.drop_eq_nil_of_le (by omega), List.drop_eq_nil_of_le (by omega)]
      simp [regexBody?]
  | case3 inBrackets i inside stays plain closes =>
    rw [List.drop_eq_getElem_cons inside, regexBody?, if_neg stays, if_pos closes]
    · rfl
    · exact fun _ _ same => (plain (beq_iff_eq.mpr same)).elim
  | case4 inBrackets i inside stays plain other ih =>
    rw [List.drop_eq_getElem_cons inside, regexBody?, if_neg stays, if_neg other, ih]
    · exact (map_front i [_] _).symm
    · exact fun _ _ same => (plain (beq_iff_eq.mpr same)).elim
  | case5 inBrackets i outside =>
    rw [List.drop_eq_nil_of_le (by omega)]
    rfl

section Numbers
variable {front taken : List Char}

theorem isExponentSign_eq (some_ : taken ≠ []) (d : Char) (rest : List Char) :
    isExponentSign (front ++ (taken.reverse ++ rest)) front.length (front.length + taken.length) d
      = .ok ((d == '+' || d == '-') && (taken.head? == some 'e' || taken.head? == some 'E')
          && !isHexadecimal taken) := by
  obtain ⟨mark, earlier, rfl⟩ := List.exists_cons_of_ne_nil some_
  have behind : (front ++ ((mark :: earlier).reverse ++ rest))[front.length + earlier.length]?
      = some mark := by
    simp
  have cut : slice (front ++ ((mark :: earlier).reverse ++ rest)) front.length
      (front.length + earlier.length + 1) = .ok (mark :: earlier).reverse :=
    slice_eq front rest rfl rfl (by simp; omega)
  unfold isExponentSign
  split
  · rename_i sign
    simp only [List.length_cons, ← Nat.add_assoc, fetch_eq behind, cut, bind, Except.bind, sign,
      List.reverse_reverse, List.head?_cons, Bool.true_and, pure, Except.pure]
    split
    · rename_i exponent
      simp_all
    · rename_i other
      simp_all
  · rename_i plain
    simp [plain, pure, Except.pure]

/-- A number that has been read from its start on is read to its end. -/
theorem numberEnd_eq (some_ : taken ≠ []) (rest : List Char) :
    numberEnd (front ++ (taken.reverse ++ rest)) front.length (front.length + taken.length)
      = .ok (front.length + (numberRest taken rest).1.length) := by
  induction rest generalizing taken with
  | nil =>
    rw [numberEnd, dif_neg (by simp), numberRest]
    simp [pure, Except.pure]
  | cons d rest ih =>
    have inside : front.length + taken.length < (front ++ (taken.reverse ++ d :: rest)).length := by
      simp
    have here : (front ++ (taken.reverse ++ d :: rest))[front.length + taken.length] = d := by
      simp [List.getElem_append_right]
    have next : (front ++ (taken.reverse ++ d :: rest))[front.length + taken.length + 1]?
        = rest.head? := by
      simp [List.getElem?_append_right, Nat.add_assoc, List.head?_eq_getElem?]
    rw [numberEnd, dif_pos inside]
    simp only [here, next, isExponentSign_eq some_, bind, Except.bind, numberRest]
    split
    · have whole : front ++ (taken.reverse ++ d :: rest)
        = front ++ ((d :: taken).reverse ++ rest) := by
        simp
      rw [whole]
      exact ih (List.cons_ne_nil d taken)
    · simp [pure, Except.pure]

end Numbers

/-- A sign stands at a place if what follows the place starts with it. -/
theorem standsAt_eq (chars text : List Char) (i : Nat) :
    standsAt chars text i = text.isPrefixOf (chars.drop i) := by
  unfold standsAt
  rw [Bool.eq_iff_iff, List.isPrefixOf_iff_prefix, List.prefix_iff_getElem?, List.all_eq_true]
  constructor
  · intro all k inside
    have here := all (text[k], k) (List.mem_zipIdx_iff_getElem?.mpr (List.getElem?_eq_getElem inside))
    rw [List.getElem?_drop]
    exact beq_iff_eq.mp here
  · rintro starts ⟨c, k⟩ member
    obtain ⟨inside, same⟩ := List.getElem?_eq_some_iff.mp (List.mem_zipIdx_iff_getElem?.mp member)
    have here := starts k inside
    rw [List.getElem?_drop, same] at here
    exact beq_iff_eq.mpr here

end Ends

/-- A token cut off at a place, the place behind it, and the number of line ends passed. -/
structure Piece where
  kind : Option Kind
  next : Nat
  breaks : Nat

section Pieces
variable (chars : List Char) (line i : Nat)

def unfinishedAt (what : Unfinished) : Outcome Piece := .error (.fault ⟨.unfinished what, line⟩)

/-- A token that goes on as long as its characters are of one kind. -/
def runAt (p : Char → Bool) (kind : List Char → Kind) : Outcome Piece := do
  let stop := passWhile p chars i
  pure ⟨some (kind (← slice chars i stop)), stop, 0⟩

def longCommentAt : Outcome Piece :=
  match commentEnd? chars 0 (i + 2) with
  | some (stop, breaks) => do
    pure ⟨some (.comment (String.ofList (← slice chars i stop))), stop, breaks⟩
  | none => unfinishedAt line .comment

def quotedAt (quote : Char) : Outcome Piece :=
  match quotedEnd? quote chars (i + 1) with
  | some close => do pure ⟨some (.quoted (← slice chars (i + 1) close) quote), close + 1, 0⟩
  | none => unfinishedAt line .string

def templateAt : Outcome Piece :=
  match templateEnd? chars 0 (i + 1) with
  | some (close, breaks) => do
    pure ⟨some (.template (← slice chars (i + 1) close)), close + 1, breaks⟩
  | none => unfinishedAt line .template

def regexAt : Outcome Piece :=
  match regexEnd? false chars (i + 1) with
  | some close => do
    let pattern ← slice chars (i + 1) close
    let stop := passWhile Char.isAlpha chars (close + 1)
    pure ⟨some (.regex pattern (← slice chars (close + 1) stop)), stop, 0⟩
  | none => unfinishedAt line .regex

def numberAt : Outcome Piece := do
  let stop ← numberEnd chars i (i + 1)
  pure ⟨some (.number (String.ofList (← slice chars i stop))), stop, 0⟩

def signAfter (c : Char) : Outcome Piece :=
  match signs.find? fun sign => standsAt chars sign.toList i with
  | some sign => pure ⟨some (.sign sign), i + sign.length, 0⟩
  | none => .error (.fault ⟨.strangeChar c, line⟩)

/-- Cuts the token at a place. `tokens` are those before it. -/
def cutAt (tokens : List Token) : Outcome Piece := do
  let c ← fetch chars i
  let next := chars[i + 1]?
  if c == '\n' then pure ⟨some .newline, i + 1, 1⟩
  else if c == '\r' then pure ⟨none, i + 1, 0⟩
  else if Text.isBlank c then runAt chars i isInlineBlank fun run => .space (withoutReturns run)
  else if c == '/' && next == some '/' then
    runAt chars i (· != '\n') fun run => .comment (withoutReturns run)
  else if c == '/' && next == some '*' then longCommentAt chars line i
  else if c == '"' || c == '\'' then quotedAt chars line i c
  else if c.toNat == 96 then templateAt chars line i
  else if c == '/' && regexMayFollow ((tokens.reverse.find? Token.isMeaningful).map Token.kind) then
    regexAt chars line i
  else if c.isDigit then numberAt chars i
  else if isWordStart c then runAt chars i isWordPart fun run => .word (String.ofList run)
  else signAfter chars line i c

end Pieces

/-- Cuts tokens from a place on, in no more rounds than there are characters. -/
def tokensAt (rounds : Nat) (chars : List Char) (tokens : List Token) (line i : Nat) :
    Outcome (List Token) :=
  if i < chars.length then
    match rounds with
    | 0 => .error .hang
    | rounds + 1 => do
      let piece ← cutAt chars line i tokens
      let more := piece.kind.toList.map fun kind => ⟨kind, line⟩
      tokensAt rounds chars (tokens ++ more) (line + piece.breaks) piece.next
  else pure tokens

/-- The tokens of a script, cut by place. -/
def tokens (script : String) : Outcome (List Token) :=
  tokensAt script.toList.length script.toList [] 1 0

section Cutting
variable (p : Char → Bool) (front text : List Char)

theorem passWhile_left :
    passWhile p (front ++ text) front.length
      = (front ++ text).length - (text.dropWhile p).length := by
  have whole := congrArg List.length (List.takeWhile_append_dropWhile (p := p) (l := text))
  rw [passWhile_eq, List.drop_left]
  rw [List.length_append] at whole ⊢
  omega

theorem slice_passWhile :
    slice (front ++ text) front.length (passWhile p (front ++ text) front.length)
      = .ok (text.takeWhile p) := by
  rw [passWhile_eq, List.drop_left]
  refine slice_eq front (text.dropWhile p) ?_ rfl rfl
  rw [List.takeWhile_append_dropWhile]

variable (c : Char) (rest : List Char)

theorem runAt_eq (passes : p c = true) (kind : List Char → Kind) :
    runAt (front ++ c :: rest) front.length p kind
      = .ok ⟨some (kind (c :: rest.takeWhile p)),
          (front ++ c :: rest).length - (rest.dropWhile p).length, 0⟩ := by
  simp only [runAt, slice_passWhile, bind, Except.bind, pure, Except.pure]
  rw [passWhile_left, List.takeWhile_cons_of_pos passes, List.dropWhile_cons_of_pos passes]

/-- What stands between a character and a mark. -/
theorem slice_body {body after : List Char} {mark : Char} (parts : rest = body ++ mark :: after) :
    slice (front ++ c :: rest) (front.length + 1) (front.length + 1 + body.length) = .ok body ∧
      front.length + 1 + body.length + 1 = (front ++ c :: rest).length - after.length := by
  subst parts
  constructor
  · exact slice_eq (front ++ [c]) (mark :: after) (by simp) (by simp) (by simp)
  · simp only [List.length_append, List.length_cons]
    omega

theorem longCommentAt_eq (line : Nat) :
    longCommentAt (front ++ '/' :: '*' :: rest) line front.length
      = match Text.cutAt? ['*', '/'] rest with
        | some (body, after) =>
          .ok ⟨some (.comment ("/*" ++ String.ofList body ++ "*/")),
            (front ++ '/' :: '*' :: rest).length - after.length, body.count '\n'⟩
        | none => unfinishedAt line .comment := by
  have behind : (front ++ '/' :: '*' :: rest).drop (front.length + 2) = rest := by
    rw [← List.drop_drop, List.drop_left]
    rfl
  rw [longCommentAt, commentEnd?_eq, behind]
  cases found : Text.cutAt? ['*', '/'] rest with
  | none => rfl
  | some parts =>
    obtain ⟨body, after⟩ := parts
    have whole := Text.cutAt?_eq found
    have cut : slice (front ++ '/' :: '*' :: rest) front.length (front.length + 2 + body.length + 2)
        = .ok ("/*".toList ++ body ++ "*/".toList) :=
      slice_eq front after (by simp [whole]) rfl (by simp; omega)
    have text : String.ofList ("/*".toList ++ body ++ "*/".toList)
        = "/*" ++ String.ofList body ++ "*/" := by
      rw [String.ofList_append, String.ofList_append, String.ofList_toList, String.ofList_toList]
    have stop : front.length + 2 + body.length + 2
        = (front ++ '/' :: '*' :: rest).length - after.length := by
      rw [whole]
      simp
      omega
    rw [Option.map_some]
    simp only [cut, text, bind, Except.bind, pure, Except.pure, Nat.zero_add]
    rw [stop]

theorem quotedAt_eq (line : Nat) {quote : Char} (mark : quote ≠ '\\') :
    quotedAt (front ++ c :: rest) line front.length quote = match quotedBody? quote rest with
      | some (body, after) =>
        .ok ⟨some (.quoted body quote), (front ++ c :: rest).length - after.length, 0⟩
      | none => unfinishedAt line .string := by
  rw [quotedAt, quotedEnd?_eq mark, drop_front]
  cases found : quotedBody? quote rest with
  | none => rfl
  | some parts =>
    obtain ⟨cut, stop⟩ := slice_body front c rest (quotedBody?_eq found)
    simp only [Option.map_some, cut, stop, bind, Except.bind, pure, Except.pure]

theorem templateAt_eq (line : Nat) :
    templateAt (front ++ c :: rest) line front.length = match templateBody? rest with
      | some (body, breaks, after) =>
        .ok ⟨some (.template body), (front ++ c :: rest).length - after.length, breaks⟩
      | none => unfinishedAt line .template := by
  rw [templateAt, templateEnd?_eq, drop_front]
  cases found : templateBody? rest with
  | none => rfl
  | some parts =>
    obtain ⟨cut, stop⟩ := slice_body front c rest (templateBody?_eq found)
    simp only [Option.map_some, cut, stop, bind, Except.bind, pure, Except.pure, Nat.zero_add]

theorem regexAt_eq (line : Nat) :
    regexAt (front ++ c :: rest) line front.length = match regexBody? false rest with
      | some (pattern, after) =>
        .ok ⟨some (.regex pattern (after.takeWhile Char.isAlpha)),
          (front ++ c :: rest).length - (after.dropWhile Char.isAlpha).length, 0⟩
      | none => unfinishedAt line .regex := by
  rw [regexAt, regexEnd?_eq, drop_front]
  cases found : regexBody? false rest with
  | none => rfl
  | some parts =>
    obtain ⟨pattern, after⟩ := parts
    have whole := regexBody?_eq found
    obtain ⟨cut, -⟩ := slice_body front c rest whole
    have parts : front ++ c :: rest = (front ++ c :: (pattern ++ ['/'])) ++ after := by simp [whole]
    have start : front.length + 1 + pattern.length + 1
        = (front ++ c :: (pattern ++ ['/'])).length := by
      simp
      omega
    simp only [Option.map_some, cut, bind, Except.bind, pure, Except.pure]
    rw [parts, start, slice_passWhile, passWhile_left]

theorem numberAt_eq :
    numberAt (front ++ c :: rest) front.length
      = .ok ⟨some (.number (String.ofList (numberRest [c] rest).1)),
          (front ++ c :: rest).length - (numberRest [c] rest).2.length, 0⟩ := by
  have whole : c :: rest = (numberRest [c] rest).1 ++ (numberRest [c] rest).2 :=
    (numberRest_eq [c] rest).symm
  have stop : numberEnd (front ++ c :: rest) front.length (front.length + 1)
      = .ok (front.length + (numberRest [c] rest).1.length) :=
    numberEnd_eq (List.cons_ne_nil c []) rest
  have cut : slice (front ++ c :: rest) front.length (front.length + (numberRest [c] rest).1.length)
      = .ok (numberRest [c] rest).1 :=
    slice_eq front _ (congrArg (front ++ ·) whole) rfl rfl
  rw [numberAt, stop]
  simp only [cut, bind, Except.bind, pure, Except.pure]
  have long := congrArg List.length whole
  simp only [List.length_append, List.length_cons] at long ⊢
  congr 2
  omega

theorem signAfter_eq (line : Nat) :
    signAfter (front ++ c :: rest) line front.length c = match cutSign (c :: rest) with
      | .ok piece =>
        .ok ⟨piece.kind, (front ++ c :: rest).length - piece.rest.length, piece.breaks⟩
      | .error fault => .error (.fault ⟨fault, line⟩) := by
  have known (sign : String) : standsAt (front ++ c :: rest) sign.toList front.length
      = sign.toList.isPrefixOf (c :: rest) := by
    rw [standsAt_eq, List.drop_left]
  simp only [signAfter, cutSign, known]
  cases found : signs.find? fun sign => sign.toList.isPrefixOf (c :: rest) with
  | none => rfl
  | some sign =>
    have some_ := List.length_pos_iff.mpr (signs_ne_nil sign (List.mem_of_find?_eq_some found))
    have here := List.find?_some found
    have starts := (List.isPrefixOf_iff_prefix.mp here).length_le
    rw [String.length_toList] at some_ starts
    simp only [pure, Except.pure, List.length_append, List.length_drop]
    congr 2
    omega

theorem isWordPart_of_isWordStart {c : Char} (start : isWordStart c = true) :
    isWordPart c = true := by
  simp only [isWordStart, isWordPart, Text.isAlphanumeric, Bool.or_eq_true] at start ⊢
  exact start.imp_left fun either => either.imp_left .inl

/-- A cut by place takes what a cut off the front of the rest takes. -/
theorem cutAt_eq (line : Nat) {before : List Token} {last : Option Kind}
    (known : (before.reverse.find? Token.isMeaningful).map Token.kind = last) :
    cutAt (front ++ c :: rest) line front.length before = match cut last c rest with
      | .ok piece =>
        .ok ⟨piece.kind, (front ++ c :: rest).length - piece.rest.length, piece.breaks⟩
      | .error fault => .error (.fault ⟨fault, line⟩) := by
  have here : fetch (front ++ c :: rest) front.length = .ok c := fetch_eq (by simp)
  have next : (front ++ c :: rest)[front.length + 1]? = rest.head? := by
    simp [List.getElem?_append_right, List.head?_eq_getElem?]
  have one : front.length + 1 = (front ++ c :: rest).length - rest.length := by
    simp only [List.length_append, List.length_cons]
    omega
  rw [cutAt, here]
  simp only [bind, Except.bind, next, known]
  unfold cut
  by_cases ends : (c == '\n') = true
  · rw [if_pos ends, if_pos ends, one]
    rfl
  rw [if_neg ends, if_neg ends]
  by_cases returns : (c == '\r') = true
  · rw [if_pos returns, if_pos returns, one]
    rfl
  rw [if_neg returns, if_neg returns]
  by_cases blank : Text.isBlank c = true
  · have inline : isInlineBlank c = true := by simp_all [isInlineBlank]
    rw [if_pos blank, if_pos blank, runAt_eq isInlineBlank _ _ _ inline]
    simp only [List.takeWhile_cons_of_pos inline]
  rw [if_neg blank, if_neg blank]
  by_cases lineComment : (c == '/' && rest.head? == some '/') = true
  · have inside : (c != '\n') = true := by simpa using ends
    rw [if_pos lineComment, if_pos lineComment, runAt_eq (· != '\n') _ _ _ inside]
    simp [inside]
  rw [if_neg lineComment, if_neg lineComment]
  by_cases longComment : (c == '/' && rest.head? == some '*') = true
  · rw [if_pos longComment, if_pos longComment]
    simp only [Bool.and_eq_true, beq_iff_eq] at longComment
    obtain ⟨rfl, star⟩ := longComment
    obtain ⟨more, rfl⟩ := List.head?_eq_some_iff.mp star
    rw [longCommentAt_eq, List.drop_one, List.tail_cons]
    cases Text.cutAt? ['*', '/'] more <;> rfl
  rw [if_neg longComment, if_neg longComment]
  by_cases quoted : (c == '"' || c == '\'') = true
  · have mark : c ≠ '\\' := by
      rintro rfl
      exact absurd quoted (by decide)
    rw [if_pos quoted, if_pos quoted, quotedAt_eq _ _ _ _ mark]
    cases quotedBody? c rest <;> rfl
  rw [if_neg quoted, if_neg quoted]
  by_cases tick : (c.toNat == 96) = true
  · rw [if_pos tick, if_pos tick, templateAt_eq]
    cases templateBody? rest <;> rfl
  rw [if_neg tick, if_neg tick]
  by_cases regex : (c == '/' && regexMayFollow last) = true
  · rw [if_pos regex, if_pos regex, regexAt_eq]
    cases regexBody? false rest <;> rfl
  rw [if_neg regex, if_neg regex]
  by_cases digit : c.isDigit = true
  · rw [if_pos digit, if_pos digit, numberAt_eq]
  rw [if_neg digit, if_neg digit]
  by_cases word : isWordStart c = true
  · rw [if_pos word, if_pos word, runAt_eq isWordPart _ _ _ (isWordPart_of_isWordStart word)]
  rw [if_neg word, if_neg word, signAfter_eq]

end Cutting

/-- The last meaningful token, once one more has been cut off. -/
theorem last_append {before : List Token} {last : Option Kind} (kind : Kind) (line : Nat)
    (known : (before.reverse.find? Token.isMeaningful).map Token.kind = last) :
    ((before ++ [Token.mk kind line]).reverse.find? Token.isMeaningful).map Token.kind
      = if kind.isMeaningful then some kind else last := by
  rw [List.reverse_append, List.reverse_singleton, List.singleton_append, List.find?_cons]
  simp only [Token.isMeaningful]
  split
  · rename_i meant
    rw [if_pos meant]
    rfl
  · rename_i blank
    rw [if_neg (by simp [blank])]
    exact known

theorem tokensAt_nil (rounds line : Nat) (front : List Char) (before : List Token)
    (last : Option Kind) :
    tokensAt rounds (front ++ []) before line front.length
      = settled ((tokensFrom line last []).map (before ++ ·)) := by
  rw [tokensAt.eq_def, if_neg (by simp), tokensFrom]
  simp [settled, Except.map, Except.mapError, pure, Except.pure]

/-- The tokens cut from a place on are those of the rest of the text. -/
theorem tokensAt_eq {rounds line : Nat} {rest : List Char} {last : Option Kind} (front : List Char)
    (before : List Token) (enough : rest.length ≤ rounds)
    (known : (before.reverse.find? Token.isMeaningful).map Token.kind = last) :
    tokensAt rounds (front ++ rest) before line front.length
      = settled ((tokensFrom line last rest).map (before ++ ·)) := by
  induction rounds generalizing front rest before line last with
  | zero =>
    obtain rfl := List.length_eq_zero_iff.mp (Nat.le_zero.mp enough)
    exact tokensAt_nil 0 line front before last
  | succ rounds ih =>
    cases rest with
    | nil => exact tokensAt_nil (rounds + 1) line front before last
    | cons c rest =>
      rw [tokensAt, if_pos (by simp), tokensFrom, cutAt_eq _ _ _ _ known]
      cases found : cut last c rest with
      | error fault => rfl
      | ok piece =>
        obtain ⟨taken, parts, -⟩ := cut_spells found
        have shorter := cut_length found
        have next : (front ++ c :: rest).length - piece.rest.length = (front ++ taken).length := by
          rw [parts, ← List.append_assoc, List.length_append, Nat.add_sub_cancel]
        simp only [bind, Except.bind, next]
        rw [parts, ← List.append_assoc]
        rw [List.length_cons] at enough
        cases kinds : piece.kind with
        | none =>
          rw [Option.toList_none, List.map_nil, List.append_nil]
          exact ih _ _ (by omega) known
        | some kind =>
          have fewer : piece.rest.length ≤ rounds := by omega
          rw [Option.toList_some, List.map_singleton, ih _ _ fewer (last_append kind line known)]
          dsimp only
          generalize tokensFrom (line + piece.breaks) (if kind.isMeaningful then some kind else last)
            piece.rest = result
          cases result <;> simp [settled, Except.map, Except.mapError]

/-- Cutting by place neither crashes nor hangs: it comes to the tokens, or to the fault. -/
theorem tokens_eq (script : String) : tokens script = settled (Script.tokens script) := by
  have whole : tokens script = settled ((Script.tokens script).map ([] ++ ·)) :=
    tokensAt_eq [] [] (Nat.le_refl _) rfl
  rw [whole]
  cases Script.tokens script <;> rfl

section Dollars
open Literal

/-- The place behind a path of names joined by points. -/
def pathEnd (chars : List Char) (i : Nat) : Nat :=
  if inside : i < chars.length then
    if Text.isAlphanumeric chars[i] || chars[i] == '_'
        || (chars[i] == '.' && (chars[i + 1]?.map Text.isAlphabetic).getD false) then
      pathEnd chars (i + 1)
    else i
  else i
termination_by chars.length - i

/-- The body of a template for a string with dollar signs, from a place on, in no more rounds than
there are characters. -/
def interpolatedAt (rounds : Nat) (chars : List Char) (i : Nat) : Outcome (List Char) :=
  if inside : i < chars.length then
    match rounds with
    | 0 => .error .hang
    | rounds + 1 =>
      let c := chars[i]
      if c == '\\' && decide (i + 1 < chars.length) then do
        let other ← fetch chars (i + 1)
        let more ← interpolatedAt rounds chars (i + 2)
        pure ((if other == 'n' then '\n' else if other == 't' then '\t' else other) :: more)
      else if c.toNat == 96 then do
        pure ('\\' :: Char.ofNat 96 :: (← interpolatedAt rounds chars (i + 1)))
      else if c == '$' && (chars[i + 1]?.map isPathStart).getD false then do
        let stop := pathEnd chars (i + 1)
        let path ← slice chars (i + 1) stop
        pure (['$', '{'] ++ path ++ '}' :: (← interpolatedAt rounds chars stop))
      else do pure (c :: (← interpolatedAt rounds chars (i + 1)))
  else pure []

/-- A literal for a string in which dollar signs may stand for expressions. -/
def withDollars (body : List Char) : Outcome (List Char) :=
  if interpolates body then do pure (template (← interpolatedAt body.length body 0))
  else pure (quote body)

theorem pathEnd_eq (chars : List Char) (i : Nat) :
    pathEnd chars i = i + (pathRest (chars.drop i)).1.length := by
  fun_induction pathEnd chars i with
  | case1 i inside path ih =>
    rw [← List.head?_drop] at path
    rw [List.drop_eq_getElem_cons inside, pathRest, if_pos path, ih, List.length_cons]
    omega
  | case2 i inside ends =>
    rw [← List.head?_drop] at ends
    rw [List.drop_eq_getElem_cons inside, pathRest, if_neg ends]
    rfl
  | case3 i outside =>
    rw [List.drop_eq_nil_of_le (by omega)]
    rfl

theorem interpolatedAt_eq {rounds i : Nat} {chars : List Char}
    (enough : chars.length - i ≤ rounds) :
    interpolatedAt rounds chars i = .ok (interpolated (chars.drop i)) := by
  induction rounds generalizing i with
  | zero =>
    rw [interpolatedAt.eq_def, dif_neg (by omega), List.drop_eq_nil_of_le (by omega), interpolated]
    rfl
  | succ rounds ih =>
    by_cases inside : i < chars.length
    · rw [interpolatedAt, dif_pos inside, List.drop_eq_getElem_cons inside, interpolated.eq_def]
      generalize chars[i] = c
      simp only [← List.head?_drop]
      by_cases escape : (c == '\\') = true
      · rw [if_pos escape]
        obtain rfl := beq_iff_eq.mp escape
        by_cases more : i + 1 < chars.length
        · rw [if_pos (by simpa using more), List.drop_eq_getElem_cons more,
            fetch_eq (List.getElem?_eq_getElem more), ih (by omega)]
          generalize chars[i + 1] = other
          by_cases n : other = 'n'
          · subst n
            rfl
          by_cases t : other = 't'
          · subst t
            rfl
          simp [n, t, bind, Except.bind, pure, Except.pure]
        · rw [if_neg (by simpa using more), List.drop_eq_nil_of_le (by omega), ih (by omega),
            List.drop_eq_nil_of_le (by omega), interpolated]
          rfl
      rw [if_neg escape, if_neg (by simp [escape])]
      by_cases tick : (c.toNat == 96) = true
      · rw [if_pos tick, if_pos tick, ih (by omega)]
        rfl
      rw [if_neg tick, if_neg tick]
      by_cases dollar : (c == '$' && ((chars.drop (i + 1)).head?.map isPathStart).getD false) = true
      · have parts := (pathRest_eq (chars.drop (i + 1))).symm
        obtain ⟨cut, behind⟩ := slice_drop (Nat.succ_le_of_lt inside) parts
        rw [if_pos dollar, if_pos dollar, pathEnd_eq, cut, ih (by omega), behind]
        rfl
      rw [if_neg dollar, if_neg dollar, ih (by omega)]
      rfl
    · rw [interpolatedAt, dif_neg inside, List.drop_eq_nil_of_le (by omega), interpolated]
      rfl

theorem withDollars_eq (body : List Char) : withDollars body = .ok (Literal.withDollars body) := by
  rw [withDollars, Literal.withDollars, interpolatedAt_eq (Nat.le_of_eq (Nat.sub_zero _))]
  split <;> rfl

end Dollars

end ApiProbe.Script.Placed
