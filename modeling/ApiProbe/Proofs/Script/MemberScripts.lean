import ApiProbe.Proofs.Plain.Members
import ApiProbe.Proofs.Script.Inert

/-!
Scripts that read one member of the response by its name. Lowering leaves such a script as it is, but for
the names that are put differently behind a point.
-/
namespace ApiProbe.Script
open Plain
variable {c : Char} {rest after : List Char} {last : Option Kind} {line : Nat} {name : String}

section Cuts

theorem isWordPart_of_isNamePart (part : isNamePart c = true) : isWordPart c = true := by
  have ascii : c.toNat < 128 := by
    rw [isNamePart_iff, isNameStart_iff] at part
    omega
  simp only [isNamePart, Char.isAlphanum, Bool.or_eq_true] at part
  simp only [isWordPart, Text.isAlphanumeric, Text.isAlphabetic, Text.isNumeric, ascii, if_true,
    Bool.or_eq_true]
  exact .inl part

theorem isWordStart_of_isNameStart (start : isNameStart c = true) : isWordStart c = true := by
  have ascii : c.toNat < 128 := by
    rw [isNameStart_iff] at start
    omega
  simp only [isNameStart, Bool.or_eq_true] at start
  simp only [isWordStart, Text.isAlphabetic, ascii, if_true, Bool.or_eq_true]
  exact .inl start

/-- A name is cut off as a word. -/
theorem cut_name (start : isNameStart c = true) (part : ∀ d ∈ rest, isNamePart d = true)
    (ends : after.head?.any isWordPart = false) :
    cut last c (rest ++ after) = .ok ⟨some (.word (String.ofList (c :: rest))), after, 0⟩ := by
  have inside : ∀ d ∈ rest, isWordPart d = true := fun d member => isWordPart_of_isNamePart (part d member)
  have boundary : ∀ d, after.head? = some d → isWordPart d = false := fun d first => by
    simpa [first] using ends
  obtain ⟨taken, left⟩ := Text.span_of_boundary isWordPart inside boundary
  have newline := ne_of_isNameStart start (d := '\n') (by decide)
  have return_ := ne_of_isNameStart start (d := '\r') (by decide)
  have slash := ne_of_isNameStart start (d := '/') (by decide)
  have double := ne_of_isNameStart start (d := '"') (by decide)
  have single := ne_of_isNameStart start (d := '\'') (by decide)
  simp only [cut, newline, return_, slash, double, single, isBlank_of_isNameStart start,
    tick_of_isNameStart start, isDigit_of_isNameStart start, isWordStart_of_isNameStart start, taken, left,
    Bool.false_and, Bool.or_false, Bool.false_eq_true, if_false, if_true]

/-- The point and the parentheses are cut off by themselves, where no longer sign starts with them. -/
theorem cut_mark (mark : c ∈ ['.', '(', ')'])
    (single : signs.find? (fun sign => sign.toList.isPrefixOf (c :: rest)) = some (String.singleton c)) :
    cut last c rest = .ok ⟨some (.sign (String.singleton c)), rest, 0⟩ := by
  have others : ∀ d ∈ ['.', '(', ')'], (d == '\n') = false ∧ (d == '\r') = false ∧ Text.isBlank d = false ∧
      (d == '/') = false ∧ (d == '"' || d == '\'') = false ∧ (d.toNat == 96) = false ∧ d.isDigit = false ∧
      isWordStart d = false := by
    simp only [List.forall_mem_cons]
    exact ⟨by decide, by decide, by decide, nofun⟩
  obtain ⟨newline, return_, blank, slash, quote, tick, digit, letter⟩ := others c mark
  simp only [cut, cutSign, single, newline, return_, blank, slash, quote, tick, digit, letter,
    String.length_singleton, Bool.false_and, Bool.false_eq_true, if_false, Nat.max_self, List.drop_succ_cons,
    List.drop_zero]

end Cuts

section Tokens

theorem tokensFrom_name (identifier : isIdentifier name = true) (ends : after.head?.any isWordPart = false) :
    tokensFrom line last (name.toList ++ after) =
      (tokensFrom line (some (.word name)) after).map (⟨.word name, line⟩ :: ·) := by
  obtain ⟨c, rest, spelled, start, part⟩ := isIdentifier_iff.mp identifier
  have whole : String.ofList (c :: rest) = name := by rw [← spelled, String.ofList_toList]
  rw [spelled, List.cons_append, tokensFrom_of_ok (cut_name start part ends), whole]
  rfl

/-- A point in front of a name is by itself. -/
theorem tokensFrom_point (identifier : isIdentifier name = true) :
    tokensFrom line last ('.' :: (name.toList ++ after)) =
      (tokensFrom line (some (.sign ".")) (name.toList ++ after)).map (⟨.sign ".", line⟩ :: ·) := by
  obtain ⟨c, rest, spelled, start, -⟩ := isIdentifier_iff.mp identifier
  have other : ('.' == c) = false := by
    rw [beq_eq_false_iff_ne]
    rintro rfl
    exact absurd start (by decide)
  rw [spelled]
  exact tokensFrom_of_ok (cut_mark (by decide) (by simp [signs, List.isPrefixOf, other]))

theorem tokensFrom_paren (mark : c ∈ ['(', ')']) :
    tokensFrom line last (c :: after) =
      (tokensFrom line (some (.sign (String.singleton c))) after).map
        (⟨.sign (String.singleton c), line⟩ :: ·) := by
  have single :
      signs.find? (fun sign => sign.toList.isPrefixOf (c :: after)) = some (String.singleton c) := by
    rcases (by simpa using mark : c = '(' ∨ c = ')') with rfl | rfl <;> simp [signs, List.isPrefixOf]
  exact tokensFrom_of_ok (cut_mark (List.mem_cons_of_mem _ mark) single)

/-- What the script reads the member from. -/
def memberFront : List Token :=
  [⟨.word "pm", 1⟩, ⟨.sign ".", 1⟩, ⟨.word "response", 1⟩, ⟨.sign ".", 1⟩, ⟨.word "json", 1⟩, ⟨.sign "(", 1⟩,
    ⟨.sign ")", 1⟩, ⟨.sign ".", 1⟩]

theorem tokens_memberScript (identifier : isIdentifier name = true) :
    tokens (memberScript name) = .ok (memberFront ++ [⟨.word name, 1⟩]) := by
  have point : isWordPart '.' = false := by decide
  have paren : isWordPart '(' = false := by decide
  rw [tokens, toList_memberScript, ← List.append_nil name.toList,
    tokensFrom_name (by decide) (by simp [point]), tokensFrom_point (by decide),
    tokensFrom_name (by decide) (by simp [point]), tokensFrom_point (by decide),
    tokensFrom_name (by decide) (by simp [paren]), tokensFrom_paren (by decide),
    tokensFrom_paren (by decide), tokensFrom_point identifier, tokensFrom_name identifier rfl, tokensFrom]
  rfl

end Tokens

section Steps
open Lowering
variable {language : Language} {state : State} {before rest : List Token} {point : Token}
  {output : Output} {frames : List Frame} {callables : List String} {kinds : Option FrameKind}

/-- Functions that are put differently when they are called. -/
def callNames : List String := ["expect", "equal", "equals", "replace", "replaceAll"]

/-- A name behind a point is written as that of a property. -/
theorem step_property (sign : point.kind = .sign ".") (other : name ∉ callNames ∨ rest = []) :
    step .javaScript state ⟨point :: before, ⟨.word name, line⟩, rest⟩ =
      .ok (state.emit (renamed name), 0) := by
  have afterDot : (Spot.mk (point :: before) ⟨.word name, line⟩ rest).afterDot = true := by
    simp [Spot.afterDot, Spot.lastIsSign, Spot.last?, Token.isMeaningful, Kind.isMeaningful, Token.sign?,
      sign]
  have plain : stringMethod? .javaScript name rest = none := by
    unfold stringMethod?
    rcases other with other | rfl
    · simp only [callNames, List.mem_cons, List.not_mem_nil, or_false, not_or] at other
      split
      · rfl
      · simp [other]
    · rfl
  have unbound :
      (if ["expect", "equal", "equals"].contains name then boundCall? name true rest else none) = none := by
    rcases other with other | rfl
    · simp only [callNames, List.mem_cons, List.not_mem_nil, or_false, not_or] at other
      simp [other]
    · simp [boundCall?]
  simp only [step, Lowering.word, afterDot, plain, unbound, if_true, Option.getD_none]

theorem step_point : step .javaScript state ⟨before, ⟨.sign ".", line⟩, rest⟩ = .ok (state.emit ".", 0) := by
  simp [step, Lowering.sign]

/-- What is called without arguments is written as it is. -/
theorem step_call :
    step .javaScript ⟨output, frames, callables, kinds⟩
        ⟨before, ⟨.sign "(", line⟩, ⟨.sign ")", line⟩ :: ⟨.sign ".", line⟩ :: rest⟩ =
      .ok (⟨output.emit "(", ⟨.paren, ")", line⟩ :: frames, callables, kinds⟩, 0) := rfl

theorem step_called :
    step .javaScript ⟨output, ⟨.paren, ")", line⟩ :: frames, callables, kinds⟩
        ⟨before, ⟨.sign ")", line⟩, rest⟩ =
      .ok (⟨output.emit ")", frames, callables, some .paren⟩, 0) := rfl

theorem steps_cons {next : State} {token : Token}
    (stepped : step language state ⟨before, token, rest⟩ = .ok (next, 0)) :
    steps language state before (token :: rest) = steps language next (token :: before) rest :=
  (steps_of_ok stepped).1

/-- Lowering puts the name of the member as it puts every name behind a point. -/
theorem lower_memberScript (identifier : isIdentifier name = true) :
    lower .javaScript (memberScript name) = .ok (memberScript (renamed name)) := by
  have root (rest : List Token) : step .javaScript .start ⟨[], ⟨.word "pm", 1⟩, ⟨.sign ".", 1⟩ :: rest⟩ =
      .ok (State.start.emit "pm", 0) := rfl
  have done : steps .javaScript .start [] (memberFront ++ [⟨.word name, 1⟩]) =
      .ok ⟨⟨[renamed name, ".", ")", "(", "json", ".", "response", ".", "pm"], []⟩, [], [], some .paren⟩ := by
    simp only [memberFront, List.cons_append, List.nil_append]
    rw [steps_cons (root _), steps_cons step_point, steps_cons (step_property rfl (.inl (by decide))),
      steps_cons step_point, steps_cons (step_property rfl (.inl (by decide))), steps_cons step_call,
      steps_cons step_called, steps_cons step_point, steps_cons (step_property rfl (.inr rfl)), steps]
    rfl
  have front : String.join ["pm", ".", "response", ".", "json", "(", ")", "."] = "pm.response.json()." := by
    simp [String.join]
  have text : String.join (["pm", ".", "response", ".", "json", "(", ")", "."] ++ [renamed name]) =
      memberScript (renamed name) :=
    String.join_append.trans (congrArg₂ (· ++ ·) front (by simp [String.join]))
  rw [lower, tokens_memberScript identifier]
  simp only [bind, Except.bind, done]
  exact congrArg Except.ok text

end Steps

end ApiProbe.Script
