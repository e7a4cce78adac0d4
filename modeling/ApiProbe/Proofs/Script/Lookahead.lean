import ApiProbe.Script.Lowering

/-!
What the lowering finds ahead of a token, as parts of the tokens that follow. Nothing is passed over
without being part of a split, and what heads of functions and loops pass over is clear of literals
and brackets.
-/
namespace ApiProbe.Script

def Kind.isLiteral : Kind → Bool
  | .quoted .. | .template _ | .regex .. => true
  | _ => false

namespace Token
variable {token : Token}

theorem kind_of_isSign {text : String} (is : token.isSign text = true) :
    token.kind = .sign text :=
  beq_iff_eq.mp is

theorem kind_of_word? {text : String} (is : token.word? = some text) :
    token.kind = .word text := by
  unfold word? at is
  split at is
  · cases is
    assumption
  · cases is

theorem isMeaningful_of_isLiteral (literal : token.kind.isLiteral = true) :
    token.isMeaningful = true := by
  unfold isMeaningful
  cases kind : token.kind <;> rw [kind] at literal <;> first | rfl | cases literal

end Token

namespace Lowering

/-- Tokens that carry no meaning. -/
def Blank (tokens : List Token) : Prop := ∀ token ∈ tokens, token.isMeaningful = false

/-- Tokens without a literal among them. -/
def Bare (tokens : List Token) : Prop := ∀ token ∈ tokens, token.kind.isLiteral = false

theorem bare_nil : Bare [] := fun _ member => by cases member

theorem Bare.cons {token : Token} {rest : List Token} (own : token.kind.isLiteral = false)
    (bare : Bare rest) : Bare (token :: rest) := by
  rintro other (_ | ⟨_, member⟩)
  · exact own
  · exact bare other member

theorem Bare.append {first second : List Token} (one : Bare first) (two : Bare second) :
    Bare (first ++ second) := by
  intro token member
  rcases List.mem_append.mp member with left | right
  · exact one token left
  · exact two token right

theorem Bare.take {tokens : List Token} (bare : Bare tokens) (n : Nat) : Bare (tokens.take n) :=
  fun token member => bare token (List.mem_of_mem_take member)

/-- Only tokens with meaning can be literals. -/
theorem bare_of_meaningful {tokens : List Token} (bare : Bare (meaningful tokens)) :
    Bare tokens := by
  intro token member
  by_cases meant : token.isMeaningful = true
  · exact bare token (List.mem_filter.mpr ⟨member, meant⟩)
  · exact Bool.eq_false_iff.mpr fun literal => meant (Token.isMeaningful_of_isLiteral literal)

theorem meaningful_append (first second : List Token) :
    meaningful (first ++ second) = meaningful first ++ meaningful second :=
  List.filter_append ..

theorem meaningful_blank {tokens : List Token} (blank : Blank tokens) : meaningful tokens = [] :=
  List.filter_eq_nil_iff.mpr fun token member => by simp [blank token member]

theorem Blank.bare {tokens : List Token} (blank : Blank tokens) : Bare tokens :=
  bare_of_meaningful (by rw [meaningful_blank blank]; exact bare_nil)

theorem bare_sign {token : Token} {text : String} (is : token.isSign text = true) :
    token.kind.isLiteral = false := by
  rw [Token.kind_of_isSign is]
  rfl

theorem bare_word {token : Token} {text : String} (is : token.word? = some text) :
    token.kind.isLiteral = false := by
  rw [Token.kind_of_word? is]
  rfl

/-- Tokens without a literal or a bracket among them. -/
def Clear (tokens : List Token) : Prop := ∀ token ∈ tokens,
  token.kind.isLiteral = false ∧ isOpening token = false ∧ isClosing token = false

theorem clear_nil : Clear [] := fun _ member => by cases member

theorem Clear.cons {token : Token} {rest : List Token}
    (own : token.kind.isLiteral = false ∧ isOpening token = false ∧ isClosing token = false)
    (clear : Clear rest) : Clear (token :: rest) :=
  List.forall_mem_cons.mpr ⟨own, clear⟩

theorem Clear.append {first second : List Token} (one : Clear first) (two : Clear second) :
    Clear (first ++ second) :=
  List.forall_mem_append.mpr ⟨one, two⟩

theorem Clear.bare {tokens : List Token} (clear : Clear tokens) : Bare tokens :=
  fun token member => (clear token member).1

/-- Only signs are brackets. -/
theorem not_bracket_of_sign? {token : Token} (is : token.sign? = none) :
    isOpening token = false ∧ isClosing token = false := by
  have other (text : String) : token.isSign text = false := by
    refine Bool.eq_false_iff.mpr fun same => ?_
    rw [Token.sign?, Token.kind_of_isSign same] at is
    cases is
  simp [isOpening, isClosing, other]

theorem clear_word {token : Token} {text : String} (is : token.word? = some text) :
    token.kind.isLiteral = false ∧ isOpening token = false ∧ isClosing token = false :=
  ⟨bare_word is, not_bracket_of_sign? (by rw [Token.sign?, Token.kind_of_word? is])⟩

def brackets : List String := ["(", "[", "\x7b", ")", "]", "\x7d"]

/-- Signs that are not brackets. -/
theorem clear_sign {token : Token} {text : String} (is : token.isSign text = true)
    (other : text ∉ brackets := by decide) :
    token.kind.isLiteral = false ∧ isOpening token = false ∧ isClosing token = false := by
  have apart (bracket : String) (member : bracket ∈ brackets) : token.isSign bracket = false := by
    rw [Token.isSign, Token.kind_of_isSign is, beq_eq_false_iff_ne]
    rintro ⟨⟩
    exact other member
  refine ⟨bare_sign is, ?_, ?_⟩
  · rw [isOpening, apart "(" (by decide), apart "[" (by decide), apart "\x7b" (by decide)]
    rfl
  · rw [isClosing, apart ")" (by decide), apart "]" (by decide), apart "\x7d" (by decide)]
    rfl

/-- Only tokens with meaning can be literals or brackets. -/
theorem clear_of_meaningful {tokens : List Token} (clear : Clear (meaningful tokens)) :
    Clear tokens := by
  intro token member
  by_cases meant : token.isMeaningful = true
  · exact clear token (List.mem_filter.mpr ⟨member, meant⟩)
  · refine ⟨Bool.eq_false_iff.mpr fun literal => meant (Token.isMeaningful_of_isLiteral literal),
      not_bracket_of_sign? ?_⟩
    unfold Token.sign?
    split
    · rename_i text kind
      rw [Token.isMeaningful, kind] at meant
      exact (meant rfl).elim
    · rfl

theorem Blank.clear {tokens : List Token} (blank : Blank tokens) : Clear tokens :=
  clear_of_meaningful (by rw [meaningful_blank blank]; exact clear_nil)

theorem ahead?_eq {tokens : List Token} {found : Ahead} (is : ahead? tokens = some found) :
    ∃ passed, tokens = passed ++ found.token :: found.rest ∧ passed.length = found.passed ∧
      Blank passed ∧ found.token.isMeaningful = true := by
  induction tokens generalizing found with
  | nil => cases is
  | cons token rest ih =>
    rw [ahead?] at is
    split at is
    · rename_i meant
      cases is
      exact ⟨[], rfl, rfl, (fun _ member => by cases member), meant⟩
    · rename_i blank
      obtain ⟨inner, inside, same⟩ := Option.map_eq_some_iff.mp is
      cases same
      obtain ⟨passed, parts, long, kept, meant⟩ := ih inside
      refine ⟨token :: passed, by rw [parts]; rfl, by simp [long], ?_, meant⟩
      rintro other (_ | ⟨_, member⟩)
      · exact Bool.eq_false_iff.mpr blank
      · exact kept other member

theorem ahead?_none {tokens : List Token} (is : ahead? tokens = none) :
    meaningful tokens = [] := by
  induction tokens with
  | nil => rfl
  | cons token rest ih =>
    rw [ahead?] at is
    split at is
    · cases is
    · rename_i blank
      rw [meaningful, List.filter_cons_of_neg blank]
      exact ih (Option.map_eq_none_iff.mp is)

theorem aheadSign?_eq {tokens : List Token} {sign : String} {found : Ahead}
    (is : aheadSign? tokens sign = some found) :
    ∃ passed, tokens = passed ++ found.token :: found.rest ∧ passed.length = found.passed ∧
      Blank passed ∧ found.token.isSign sign = true := by
  rw [aheadSign?, Option.filter_eq_some_iff] at is
  obtain ⟨passed, parts, long, blank, -⟩ := ahead?_eq is.1
  exact ⟨passed, parts, long, blank, is.2⟩

theorem bare_of_isClosing {token : Token} (closing : isClosing token = true) :
    token.kind.isLiteral = false := by
  simp only [isClosing, Bool.or_eq_true] at closing
  rcases closing with (is | is) | is <;> exact bare_sign is

theorem splitClosing?_eq {depth : Nat} {tokens inner after : List Token} {last : Token}
    (is : splitClosing? depth tokens = some (inner, last, after)) :
    tokens = inner ++ last :: after ∧ isClosing last = true := by
  induction tokens generalizing depth inner with
  | nil => cases is
  | cons token rest ih =>
    have keeps {deeper : Nat} (kept : (splitClosing? deeper rest).map
        (fun found => (token :: found.1, found.2)) = some (inner, last, after)) :
        token :: rest = inner ++ last :: after ∧ isClosing last = true := by
      obtain ⟨⟨before, close, behind⟩, inside, same⟩ := Option.map_eq_some_iff.mp kept
      cases same
      obtain ⟨parts, sign⟩ := ih inside
      exact ⟨by rw [parts]; rfl, sign⟩
    simp only [splitClosing?] at is
    split at is
    · exact keeps is
    · split at is
      · rename_i closing
        split at is
        · cases is
          exact ⟨rfl, closing⟩
        · exact keeps is
      · exact keeps is

theorem splitSemicolon?_eq {tokens before after : List Token}
    (is : splitSemicolon? tokens = some (before, after)) :
    ∃ mark : Token, tokens = before ++ mark :: after ∧ mark.isSign ";" = true := by
  induction tokens generalizing before with
  | nil => cases is
  | cons token rest ih =>
    rw [splitSemicolon?] at is
    split at is
    · rename_i sign
      cases is
      exact ⟨token, rfl, sign⟩
    · obtain ⟨⟨front, behind⟩, inside, same⟩ := Option.map_eq_some_iff.mp is
      cases same
      obtain ⟨mark, parts, sign⟩ := ih inside
      exact ⟨mark, by rw [parts]; rfl, sign⟩

/-- What is dropped has the first meaningful tokens. -/
theorem dropMeaningful_eq (n : Nat) (tokens : List Token) :
    ∃ front, tokens = front ++ dropMeaningful n tokens ∧
      meaningful front = (meaningful tokens).take n := by
  induction n generalizing tokens with
  | zero => exact ⟨[], rfl, by simp [meaningful]⟩
  | succ n ih =>
    rw [dropMeaningful]
    cases found : ahead? tokens with
    | none => exact ⟨tokens, by simp, by rw [ahead?_none found]; rfl⟩
    | some next =>
      obtain ⟨passed, parts, -, blank, meant⟩ := ahead?_eq found
      obtain ⟨front, behind, kept⟩ := ih next.rest
      have single (rest : List Token) :
          meaningful (next.token :: rest) = next.token :: meaningful rest :=
        List.filter_cons_of_pos meant
      refine ⟨passed ++ next.token :: front, ?_, ?_⟩
      · rw [List.append_assoc, List.cons_append, ← behind, ← parts]
      · rw [parts, meaningful_append, meaningful_append, meaningful_blank blank, single, single,
          kept]
        rfl

/-- Parameters are words with commas between them. -/
theorem parameters_clear {inner : List Token} {names : List String}
    (done : parameters inner = .ok names) :
    Clear inner ∧ ∀ name ∈ names, ∃ token ∈ inner, token.kind = .word name := by
  induction inner generalizing names with
  | nil =>
    cases done
    exact ⟨clear_nil, fun _ member => by cases member⟩
  | cons token rest ih =>
    rw [parameters] at done
    split at done
    · rename_i name kind
      cases inside : parameters rest with
      | error error =>
        rw [inside] at done
        cases done
      | ok more =>
        rw [inside] at done
        cases done
        obtain ⟨clear, known⟩ := ih inside
        have word : token.word? = some name := by rw [Token.word?, kind]
        refine ⟨clear.cons (clear_word word), ?_⟩
        rintro other (_ | ⟨_, member⟩)
        · exact ⟨token, List.mem_cons_self, kind⟩
        · obtain ⟨source, present, same⟩ := known other member
          exact ⟨source, List.mem_cons_of_mem _ present, same⟩
    · split at done
      · rename_i passes
        obtain ⟨clear, known⟩ := ih done
        refine ⟨clear.cons ?_, fun name member => ?_⟩
        · rcases Bool.or_eq_true_iff.mp passes with comma | blank
          · exact clear_sign comma
          · have single : Blank [token] := by simpa [Blank, Token.isMeaningful] using blank
            exact single.clear token (List.mem_singleton_self token)
        · obtain ⟨source, present, same⟩ := known name member
          exact ⟨source, List.mem_cons_of_mem _ present, same⟩
      · cases done

theorem memberPath_eq (tokens : List Token) :
    Clear (memberPath tokens) ∧ ∃ more, tokens = memberPath tokens ++ more := by
  fun_induction memberPath tokens with
  | case1 point name rest path ih =>
    obtain ⟨clear, more, parts⟩ := ih
    simp only [Bool.and_eq_true] at path
    obtain ⟨text, word⟩ := Option.isSome_iff_exists.mp path.2
    refine ⟨(clear.cons (clear_word word)).cons (clear_sign path.1), more, ?_⟩
    rw [List.cons_append, List.cons_append, ← parts]
  | case2 point name rest => exact ⟨clear_nil, point :: name :: rest, rfl⟩
  | case3 tokens => exact ⟨clear_nil, tokens, rfl⟩

theorem meaningful_ahead {tokens : List Token} {found : Ahead}
    (is : ahead? tokens = some found) :
    meaningful tokens = found.token :: meaningful found.rest := by
  obtain ⟨passed, parts, -, blank, meant⟩ := ahead?_eq is
  rw [parts, meaningful_append, meaningful_blank blank]
  exact List.filter_cons_of_pos meant

private theorem bare_countsUp {name : String} {step : List Token} (counts : countsUp name step = true) :
    Bare step := by
  unfold countsUp at counts
  split at counts
  · simp only [Bool.or_eq_true, Bool.and_eq_true] at counts
    rcases counts with ⟨word, sign⟩ | ⟨sign, word⟩
    · exact .cons (by rw [beq_iff_eq.mp word]; rfl) (.cons (bare_sign sign) bare_nil)
    · exact .cons (bare_sign sign) (.cons (by rw [beq_iff_eq.mp word]; rfl) bare_nil)
  · simp only [Bool.and_eq_true] at counts
    obtain ⟨⟨word, sign⟩, number⟩ := counts
    exact .cons (by rw [beq_iff_eq.mp word]; rfl)
      (.cons (bare_sign sign) (.cons (by rw [beq_iff_eq.mp number]; rfl) bare_nil))
  · cases counts

/-- A part that begins with a name and a sign, and what comes behind these. -/
private theorem named_part {part : List Token} {name sign : String} {second : Token}
    (named : ((ahead? part).bind fun found => found.token.word?) = some name)
    (at_ : (meaningful part)[1]? = some second) (is : second.isSign sign = true) :
    ∃ front, part = front ++ dropMeaningful 2 part ∧ Bare front ∧
      ∃ token ∈ part, token.kind = .word name := by
  obtain ⟨found, ahead, word⟩ := Option.bind_eq_some_iff.mp named
  obtain ⟨passed, parts, -, -, -⟩ := ahead?_eq ahead
  obtain ⟨front, whole, kept⟩ := dropMeaningful_eq 2 part
  rw [meaningful_ahead ahead] at at_ kept
  refine ⟨front, whole, bare_of_meaningful ?_, found.token, ?_, Token.kind_of_word? word⟩
  · cases behind : meaningful found.rest with
    | nil =>
      rw [behind] at at_
      cases at_
    | cons other rest =>
      rw [behind] at at_ kept
      cases at_
      rw [kept]
      exact .cons (bare_word word) (.cons (bare_sign is) bare_nil)
  · rw [parts]
    simp

/-- The head of a counting loop. Literals stand in its two bounds alone. -/
structure CountingHead where
  front : List Token
  first : List Token
  middle : List Token
  last : List Token
  step : List Token
  name : String
  range : String

structure CountingHead.Heads (head : CountingHead) (inner : List Token) (text : String) : Prop where
  whole : inner = head.front ++ head.first ++ head.middle ++ head.last ++ head.step
  front : Bare head.front
  middle : Bare head.middle
  step : Bare head.step
  written : text = s!"for {head.name} in ({render head.first}){head.range}({render head.last})"
  range : head.range = ".." ∨ head.range = "..="
  named : ∃ token ∈ inner, token.kind = .word head.name
  assigns : ∃ token, (meaningful inner)[1]? = some token ∧ token.isSign "=" = true

theorem countingHead?_eq {inner : List Token} {text : String}
    (is : countingHead? inner = some text) : ∃ head : CountingHead, head.Heads inner text := by
  simp only [countingHead?, bind, Option.bind_eq_some_iff] at is
  obtain ⟨⟨initial, afterInitial⟩, one, ⟨condition, step⟩, two, name, named, assigned, second,
    tested, compared, range, related, written⟩ := is
  obtain ⟨first_, parts, semicolon⟩ := splitSemicolon?_eq one
  obtain ⟨second_, parts', semicolon'⟩ := splitSemicolon?_eq two
  rw [Option.filter_eq_some_iff] at second
  obtain ⟨relation, there, sign⟩ := related
  have compares : ∃ text, relation.isSign text = true ∧ (range = ".." ∨ range = "..=") := by
    unfold rangeSign? at sign
    split at sign
    · rename_i less
      cases sign
      exact ⟨"<", less, .inl rfl⟩
    · split at sign
      · rename_i most
        cases sign
        exact ⟨"<=", most, .inr rfl⟩
      · cases sign
  obtain ⟨comparison, compares, ranges⟩ := compares
  obtain ⟨front, begins, bare, token, inside, word⟩ :=
    named_part (Option.bind_eq_some_iff.mpr named) second.1 second.2
  obtain ⟨middle, continues, bare', -⟩ :=
    named_part (Option.bind_eq_some_iff.mpr compared) there compares
  split at written
  · rename_i counts
    simp only [Bool.and_eq_true] at counts
    refine ⟨⟨front, dropMeaningful 2 initial, first_ :: middle, dropMeaningful 2 condition,
      second_ :: step, name, range⟩, ?_, bare, bare'.cons (bare_sign semicolon), ?_,
      (Option.some.inj written).symm, ranges, ⟨token, ?_, word⟩, assigned, ?_, second.2⟩
    · calc inner
        _ = initial ++ first_ :: (condition ++ second_ :: step) := by rw [parts, ← parts']
        _ = (front ++ dropMeaningful 2 initial)
            ++ first_ :: ((middle ++ dropMeaningful 2 condition) ++ second_ :: step) := by
          rw [← begins, ← continues]
        _ = _ := by simp
    · exact (bare_of_meaningful (bare_countsUp counts.2)).cons (bare_sign semicolon')
    · rw [parts]
      exact List.mem_append_left _ inside
    · rw [parts, meaningful_append,
        List.getElem?_append_left (List.getElem?_eq_some_iff.mp second.1).1]
      exact second.1
  · cases written

/-- The head of a closure ends with its arrow, and has words and commas before. -/
theorem closureHead?_eq {names found : List String} {places : List (Token × Nat)} {taken : Nat}
    (is : closureHead? names places = some (found, taken)) :
    ∃ front more, places = front ++ more ∧ Clear (front.map Prod.fst) ∧
      (∃ entry ∈ front, taken = entry.2 + 1) ∧
      ∀ name ∈ found, name ∈ names ∨ ∃ entry ∈ front, entry.1.kind = .word name := by
  fun_induction closureHead? names places with
  | case1 names first place rest arrow =>
    cases is
    exact ⟨[(first, place)], rest, rfl, .cons (clear_sign arrow) clear_nil,
      ⟨_, List.mem_singleton_self _, rfl⟩, fun name member => .inl (List.mem_reverse.mp member)⟩
  | case2 names first place _ name sign signPlace rest word comma ih =>
    obtain ⟨front, more, parts, clear, ⟨last, ends, same⟩, known⟩ := ih is
    refine ⟨(first, place) :: (sign, signPlace) :: front, more, by rw [parts]; rfl, ?_,
      ⟨last, by simp [ends], same⟩, fun other member => ?_⟩
    · exact .cons (clear_word word) (.cons (clear_sign comma) clear)
    · rcases known other member with before | ⟨entry, inside, kind⟩
      · rcases List.mem_cons.mp before with rfl | old
        · exact .inr ⟨_, List.mem_cons_self, Token.kind_of_word? word⟩
        · exact .inl old
      · exact .inr ⟨entry, by simp [inside], kind⟩
  | case3 names first place _ name sign signPlace rest word _ arrow =>
    cases is
    refine ⟨[(first, place), (sign, signPlace)], rest, rfl, ?_, ⟨(sign, signPlace), by simp, rfl⟩,
      fun other member => ?_⟩
    · exact .cons (clear_word word) (.cons (clear_sign arrow) clear_nil)
    · rcases List.mem_cons.mp (List.mem_reverse.mp member) with rfl | old
      · exact .inr ⟨_, List.mem_cons_self, Token.kind_of_word? word⟩
      · exact .inl old
  | case4 => cases is
  | case5 => cases is
  | case6 => cases is

/-- What the head of a closure takes up lies before everything else with a meaning. -/
theorem closureHead?_take {inner : List Token} {found : List String} {taken : Nat}
    (is : closureHead? [] (inner.zipIdx.filter fun entry => entry.1.isMeaningful)
      = some (found, taken)) :
    Clear (inner.take taken) ∧ taken ≤ inner.length ∧
      ∀ name ∈ found, ∃ token ∈ inner, token.kind = .word name := by
  obtain ⟨front, more, parts, clear, ⟨last, ends, same⟩, known⟩ := closureHead?_eq is
  have source {entry : Token × Nat} (member : entry ∈ front) : inner[entry.2]? = some entry.1 := by
    have present : entry ∈ inner.zipIdx.filter fun entry => entry.1.isMeaningful := by
      rw [parts]
      exact List.mem_append_left _ member
    exact List.mem_zipIdx_iff_getElem?.mp (List.mem_filter.mp present).1
  have sorted : (front ++ more).Pairwise fun a b => a.2 < b.2 := by
    rw [← parts]
    refine List.Pairwise.filter _ (List.pairwise_map.mp ?_)
    rw [List.zipIdx_map_snd]
    exact List.pairwise_lt_range'
  refine ⟨clear_of_meaningful fun token member => ?_, ?_, fun name member => ?_⟩
  · obtain ⟨inside, meant⟩ := List.mem_filter.mp member
    obtain ⟨i, short, here⟩ := List.mem_iff_getElem.mp inside
    rw [List.length_take] at short
    rw [List.getElem_take] at here
    have present : (token, i) ∈ front ++ more := by
      rw [← parts]
      refine List.mem_filter.mpr ⟨List.mem_zipIdx_iff_getElem?.mpr ?_, meant⟩
      rw [List.getElem?_eq_getElem (by omega), here]
    rcases List.mem_append.mp present with early | late
    · exact clear token (List.mem_map_of_mem early)
    · have beyond := (List.pairwise_append.mp sorted).2.2 last ends _ late
      simp only at beyond
      omega
  · rw [same]
    exact (List.getElem?_eq_some_iff.mp (source ends)).1
  · rcases known name member with ⟨⟨⟩⟩ | ⟨entry, inside, kind⟩
    exact ⟨entry.1, List.mem_of_getElem? (source inside), kind⟩

end Lowering
end ApiProbe.Script
