import ApiProbe.Proofs.Script.Rendering
import ApiProbe.Proofs.Script.BracketBreaks

/-!
What the lowering finds ahead and behind, in tokens that are alike. Everything it looks for is found in
both lists or in neither, and what is passed on the way is alike, so gaps do not show.
-/
namespace ApiProbe.Script

namespace Token
variable {token : Token}

theorem isGap_of_isMeaningful (meant : token.isMeaningful = true) : token.kind.isGap = false := by
  unfold isMeaningful at meant
  cases kind : token.kind <;> rw [kind] at meant <;> first | rfl | cases meant

theorem isMeaningful_of_isGap (gap : token.kind.isGap = true) : token.isMeaningful = false :=
  Bool.eq_false_iff.mpr fun meant => by rw [isGap_of_isMeaningful meant] at gap; cases gap

end Token

namespace Alike
variable {first second first' second' : List Token} {token : Token}

theorem append (one : Alike first second) (two : Alike first' second') :
    Alike (first ++ first') (second ++ second') := by
  induction one with
  | nil => exact two
  | cons solid alike ih => exact .cons solid ih
  | gap some_ gaps text line alike ih =>
    rw [List.append_assoc]
    exact .gap some_ gaps text line ih

theorem single (solid : token.kind.isGap = false) : Alike [token] [token] := .cons solid .nil

theorem reverse (alike : Alike first second) : Alike first.reverse second.reverse := by
  induction alike with
  | nil => exact .nil
  | cons solid alike ih =>
    rw [List.reverse_cons, List.reverse_cons]
    exact ih.append (.single solid)
  | @gap passed first second some_ gaps text line alike ih =>
    rw [List.reverse_append, List.reverse_cons]
    refine ih.append ?_
    have turned : Alike (passed.reverse ++ []) _ := .gap (by simpa using some_)
      (fun token member => gaps token (List.mem_reverse.mp member)) text line .nil
    rwa [List.append_nil] at turned

/-- A token that is no gap stands in both lists. -/
theorem uncons (alike : Alike (token :: first) second) (solid : token.kind.isGap = false) :
    ∃ rest, second = token :: rest ∧ Alike first rest := by
  generalize same : token :: first = whole at alike
  cases alike with
  | nil => cases same
  | cons _ alike =>
    cases same
    exact ⟨_, rfl, alike⟩
  | gap some_ gaps =>
    obtain ⟨other, more, rfl⟩ := List.exists_cons_of_ne_nil some_
    cases same
    rw [gaps token List.mem_cons_self] at solid
    cases solid

theorem uncons_right (alike : Alike first (token :: second)) (solid : token.kind.isGap = false) :
    ∃ rest, first = token :: rest ∧ Alike rest second := by
  generalize same : token :: second = whole at alike
  cases alike with
  | nil => cases same
  | cons _ alike =>
    cases same
    exact ⟨_, rfl, alike⟩
  | gap =>
    cases same
    cases solid

theorem meaningful (alike : Alike first second) :
    Lowering.meaningful first = Lowering.meaningful second := by
  induction alike with
  | nil => rfl
  | @cons token first second solid alike ih =>
    rw [← List.singleton_append, ← List.singleton_append (l := second),
      Lowering.meaningful_append, Lowering.meaningful_append, ih]
  | @gap passed first second some_ gaps text line alike ih =>
    have blank : Lowering.meaningful passed = [] := Lowering.meaningful_blank fun token member =>
      Token.isMeaningful_of_isGap (gaps token member)
    rw [Lowering.meaningful_append, blank, ih]
    rfl

/-- Line ends are no gaps. -/
theorem any_newline (alike : Alike first second) :
    first.any (fun token => token.kind == .newline)
      = second.any fun token => token.kind == .newline := by
  induction alike with
  | nil => rfl
  | cons solid alike ih => rw [List.any_cons, List.any_cons, ih]
  | @gap passed first second some_ gaps text line alike ih =>
    have none_ : passed.any (fun token => token.kind == .newline) = false := by
      refine List.any_eq_false.mpr fun token member is => ?_
      have gap := gaps token member
      rw [beq_iff_eq.mp is] at gap
      cases gap
    rw [List.any_append, none_, ih]
    rfl

theorem takeWhile_blank (alike : Alike first second) :
    Alike (first.takeWhile fun token => !token.isMeaningful)
      (second.takeWhile fun token => !token.isMeaningful) := by
  induction alike with
  | nil => exact .nil
  | @cons token first second solid alike ih =>
    cases meant : token.isMeaningful with
    | true =>
      rw [List.takeWhile_cons_of_neg (by simp [meant]), List.takeWhile_cons_of_neg (by simp [meant])]
      exact .nil
    | false =>
      rw [List.takeWhile_cons_of_pos (by simp [meant]), List.takeWhile_cons_of_pos (by simp [meant])]
      exact .cons solid ih
  | @gap passed first second some_ gaps text line alike ih =>
    rw [List.takeWhile_append_of_pos fun token member => by
      simp [Token.isMeaningful_of_isGap (gaps token member)], List.takeWhile_cons_of_pos rfl]
    exact .gap some_ gaps text line ih

/-- Gaps have no line ends. -/
theorem skippedBreaks (alike : Alike first second) :
    Lowering.skippedBreaks first = Lowering.skippedBreaks second := by
  induction alike with
  | nil => rfl
  | @cons token first second solid alike ih =>
    rw [← List.singleton_append, ← List.singleton_append (l := second),
      Lowering.skippedBreaks_append, Lowering.skippedBreaks_append, ih]
  | @gap passed first second some_ gaps text line alike ih =>
    have none_ : Lowering.skippedBreaks passed = 0 := by
      refine List.sum_eq_zero fun n member => ?_
      obtain ⟨token, inside, rfl⟩ := List.mem_map.mp member
      have gap := gaps token inside
      cases kind : token.kind with
      | comment text =>
        have flat : '\n' ∉ text.toList := by simpa [kind, Kind.isGap, Kind.isAside] using gap
        exact List.count_eq_zero.mpr flat
      | space text => rfl
      | _ => simp [kind, Kind.isGap, Kind.isAside] at gap
    rw [Lowering.skippedBreaks_append, none_, ih, Nat.zero_add]
    exact (Nat.zero_add _).symm

end Alike

/-- Both are there and related, or neither is there. -/
def Both {α β : Type} (related : α → β → Prop) (first : Option α) (second : Option β) : Prop :=
  (first = none ∧ second = none) ∨
    ∃ a b, first = some a ∧ second = some b ∧ related a b

theorem Both.filter {α β : Type} {related : α → β → Prop} {first : Option α} {second : Option β}
    {p : α → Bool} {q : β → Bool} (both : Both related first second)
    (same : ∀ a b, related a b → p a = q b) : Both related (first.filter p) (second.filter q) := by
  rcases both with ⟨rfl, rfl⟩ | ⟨a, b, rfl, rfl, is⟩
  · exact .inl ⟨rfl, rfl⟩
  · have alike := same a b is
    cases p_ : p a with
    | true => exact .inr ⟨a, b, by simp [p_], by simp [← alike, p_], is⟩
    | false => exact .inl ⟨by simp [p_], by simp [← alike, p_]⟩

theorem Both.map {α β γ δ : Type} {related : α → β → Prop} {related' : γ → δ → Prop}
    {first : Option α} {second : Option β} {f : α → γ} {g : β → δ} (both : Both related first second)
    (carries : ∀ a b, related a b → related' (f a) (g b)) :
    Both related' (first.map f) (second.map g) := by
  rcases both with ⟨rfl, rfl⟩ | ⟨a, b, rfl, rfl, is⟩
  · exact .inl ⟨rfl, rfl⟩
  · exact .inr ⟨f a, g b, rfl, rfl, carries a b is⟩

theorem Both.bind {α β γ δ : Type} {related : α → β → Prop} {related' : γ → δ → Prop}
    {first : Option α} {second : Option β} {f : α → Option γ} {g : β → Option δ}
    (both : Both related first second) (carries : ∀ a b, related a b → Both related' (f a) (g b)) :
    Both related' (first.bind f) (second.bind g) := by
  rcases both with ⟨rfl, rfl⟩ | ⟨a, b, rfl, rfl, is⟩
  · exact .inl ⟨rfl, rfl⟩
  · exact carries a b is

theorem Both.bind_same {α γ δ : Type} {related : γ → δ → Prop} {given : Option α}
    {f : α → Option γ} {g : α → Option δ}
    (carries : ∀ a, given = some a → Both related (f a) (g a)) :
    Both related (given.bind f) (given.bind g) := by
  cases given with
  | none => exact .inl ⟨rfl, rfl⟩
  | some a => exact carries a rfl

namespace Lowering
variable {first second : List Token}

/-- Gaps carry no meaning. -/
theorem blank_of_gaps {passed : List Token} (gaps : ∀ token ∈ passed, token.kind.isGap = true) :
    Blank passed :=
  fun token member => Token.isMeaningful_of_isGap (gaps token member)

theorem alike_gap {passed : List Token} (some_ : passed ≠ [])
    (gaps : ∀ token ∈ passed, token.kind.isGap = true) (text : String) (line : Nat) :
    Alike passed [⟨.space text, line⟩] := by
  have whole := Alike.gap some_ gaps text line .nil
  rwa [List.append_nil] at whole

/-- Numbers of tokens after which lists are alike, before and behind. -/
structure Parted (first second : List Token) (m n : Nat) : Prop where
  taken : Alike (first.take m) (second.take n)
  left : Alike (first.drop m) (second.drop n)

theorem Parted.zero (alike : Alike first second) : Parted first second 0 0 :=
  ⟨.nil, alike⟩

theorem Parted.of_append {front front' back back' : List Token} (taken : Alike front front')
    (left : Alike back back') :
    Parted (front ++ back) (front' ++ back') front.length front'.length := by
  constructor
  · rwa [List.take_left, List.take_left]
  · rwa [List.drop_left, List.drop_left]

/-- The next meaningful token of two lists that are alike. -/
structure Meets (first second : List Token) (found found' : Ahead) : Prop where
  same : found.token = found'.token
  meant : found.token.isMeaningful = true
  rest : Alike found.rest found'.rest
  parts : ∃ front front', Alike front front' ∧ first = front ++ found.token :: found.rest ∧
    second = front' ++ found'.token :: found'.rest ∧
    front.length = found.passed ∧ front'.length = found'.passed

theorem Meets.cons {found found' : Ahead} (meets : Meets first second found found')
    {passed passed' : List Token} (alike : Alike passed passed') :
    Meets (passed ++ first) (passed' ++ second)
      { found with passed := passed.length + found.passed }
      { found' with passed := passed'.length + found'.passed } := by
  obtain ⟨front, front', fronts, rfl, rfl, long, long'⟩ := meets.parts
  exact ⟨meets.same, meets.meant, meets.rest, passed ++ front, passed' ++ front',
    alike.append fronts, by simp, by simp, by simp [long], by simp [long']⟩

theorem ahead?_blank {passed : List Token} (blank : Blank passed) (rest : List Token) :
    ahead? (passed ++ rest) = (ahead? rest).map fun found =>
      { found with passed := passed.length + found.passed } := by
  induction passed with
  | nil => cases found : ahead? rest <;> simp [found]
  | cons token passed ih =>
    have own := blank token List.mem_cons_self
    rw [List.cons_append, ahead?, if_neg (by simp [own]),
      ih fun other member => blank other (List.mem_cons_of_mem _ member), Option.map_map]
    congr 1
    funext found
    simp only [Function.comp, List.length_cons, Ahead.mk.injEq, and_true]
    omega

theorem ahead?_alike (alike : Alike first second) :
    Both (Meets first second) (ahead? first) (ahead? second) := by
  have further {passed passed' first second : List Token}
      (both : Both (Meets first second) (ahead? first) (ahead? second))
      (blank : Blank passed) (blank' : Blank passed') (alike : Alike passed passed') :
      Both (Meets (passed ++ first) (passed' ++ second)) (ahead? (passed ++ first))
        (ahead? (passed' ++ second)) := by
    rw [ahead?_blank blank, ahead?_blank blank']
    exact both.map fun found found' meets => meets.cons alike
  induction alike with
  | nil => exact .inl ⟨rfl, rfl⟩
  | @cons token first second solid alike ih =>
    by_cases meant : token.isMeaningful = true
    · exact .inr ⟨⟨0, token, first⟩, ⟨0, token, second⟩, by simp [ahead?, meant],
        by simp [ahead?, meant], rfl, meant, alike, [], [], .nil, rfl, rfl, rfl, rfl⟩
    · have blank : Blank [token] := by simpa [Blank] using meant
      exact further ih blank blank (.single solid)
  | @gap passed first second some_ gaps text line alike ih =>
    exact further ih (blank_of_gaps gaps) (List.forall_mem_singleton.mpr rfl)
      (alike_gap some_ gaps text line)

theorem aheadSign?_alike (alike : Alike first second) (sign : String) :
    Both (Meets first second) (aheadSign? first sign) (aheadSign? second sign) :=
  (ahead?_alike alike).filter fun found found' meets => by rw [meets.same]

/-- Up to behind the token that is met. -/
theorem Meets.parted {found found' : Ahead} (meets : Meets first second found found') :
    Parted first second found.passed found'.passed ∧
      Parted first second (found.passed + 1) (found'.passed + 1) := by
  obtain ⟨front, front', fronts, rfl, rfl, long, long'⟩ := meets.parts
  have solid := Token.isGap_of_isMeaningful meets.meant
  have token : Alike [found.token] [found'.token] := meets.same ▸ .single solid
  constructor
  · rw [← long, ← long']
    exact .of_append fronts (token.append meets.rest)
  · have both := Parted.of_append (fronts.append token) meets.rest
    simpa [long, long'] using both

/-- What stands before and behind the closing bracket of two lists that are alike. -/
structure SameSplit (found found' : List Token × Token × List Token) : Prop where
  last : found.2.1 = found'.2.1
  inner : Alike found.1 found'.1
  after : Alike found.2.2 found'.2.2

theorem SameSplit.cons {found found' : List Token × Token × List Token}
    (same : SameSplit found found') {passed passed' : List Token} (alike : Alike passed passed') :
    SameSplit (passed ++ found.1, found.2) (passed' ++ found'.1, found'.2) :=
  ⟨same.last, alike.append same.inner, same.after⟩

theorem splitClosing?_clear {passed : List Token} (clear : Clear passed) (depth : Nat)
    (rest : List Token) : splitClosing? depth (passed ++ rest) =
      (splitClosing? depth rest).map fun found => (passed ++ found.1, found.2) := by
  induction passed with
  | nil => cases found : splitClosing? depth rest <;> simp [found]
  | cons token passed ih =>
    obtain ⟨-, noOpening, noClosing⟩ := clear token List.mem_cons_self
    simp only [List.cons_append, splitClosing?, noOpening, noClosing, Bool.false_eq_true,
      ↓reduceIte]
    rw [ih fun other member => clear other (List.mem_cons_of_mem _ member), Option.map_map]
    rfl

theorem splitClosing?_alike (alike : Alike first second) (depth : Nat) :
    Both SameSplit (splitClosing? depth first) (splitClosing? depth second) := by
  induction alike generalizing depth with
  | nil => exact .inl ⟨rfl, rfl⟩
  | @cons token first second solid alike ih =>
    have keeps (deeper : Nat) := (ih deeper).map fun found found' same =>
      same.cons (Alike.single solid)
    simp only [splitClosing?]
    split
    · exact keeps (depth + 1)
    · split
      · split
        · exact .inr ⟨_, _, rfl, rfl, rfl, .nil, alike⟩
        · exact keeps (depth - 1)
      · exact keeps depth
  | @gap passed first second some_ gaps text line alike ih =>
    have blank : Blank [⟨.space text, line⟩] := List.forall_mem_singleton.mpr rfl
    rw [splitClosing?_clear (blank_of_gaps gaps).clear, ← List.singleton_append,
      splitClosing?_clear blank.clear]
    exact (ih depth).map fun found found' same => same.cons (alike_gap some_ gaps text line)

/-- Both parts are alike. -/
def SameParts (found found' : List Token × List Token) : Prop :=
  Alike found.1 found'.1 ∧ Alike found.2 found'.2

theorem splitSemicolon?_blank {passed : List Token} (blank : Blank passed) (rest : List Token) :
    splitSemicolon? (passed ++ rest) =
      (splitSemicolon? rest).map fun found => (passed ++ found.1, found.2) := by
  induction passed with
  | nil => cases found : splitSemicolon? rest <;> simp [found]
  | cons token passed ih =>
    have other : token.isSign ";" = false := by
      refine Bool.eq_false_iff.mpr fun is => ?_
      have own := blank token List.mem_cons_self
      rw [Token.isMeaningful, Token.kind_of_isSign is] at own
      cases own
    rw [List.cons_append, splitSemicolon?, other,
      ih fun other member => blank other (List.mem_cons_of_mem _ member)]
    simp only [Bool.false_eq_true, ↓reduceIte, Option.map_map]
    rfl

theorem splitSemicolon?_alike (alike : Alike first second) :
    Both SameParts (splitSemicolon? first) (splitSemicolon? second) := by
  induction alike with
  | nil => exact .inl ⟨rfl, rfl⟩
  | @cons token first second solid alike ih =>
    simp only [splitSemicolon?]
    split
    · exact .inr ⟨_, _, rfl, rfl, .nil, alike⟩
    · exact ih.map fun found found' same => ⟨.cons solid same.1, same.2⟩
  | @gap passed first second some_ gaps text line alike ih =>
    have blank : Blank [⟨.space text, line⟩] := List.forall_mem_singleton.mpr rfl
    rw [splitSemicolon?_blank (blank_of_gaps gaps), ← List.singleton_append,
      splitSemicolon?_blank blank]
    exact ih.map fun found found' same => ⟨(alike_gap some_ gaps text line).append same.1, same.2⟩

/-- Back over brackets to the one that opens. -/
theorem beforeOpening?_clear {passed : List Token} (clear : Clear passed) (depth : Nat)
    (rest : List Token) : beforeOpening? depth (passed ++ rest) = beforeOpening? depth rest := by
  induction passed with
  | nil => rfl
  | cons token passed ih =>
    obtain ⟨-, noOpening, noClosing⟩ := clear token List.mem_cons_self
    rw [List.cons_append, beforeOpening?, noOpening, noClosing,
      ← ih fun other member => clear other (List.mem_cons_of_mem _ member)]
    rfl

theorem beforeOpening?_alike (alike : Alike first second) (depth : Nat) :
    Both Alike (beforeOpening? depth first) (beforeOpening? depth second) := by
  induction alike generalizing depth with
  | nil => exact .inl ⟨rfl, rfl⟩
  | @cons token first second solid alike ih =>
    simp only [beforeOpening?]
    split
    · exact ih (depth + 1)
    · split
      · split
        · exact .inr ⟨_, _, rfl, rfl, alike⟩
        · exact ih (depth - 1)
      · exact ih depth
  | @gap passed first second some_ gaps text line alike ih =>
    have blank : Blank [⟨.space text, line⟩] := List.forall_mem_singleton.mpr rfl
    rw [beforeOpening?_clear (blank_of_gaps gaps).clear, ← List.singleton_append,
      beforeOpening?_clear blank.clear]
    exact ih depth

/-- What follows the first meaningful tokens, and what stands in front of it. -/
theorem dropMeaningful_alike (n : Nat) (alike : Alike first second) :
    Alike (dropMeaningful n first) (dropMeaningful n second) ∧
      ∃ front front', Alike front front' ∧ first = front ++ dropMeaningful n first ∧
        second = front' ++ dropMeaningful n second := by
  induction n generalizing first second with
  | zero => exact ⟨alike, [], [], .nil, rfl, rfl⟩
  | succ n ih =>
    rcases ahead?_alike alike with ⟨absent, absent'⟩ | ⟨found, found', is, is', meets⟩
    · simp only [dropMeaningful, absent, absent']
      exact ⟨.nil, first, second, alike, by simp, by simp⟩
    · obtain ⟨behind, front, front', fronts, whole, whole'⟩ := ih meets.rest
      obtain ⟨passed, passed', gaps, parts, parts', -, -⟩ := meets.parts
      have token : Alike [found.token] [found'.token] :=
        meets.same ▸ .single (Token.isGap_of_isMeaningful meets.meant)
      simp only [dropMeaningful, is, is']
      refine ⟨behind, passed ++ ([found.token] ++ front), passed' ++ ([found'.token] ++ front'),
        gaps.append (token.append fronts), ?_, ?_⟩
      · rw [List.append_assoc, List.append_assoc, ← whole, parts]
        rfl
      · rw [List.append_assoc, List.append_assoc, ← whole', parts']
        rfl

theorem loopHead_alike (alike : Alike first second) :
    Alike (loopHead first) (loopHead second) ∧
      ∃ front front', Alike front front' ∧ first = front ++ loopHead first ∧
        second = front' ++ loopHead second := by
  unfold loopHead
  simp only [alike.meaningful]
  split
  · exact dropMeaningful_alike 1 alike
  · exact ⟨alike, [], [], .nil, rfl, rfl⟩

theorem isGap_of_isSign {token : Token} {text : String} (is : token.isSign text = true) :
    token.kind.isGap = false := by
  rw [Token.kind_of_isSign is]
  rfl

theorem isGap_of_word? {token : Token} {text : String} (is : token.word? = some text) :
    token.kind.isGap = false := by
  rw [Token.kind_of_word? is]
  rfl

theorem solid_path {point name : Token} (path : (point.isSign "." && name.word?.isSome) = true) :
    point.kind.isGap = false ∧ name.kind.isGap = false := by
  simp only [Bool.and_eq_true] at path
  obtain ⟨text, word⟩ := Option.isSome_iff_exists.mp path.2
  exact ⟨isGap_of_isSign path.1, isGap_of_word? word⟩

/-- Points and names that directly follow are the same. -/
theorem memberPath_alike (alike : Alike first second) :
    memberPath first = memberPath second ∧ Alike (memberPath first) (memberPath second) ∧
      ∃ more more', first = memberPath first ++ more ∧ second = memberPath second ++ more' ∧
        Alike more more' := by
  fun_induction memberPath first generalizing second with
  | case1 point name rest path ih =>
    obtain ⟨solid, solid'⟩ := solid_path path
    obtain ⟨_, rfl, behind⟩ := alike.uncons solid
    obtain ⟨others, rfl, behind'⟩ := behind.uncons solid'
    obtain ⟨same, paths, more, more', parts, parts', rests⟩ := ih behind'
    rw [memberPath, if_pos path]
    refine ⟨by rw [same], .cons solid (.cons solid' paths), more, more', ?_, ?_, rests⟩
    · rw [List.cons_append, List.cons_append, ← parts]
    · rw [List.cons_append, List.cons_append, ← parts']
  | case2 point name rest noPath =>
    have none_ : memberPath second = [] := by
      fun_cases memberPath second with
      | case1 point' name' rest' path =>
        obtain ⟨solid, solid'⟩ := solid_path path
        obtain ⟨_, same, behind⟩ := alike.uncons_right solid
        cases same
        obtain ⟨_, same, -⟩ := behind.uncons_right solid'
        cases same
        exact absurd path noPath
      | case2 | case3 => rfl
    rw [none_]
    exact ⟨rfl, .nil, _, _, rfl, rfl, alike⟩
  | case3 tokens short =>
    have none_ : memberPath second = [] := by
      fun_cases memberPath second with
      | case1 point' name' rest' path =>
        obtain ⟨solid, solid'⟩ := solid_path path
        obtain ⟨_, rfl, behind⟩ := alike.uncons_right solid
        obtain ⟨_, rfl, -⟩ := behind.uncons_right solid'
        exact (short _ _ _ rfl).elim
      | case2 | case3 => rfl
    rw [none_]
    exact ⟨rfl, .nil, _, _, rfl, rfl, alike⟩

/-- What a call with one bare name is made of. -/
theorem boundCall?_some_iff {word call : String} {afterDot : Bool} {tokens : List Token} :
    boundCall? word afterDot tokens = some call ↔
      ∃ opening argument closing more name, tokens = opening :: argument :: closing :: more ∧
        argument.word? = some name ∧ opening.isSign "(" = true ∧ closing.isSign ")" = true ∧
        boundCall? word afterDot [opening, argument, closing] = some call := by
  constructor
  · intro is
    have whole := is
    unfold boundCall? at is
    split at is
    · rename_i opening argument closing more
      split at is
      · rename_i name word
        split at is
        · rename_i encloses
          simp only [Bool.and_eq_true] at encloses
          exact ⟨opening, argument, closing, more, name, rfl, word, encloses.1.1, encloses.1.2, whole⟩
        · cases is
      · cases is
    · cases is
  · rintro ⟨opening, argument, closing, more, name, rfl, -, -, -, is⟩
    exact is

/-- A call with one bare name is the same. -/
theorem boundCall?_alike (alike : Alike first second) (word : String) (afterDot : Bool) :
    boundCall? word afterDot first = boundCall? word afterDot second := by
  refine Option.ext fun call => ?_
  rw [boundCall?_some_iff, boundCall?_some_iff]
  constructor
  · rintro ⟨opening, argument, closing, more, name, rfl, word, sign, sign', is⟩
    obtain ⟨_, rfl, behind⟩ := alike.uncons (isGap_of_isSign sign)
    obtain ⟨_, rfl, behind'⟩ := behind.uncons (isGap_of_word? word)
    obtain ⟨more, rfl, -⟩ := behind'.uncons (isGap_of_isSign sign')
    exact ⟨opening, argument, closing, more, name, rfl, word, sign, sign', is⟩
  · rintro ⟨opening, argument, closing, more, name, rfl, word, sign, sign', is⟩
    obtain ⟨_, rfl, behind⟩ := alike.uncons_right (isGap_of_isSign sign)
    obtain ⟨_, rfl, behind'⟩ := behind.uncons_right (isGap_of_word? word)
    obtain ⟨more, rfl, -⟩ := behind'.uncons_right (isGap_of_isSign sign')
    exact ⟨opening, argument, closing, more, name, rfl, word, sign, sign', is⟩

theorem boundCall?_parted (alike : Alike first second) {word call : String} {afterDot : Bool}
    (is : boundCall? word afterDot first = some call) : Parted first second 3 3 := by
  obtain ⟨opening, argument, closing, more, name, rfl, word, sign, sign', is⟩ :=
    boundCall?_some_iff.mp is
  obtain ⟨_, rfl, behind⟩ := alike.uncons (isGap_of_isSign sign)
  obtain ⟨_, rfl, behind'⟩ := behind.uncons (isGap_of_word? word)
  obtain ⟨more', rfl, rests⟩ := behind'.uncons (isGap_of_isSign sign')
  exact ⟨.cons (isGap_of_isSign sign) (.cons (isGap_of_word? word)
    (.single (isGap_of_isSign sign'))), rests⟩

section Meaningful
variable {token : Token}

theorem meaningful_cons (meant : token.isMeaningful = true) (rest : List Token) :
    meaningful (token :: rest) = token :: meaningful rest :=
  List.filter_cons_of_pos meant

theorem meaningful_cons_of_neg (blank : ¬token.isMeaningful = true) (rest : List Token) :
    meaningful (token :: rest) = meaningful rest :=
  List.filter_cons_of_neg blank

theorem ahead?_token (tokens : List Token) :
    (ahead? tokens).map Ahead.token = (meaningful tokens).head? := by
  induction tokens with
  | nil => rfl
  | cons token rest ih =>
    rw [ahead?]
    split
    · rename_i meant
      rw [meaningful_cons meant]
      rfl
    · rename_i blank
      rw [meaningful_cons_of_neg blank, Option.map_map]
      exact ih

theorem parameters_meaningful (tokens : List Token) :
    parameters (meaningful tokens) = parameters tokens := by
  induction tokens with
  | nil => rfl
  | cons token rest ih =>
    by_cases meant : token.isMeaningful = true
    · simp only [meaningful_cons meant, parameters, ih]
    · rw [meaningful_cons_of_neg meant, ih, parameters]
      have idle : token.kind.isMeaningful = false := Bool.eq_false_iff.mpr meant
      split
      · rename_i name kind
        rw [kind] at idle
        cases idle
      · rw [if_pos (by simp [idle])]

theorem isSign_of_blank (blank : ¬token.isMeaningful = true) (text : String) :
    token.isSign text = false := by
  refine Bool.eq_false_iff.mpr fun is => blank ?_
  rw [Token.isMeaningful, Token.kind_of_isSign is]
  rfl

theorem holdsEntries_meaningful (tokens : List Token) (depth : Nat) :
    holdsEntries depth (meaningful tokens) = holdsEntries depth tokens := by
  induction tokens generalizing depth with
  | nil => rfl
  | cons token rest ih =>
    by_cases meant : token.isMeaningful = true
    · simp only [meaningful_cons meant, holdsEntries, ih]
    · simp [meaningful_cons_of_neg meant, holdsEntries, ih, isOpening, isClosing,
        isSign_of_blank meant]

theorem usesIt_meaningful (tokens : List Token) (last : Token) :
    usesIt last (meaningful tokens) = usesIt last tokens := by
  induction tokens generalizing last with
  | nil => rfl
  | cons token rest ih =>
    by_cases meant : token.isMeaningful = true
    · simp only [meaningful_cons meant, usesIt, ih]
    · have other : token.isWord "it" = false := by
        refine Bool.eq_false_iff.mpr fun is => meant ?_
        rw [Token.isMeaningful, beq_iff_eq.mp is]
        rfl
      simp [meaningful_cons_of_neg meant, usesIt, ih, other, meant]

end Meaningful

theorem Parted.trans {m n m' n' : Nat} (parted : Parted first second m n)
    (further : Parted (first.drop m) (second.drop n) m' n') :
    Parted first second (m + m') (n + n') := by
  constructor
  · rw [List.take_add, List.take_add]
    exact parted.taken.append further.taken
  · rw [← List.drop_drop, ← List.drop_drop]
    exact further.left

theorem Parted.append {first' second' : List Token} {m n : Nat} (parted : Parted first second m n)
    (short : m ≤ first.length) (short' : n ≤ second.length) (alike : Alike first' second') :
    Parted (first ++ first') (second ++ second') m n := by
  constructor
  · rw [List.take_append_of_le_length short, List.take_append_of_le_length short']
    exact parted.taken
  · rw [List.drop_append_of_le_length short, List.drop_append_of_le_length short']
    exact parted.left.append alike

/-- What is left behind the gap in front of the token that is met. -/
theorem Meets.drop {found found' : Ahead} (meets : Meets first second found found') :
    first.drop found.passed = found.token :: found.rest ∧
      second.drop found'.passed = found'.token :: found'.rest := by
  obtain ⟨front, front', -, rfl, rfl, long, long'⟩ := meets.parts
  exact ⟨List.drop_left' long, List.drop_left' long'⟩

theorem Meets.drop_succ {found found' : Ahead} (meets : Meets first second found found') :
    first.drop (found.passed + 1) = found.rest ∧ second.drop (found'.passed + 1) = found'.rest := by
  rw [← List.drop_drop, ← List.drop_drop, meets.drop.1, meets.drop.2]
  exact ⟨rfl, rfl⟩

/-- Up to a place behind the token that is met. -/
theorem Meets.parted_add {found found' : Ahead} (meets : Meets first second found found') {m n : Nat}
    (parted : Parted found.rest found'.rest m n) :
    Parted first second (found.passed + 1 + m) (found'.passed + 1 + n) := by
  refine meets.parted.2.trans ?_
  rwa [meets.drop_succ.1, meets.drop_succ.2]

theorem isGap_of_isClosing {token : Token} (closing : isClosing token = true) :
    token.kind.isGap = false := by
  simp only [isClosing, Bool.or_eq_true] at closing
  rcases closing with (is | is) | is <;> exact isGap_of_isSign is

/-- Up to a place behind the closing bracket. -/
theorem SameSplit.parted_add {depth : Nat} {found found' : List Token × Token × List Token}
    (same : SameSplit found found') (is : splitClosing? depth first = some found)
    (is' : splitClosing? depth second = some found') {m n : Nat}
    (parted : Parted found.2.2 found'.2.2 m n) :
    Parted first second (found.1.length + 1 + m) (found'.1.length + 1 + n) := by
  obtain ⟨inner, last, after⟩ := found
  obtain ⟨inner', _, after'⟩ := found'
  obtain ⟨parts, closing⟩ := splitClosing?_eq is
  obtain ⟨parts', -⟩ := splitClosing?_eq is'
  obtain rfl := same.last
  have fronts := same.inner.append (.single (isGap_of_isClosing closing))
  simp only at parts parts'
  rw [← List.singleton_append, ← List.append_assoc] at parts parts'
  have further : Parted first second ((inner ++ [last]).length + m)
      ((inner' ++ [last]).length + n) := by
    rw [parts, parts']
    refine (Parted.of_append fronts same.after).trans ?_
    rwa [List.drop_left, List.drop_left]
  simpa using further

/-- The meaningful token behind the one that is met. -/
theorem Meets.trans {found found' next next' : Ahead} (meets : Meets first second found found')
    (further : Meets found.rest found'.rest next next') :
    Meets first second { next with passed := found.passed + 1 + next.passed }
      { next' with passed := found'.passed + 1 + next'.passed } := by
  obtain ⟨front, front', fronts, rfl, rfl, long, long'⟩ := meets.parts
  obtain ⟨between, between', gaps, parts, parts', short, short'⟩ := further.parts
  have token : Alike [found.token] [found'.token] :=
    meets.same ▸ .single (Token.isGap_of_isMeaningful meets.meant)
  refine ⟨further.same, further.meant, further.rest, front ++ ([found.token] ++ between),
    front' ++ ([found'.token] ++ between'), fronts.append (token.append gaps), ?_, ?_, ?_, ?_⟩
  · rw [parts]
    simp
  · rw [parts']
    simp
  · simp [long, short]
    omega
  · simp [long', short']
    omega

theorem stringMethod?_alike (language : Language) (word : String) (alike : Alike first second) :
    stringMethod? language word first = stringMethod? language word second := by
  unfold stringMethod?
  rcases aheadSign?_alike alike "(" with ⟨absent, absent'⟩ | ⟨found, found', is, is', meets⟩
  · rw [absent, absent']
  · have next : (ahead? found.rest).map (fun found => found.token.kind)
        = (ahead? found'.rest).map fun found => found.token.kind := by
      have same := congrArg (Option.map Token.kind)
        ((ahead?_token found.rest).trans ((congrArg _ meets.rest.meaningful).trans
          (ahead?_token found'.rest).symm))
      rwa [Option.map_map, Option.map_map] at same
    simp only [is, is', next]

theorem emptyMap?_alike (alike : Alike first second) :
    Both (Parted first second) (emptyMap? first) (emptyMap? second) := by
  refine (aheadSign?_alike alike ":").bind fun colon colon' meets => ?_
  refine (aheadSign?_alike meets.rest "]").bind fun last last' closes => ?_
  exact .inr ⟨_, _, rfl, rfl, meets.parted_add closes.parted.2⟩

theorem aheadOnLine?_alike (alike : Alike first second) :
    Both (Meets first second) (aheadOnLine? first) (aheadOnLine? second) := by
  refine (ahead?_alike alike).filter fun found found' meets => ?_
  rw [meets.parted.1.taken.any_newline]

/-- Places of tokens in lists that are alike, counted from the start of longer ones. -/
theorem places_alike (alike : Alike first second) {front front' : List Token}
    (fronts : Alike front front') :
    List.Forall₂ (fun entry entry' => entry.1 = entry'.1 ∧
        Parted (front ++ first) (front' ++ second) (entry.2 + 1) (entry'.2 + 1))
      ((first.zipIdx front.length).filter fun entry => entry.1.isMeaningful)
      ((second.zipIdx front'.length).filter fun entry => entry.1.isMeaningful) := by
  induction alike generalizing front front' with
  | nil => exact .nil
  | @cons token first second solid alike ih =>
    have further := ih (fronts.append (.single solid))
    simp only [List.length_append, List.length_singleton, List.append_assoc,
      List.singleton_append] at further
    rw [List.zipIdx_cons, List.zipIdx_cons]
    by_cases meant : token.isMeaningful = true
    · rw [List.filter_cons_of_pos (by exact meant), List.filter_cons_of_pos (by exact meant)]
      refine .cons ⟨rfl, ?_⟩ further
      have here := Parted.of_append (fronts.append (.single solid)) alike
      simpa using here
    · rw [List.filter_cons_of_neg (by exact meant), List.filter_cons_of_neg (by exact meant)]
      exact further
  | @gap passed first second some_ gaps text line alike ih =>
    have further := ih (fronts.append (alike_gap some_ gaps text line))
    have none_ : (passed.zipIdx front.length).filter (fun entry => entry.1.isMeaningful) = [] := by
      refine List.filter_eq_nil_iff.mpr fun entry member => ?_
      have inside : entry.1 ∈ passed := List.fst_mem_of_mem_zipIdx member
      simp [blank_of_gaps gaps entry.1 inside]
    simp only [List.length_append, List.length_singleton, List.append_assoc,
      List.singleton_append] at further
    rw [List.zipIdx_append, List.filter_append, none_, List.nil_append, List.zipIdx_cons,
      List.filter_cons_of_neg (by simp [Token.isMeaningful, Kind.isMeaningful])]
    exact further

theorem closureHead?_alike {related : Nat → Nat → Prop} (names : List String)
    {places places' : List (Token × Nat)}
    (alike : List.Forall₂ (fun entry entry' => entry.1 = entry'.1 ∧
      related (entry.2 + 1) (entry'.2 + 1)) places places') :
    Both (fun found found' => found.1 = found'.1 ∧ related found.2 found'.2)
      (closureHead? names places) (closureHead? names places') := by
  induction long : places.length using Nat.strong_induction_on generalizing names places places' with
  | _ n ih =>
    subst long
    cases alike with
    | nil => exact .inl ⟨rfl, rfl⟩
    | @cons entry entry' rest rest' same others =>
      obtain ⟨first, place⟩ := entry
      obtain ⟨_, place'⟩ := entry'
      obtain ⟨rfl, near⟩ := same
      unfold closureHead?
      simp only
      split
      · exact .inr ⟨_, _, rfl, rfl, rfl, near⟩
      cases others with
      | nil => cases first.word? <;> exact .inl ⟨rfl, rfl⟩
      | @cons entry entry' more more' same others =>
        obtain ⟨sign, signPlace⟩ := entry
        obtain ⟨_, signPlace'⟩ := entry'
        obtain ⟨rfl, near'⟩ := same
        cases word : first.word? with
        | none => exact .inl ⟨rfl, rfl⟩
        | some name =>
          simp only
          split
          · exact ih more.length (by simp only [List.length_cons]; omega) _ others rfl
          · split
            · exact .inr ⟨_, _, rfl, rfl, rfl, near'⟩
            · exact .inl ⟨rfl, rfl⟩

end Lowering
end ApiProbe.Script
