import ApiProbe.Proofs.Script.AlikeLookahead

/-!
Heads of functions, closures and loops in tokens that are alike. The names in them are the same, and
what is rendered of the bounds of a loop reads alike.
-/
namespace ApiProbe.Script.Lowering

/-- Spots at the same token, among tokens that are alike. -/
structure SameSpot (spot spot' : Spot) : Prop where
  before : Alike spot.before spot'.before
  token : spot.token = spot'.token
  rest : Alike spot.rest spot'.rest

/-- The same name, and the same parenthesis behind it. -/
def SameStart (first second : List Token) (found found' : Option String × Ahead) : Prop :=
  found.1 = found'.1 ∧ Meets first second found.2 found'.2

namespace SameSpot
variable {spot spot' : Spot} (same : SameSpot spot spot')
include same

theorem last? : spot.last? = spot'.last? := by
  have first (tokens : List Token) :
      tokens.find? Token.isMeaningful = (meaningful tokens).head? := by
    rw [meaningful, List.head?_filter]
  rw [Spot.last?, Spot.last?, first, first, same.before.meaningful]

theorem lastIsSign (texts : List String) : spot.lastIsSign texts = spot'.lastIsSign texts := by
  rw [Spot.lastIsSign, Spot.lastIsSign, same.last?]

theorem lastIsWord (texts : List String) : spot.lastIsWord texts = spot'.lastIsWord texts := by
  rw [Spot.lastIsWord, Spot.lastIsWord, same.last?]

theorem onNewLine : spot.onNewLine = spot'.onNewLine :=
  same.before.takeWhile_blank.any_newline

theorem afterDot : spot.afterDot = spot'.afterDot := same.lastIsSign [".", "?."]

theorem declaredName? : spot.declaredName? = spot'.declaredName? := by
  rw [Spot.declaredName?, Spot.declaredName?, same.before.meaningful]

theorem atStatementStart : spot.atStatementStart = spot'.atStatementStart := by
  rw [Spot.atStatementStart, Spot.atStatementStart, same.last?, same.lastIsSign, same.onNewLine]

theorem behindName : behindName spot = behindName spot' := by
  rw [Lowering.behindName, Lowering.behindName, same.last?]

theorem fail {α : Type} (fault : SyntaxFault) :
    (spot.fail fault : Except SyntaxError α) = spot'.fail fault := by
  rw [Spot.fail, Spot.fail, same.token]

theorem opensBlock : opensBlock spot = opensBlock spot' := by
  unfold Lowering.opensBlock
  rw [same.last?, same.lastIsSign, same.lastIsSign [")"], same.lastIsWord]
  rcases beforeOpening?_alike same.before 0 with ⟨is, is'⟩ | ⟨before, before', is, is', alike⟩
  · rw [is, is']
  · have owner : before.find? Token.isMeaningful = before'.find? Token.isMeaningful := by
      rw [← List.head?_filter, ← List.head?_filter]
      exact congrArg List.head? alike.meaningful
    simp only [is, is', owner]

/-- The name of a function and the parenthesis of its parameters are found in both lists. -/
theorem functionStart :
    Agree (SameStart spot.rest spot'.rest) (functionStart spot) (functionStart spot') := by
  have fail (fault : SyntaxFault) :
      Agree (SameStart spot.rest spot'.rest) (spot.fail fault) (spot'.fail fault) := by
    rw [same.fail]
    rfl
  unfold Lowering.functionStart
  rcases ahead?_alike same.rest with ⟨is, is'⟩ | ⟨first, first', is, is', meets⟩
  · simp only [is, is']
    exact fail .functionIncomplete
  simp only [is, is', meets.same]
  have opening : Both (Meets spot.rest spot'.rest)
      (if first'.token.word?.isNone then some first
        else (ahead? first.rest).map fun next =>
          { next with passed := first.passed + 1 + next.passed })
      (if first'.token.word?.isNone then some first'
        else (ahead? first'.rest).map fun next =>
          { next with passed := first'.passed + 1 + next.passed }) := by
    split
    · exact .inr ⟨_, _, rfl, rfl, meets⟩
    · exact (ahead?_alike meets.rest).map fun next next' further => meets.trans further
  rcases opening with ⟨is, is'⟩ | ⟨next, next', is, is', further⟩
  · simp only [is, is']
    exact fail .functionIncomplete
  · simp only [is, is', further.same]
    split
    · exact ⟨rfl, further⟩
    · exact fail .functionParenthesis

/-- The names of a closure's parameters are the same. -/
theorem closureParameters {inner inner' : List Token} (alike : Alike inner inner') :
    (closureParameters spot inner).1 = (closureParameters spot' inner').1 ∧
      Parted inner inner' (closureParameters spot inner).2 (closureParameters spot' inner').2 := by
  unfold Lowering.closureParameters
  have heads := closureHead?_alike [] (places_alike alike .nil)
  rcases heads with ⟨is, is'⟩ | ⟨found, found', is, is', names, parted⟩
  · have uses : usesIt spot.token inner = usesIt spot'.token inner' := by
      rw [← usesIt_meaningful, ← usesIt_meaningful inner', alike.meaningful, same.token]
    simp only [List.length_nil] at is is'
    simp only [is, is', uses, true_and]
    exact .zero alike
  · simp only [List.length_nil] at is is'
    simp only [is, is', names, true_and]
    exact parted

end SameSpot

/-- Tokens whose texts are what they seem, in order where it is `strict`. -/
structure Proper (strict : Prop) (language : Language) (tokens : List Token) : Prop where
  sound : ∀ token ∈ tokens, token.kind.Sound
  orderly : strict → Orderly language tokens

theorem followsSlash_left {front back : List Token} (follows : FollowsSlash (front ++ back)) :
    FollowsSlash front := by
  refine ⟨fun token first => follows.1 token ?_, fun token first => follows.2 token ?_⟩
  · rw [List.head?_append, Option.mem_def.mp first]
    rfl
  · rw [meaningful_append, List.head?_append, Option.mem_def.mp first]
    rfl

theorem slashesApart_append {front back : List Token} (apart : SlashesApart (front ++ back)) :
    SlashesApart front ∧ SlashesApart back := by
  induction front with
  | nil => exact ⟨trivial, apart⟩
  | cons token rest ih =>
    obtain ⟨inner, behind⟩ := ih apart.2
    exact ⟨⟨fun slash => followsSlash_left (apart.1 slash), inner⟩, behind⟩

theorem orderly_append {language : Language} {front back : List Token}
    (orderly : Orderly language (front ++ back)) : Orderly language front ∧ Orderly language back := by
  obtain ⟨own, behind⟩ := slashesApart_append orderly.slashes
  exact ⟨⟨own, fun token member => orderly.ticks token (List.mem_append_left _ member)⟩,
    ⟨behind, fun token member => orderly.ticks token (List.mem_append_right _ member)⟩⟩

namespace Proper
variable {strict : Prop} {language : Language} {front back : List Token}

theorem left (proper : Proper strict language (front ++ back)) : Proper strict language front :=
  ⟨fun token member => proper.sound token (List.mem_append_left _ member),
    fun strict_ => (orderly_append (proper.orderly strict_)).1⟩

theorem right (proper : Proper strict language (front ++ back)) : Proper strict language back :=
  ⟨fun token member => proper.sound token (List.mem_append_right _ member),
    fun strict_ => (orderly_append (proper.orderly strict_)).2⟩

theorem drop (proper : Proper strict language front) (n : Nat) :
    Proper strict language (front.drop n) := by
  rw [← List.take_append_drop n front] at proper
  exact proper.right

theorem tail {token : Token} (proper : Proper strict language (token :: back)) :
    Proper strict language back :=
  ⟨(List.forall_mem_cons.mp proper.sound).2, fun strict_ => (proper.orderly strict_).tail⟩

end Proper

/-- A text that ends with a parenthesis and is more than that. -/
def Closes (text : String) : Prop := text.toList.getLast? = some ')' ∧ text ≠ ")"

/-- Texts written in the same place. They read alike and run into nothing, and unless they are the same
both of them end with a parenthesis. -/
structure Twins (strict : Prop) (first second : String) : Prop where
  paired : Paired strict first second
  starts : startsApart first = true ∧ startsApart second = true
  ends : endsApart first = true ∧ endsApart second = true
  shape : first = second ∨ Closes first ∧ Closes second

section Texts
variable {strict : Prop} {text first second : String}

theorem Paired.of_isPlain (plain : isPlain text = true) : Paired strict text text :=
  .refl (.of_isPlain plain)

theorem Twins.of_isPlain (plain : isPlain text = true) (starts : startsApart text = true) :
    Twins strict text text :=
  ⟨.of_isPlain plain, ⟨starts, starts⟩,
    ⟨endsApart_of_isPlain plain, endsApart_of_isPlain plain⟩, .inl rfl⟩

theorem isPlain_append (one : isPlain first = true) (two : isPlain second = true) :
    isPlain (first ++ second) = true := by
  rw [isPlain, String.toList_append, List.all_append, Bool.and_eq_true]
  exact ⟨one, two⟩

theorem endsApart_right (first : String) (ends : endsApart second = true) (some_ : second ≠ "") :
    endsApart (first ++ second) = true := by
  unfold endsApart at *
  rw [String.toList_append, List.getLast?_append]
  cases last : second.toList.getLast? with
  | none => exact absurd (String.toList_eq_nil_iff.mp (List.getLast?_eq_none_iff.mp last)) some_
  | some c => rwa [last] at ends

/-- The head of a counting loop around its bounds. -/
theorem twins_loop {name range first second low high : String} (plain : isPlain name = true)
    (plain' : isPlain range = true) (lower : Paired strict first low)
    (upper : Paired strict second high) :
    Twins strict s!"for {name} in ({first}){range}({second})"
      s!"for {name} in ({low}){range}({high})" := by
  have front : isPlain ("for " ++ name ++ " in (") = true :=
    isPlain_append (isPlain_append (by decide) plain) (by decide)
  have begun := Paired.append (Paired.of_isPlain front) lower
    (.of_endsApart (endsApart_of_isPlain front) _) (.of_endsApart (endsApart_of_isPlain front) _)
  have closing : Paired strict ")" ")" := .of_isPlain (by decide)
  have opening : Paired strict "(" "(" := .of_isPlain (by decide)
  have closed := begun.append closing
    (.of_startsApart _ (by decide)) (.of_startsApart _ (by decide))
  have apart (text : String) : endsApart (text ++ ")") = true :=
    endsApart_right text (by decide) (by decide)
  have apart' (text : String) : endsApart (text ++ "(") = true :=
    endsApart_right text (by decide) (by decide)
  have ranged := closed.append (Paired.of_isPlain plain') (.of_endsApart (apart _) _)
    (.of_endsApart (apart _) _)
  have opened := ranged.append opening
    (.of_startsApart _ (by decide)) (.of_startsApart _ (by decide))
  have bounded := opened.append upper (.of_endsApart (apart' _) _) (.of_endsApart (apart' _) _)
  have whole := bounded.append closing
    (.of_startsApart _ (by decide)) (.of_startsApart _ (by decide))
  have starts (first second : String) : startsApart
      ("for " ++ name ++ " in (" ++ first ++ ")" ++ range ++ "(" ++ second ++ ")") = true := by
    simp [startsApart]
  have closes (first second : String) : Closes
      ("for " ++ name ++ " in (" ++ first ++ ")" ++ range ++ "(" ++ second ++ ")") := by
    refine ⟨?_, fun same => ?_⟩
    · rw [String.toList_append, show ")".toList = [')'] from rfl, List.getLast?_concat]
    have head := congrArg (fun text => text.toList.head?) same
    simp at head
  exact ⟨whole, ⟨starts _ _, starts _ _⟩, ⟨apart _, apart _⟩, .inr ⟨closes _ _, closes _ _⟩⟩

end Texts

variable {first second : List Token}

theorem rangeSign?_plain {relation : Token} {range : String} (is : rangeSign? relation = some range) :
    isPlain range = true := by
  unfold rangeSign? at is
  split at is
  · cases is
    decide
  · split at is <;> cases is
    decide

/-- The word that comes next. -/
theorem ahead?_word (alike : Alike first second) :
    ((ahead? first).bind fun found => found.token.word?)
      = (ahead? second).bind fun found => found.token.word? := by
  have next (tokens : List Token) : ((ahead? tokens).bind fun found => found.token.word?)
      = (meaningful tokens).head?.bind Token.word? := by
    rw [← ahead?_token, Option.bind_map]
    rfl
  rw [next, next, alike.meaningful]

theorem plain_ahead {strict : Prop} {tokens : List Token} {name : String}
    (proper : Proper strict language tokens)
    (is : ((ahead? tokens).bind fun found => found.token.word?) = some name) :
    isPlain name = true ∧ startsApart name = true := by
  obtain ⟨found, ahead, word⟩ := Option.bind_eq_some_iff.mp is
  obtain ⟨passed, parts, -⟩ := ahead?_eq ahead
  have sound := proper.sound found.token (by rw [parts]; simp)
  rw [Token.kind_of_word? word] at sound
  exact plain_word sound

/-- The head of a counting loop reads alike. -/
theorem countingHead?_alike {strict : Prop} (alike : Alike first second)
    (proper : Proper strict language first) (proper' : Proper strict language second) :
    Both (Twins strict) (countingHead? first) (countingHead? second) := by
  unfold countingHead?
  rcases splitSemicolon?_alike alike with ⟨is, is'⟩ | ⟨⟨initial, rest⟩, ⟨initial', rest'⟩, is, is',
    initials, rests⟩
  · rw [is, is']
    exact .inl ⟨rfl, rfl⟩
  rcases splitSemicolon?_alike rests with ⟨again, again'⟩ | ⟨⟨condition, step⟩, ⟨condition', step'⟩,
    again, again', conditions, steps⟩
  · simp only [is, is', again, again', Option.bind_eq_bind, Option.bind_some, Option.bind_none]
    exact .inl ⟨rfl, rfl⟩
  have parts {tokens one two three four : List Token} (whole : Proper strict language tokens)
      (is : splitSemicolon? tokens = some (one, two))
      (again : splitSemicolon? two = some (three, four)) :
      Proper strict language one ∧ Proper strict language (dropMeaningful 2 one) ∧
        Proper strict language (dropMeaningful 2 three) := by
    obtain ⟨mark, rfl, -⟩ := splitSemicolon?_eq is
    obtain ⟨mark', rfl, -⟩ := splitSemicolon?_eq again
    obtain ⟨_, begins, -⟩ := dropMeaningful_eq 2 one
    obtain ⟨_, begins', -⟩ := dropMeaningful_eq 2 three
    refine ⟨whole.left, ?_, ?_⟩
    · have own := whole.left
      rw [begins] at own
      exact own.right
    · have own := whole.right.tail.left
      rw [begins'] at own
      exact own.right
  obtain ⟨own, lower, upper⟩ := parts proper is again
  obtain ⟨-, lower', upper'⟩ := parts proper' is' again'
  simp only [is, is', again, again', Option.bind_eq_bind, Option.bind_some]
  rw [← ahead?_word initials, ← ahead?_word conditions, ← Alike.meaningful initials,
    ← Alike.meaningful conditions, ← Alike.meaningful steps]
  refine .bind_same fun name named => .bind_same fun _ _ => .bind_same fun tested _ =>
    .bind_same fun range ranged => ?_
  obtain ⟨relation, -, sign⟩ := Option.bind_eq_some_iff.mp ranged
  split
  · refine .inr ⟨_, _, rfl, rfl, twins_loop (plain_ahead own named).1 (rangeSign?_plain sign) ?_ ?_⟩
    · exact paired_render (dropMeaningful_alike 2 initials).1 lower.sound lower'.sound
        fun strict_ => ⟨lower.orderly strict_, lower'.orderly strict_⟩
    · exact paired_render (dropMeaningful_alike 2 conditions).1 upper.sound upper'.sound
        fun strict_ => ⟨upper.orderly strict_, upper'.orderly strict_⟩
  · exact .inl ⟨rfl, rfl⟩

/-- The tokens in the parentheses of a loop over items up to the first token of the items. -/
def beforeItems (inner : List Token) : Nat :=
  inner.length - (dropMeaningful 2 (loopHead inner)).length
    + ((ahead? (dropMeaningful 2 (loopHead inner))).map Ahead.passed).getD 0

theorem beforeItems_alike (alike : Alike first second) :
    Parted first second (beforeItems first) (beforeItems second) ∧
      beforeItems first ≤ first.length ∧ beforeItems second ≤ second.length := by
  obtain ⟨heads, front, front', fronts, whole, whole'⟩ := loopHead_alike alike
  obtain ⟨bodies, middle, middle', middles, parts, parts'⟩ := dropMeaningful_alike 2 heads
  unfold beforeItems
  generalize dropMeaningful 2 (loopHead first) = body at *
  generalize dropMeaningful 2 (loopHead second) = body' at *
  rw [parts, ← List.append_assoc] at whole
  rw [parts', ← List.append_assoc] at whole'
  have long := congrArg List.length whole
  have long' := congrArg List.length whole'
  rw [List.length_append] at long long'
  have begun : Parted first second (first.length - body.length) (second.length - body'.length) := by
    rw [long, long', Nat.add_sub_cancel, Nat.add_sub_cancel, whole, whole']
    exact .of_append (fronts.append middles) bodies
  rcases ahead?_alike bodies with ⟨is, is'⟩ | ⟨found, found', is, is', meets⟩
  · rw [is, is']
    exact ⟨begun, Nat.sub_le _ _, Nat.sub_le _ _⟩
  · obtain ⟨gap, gap', -, inner, inner', passed, passed'⟩ := meets.parts
    have short := congrArg List.length inner
    have short' := congrArg List.length inner'
    rw [List.length_append] at short short'
    rw [is, is', Option.map_some, Option.map_some, Option.getD_some, Option.getD_some]
    refine ⟨begun.trans ?_, by omega, by omega⟩
    rw [long, long', Nat.add_sub_cancel, Nat.add_sub_cancel, whole, whole', List.drop_left,
      List.drop_left]
    exact meets.parted.1

end ApiProbe.Script.Lowering
