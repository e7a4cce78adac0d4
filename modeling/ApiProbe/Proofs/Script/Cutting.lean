import ApiProbe.Proofs.Script.SourceLines
import ApiProbe.Proofs.Text.Trimming
import Mathlib.Data.List.Find

/-!
What a token is cut from, up to where a comment or a space follows it. That a token is cut off where it
was is a matter of what follows it: a space in place of a comment there makes no difference, unless the
token is a gap itself.
-/
namespace ApiProbe.Script

/-- True of comments without a line end. -/
def Kind.isAside : Kind → Bool
  | .comment text => !text.toList.contains '\n'
  | _ => false

/-- True of what keeps other tokens apart without a line end: blanks and comments on one line. -/
def Kind.isGap : Kind → Bool
  | .space _ => true
  | kind => kind.isAside
/-- Texts that are the same up to where the first has a comment and the second a space. -/
inductive Near : List Char → List Char → Prop
  | refl (chars : List Char) : Near chars chars
  | comment (first second : List Char) : Near ('/' :: first) (' ' :: second)
  | cons (c : Char) {first second : List Char} (near : Near first second) :
    Near (c :: first) (c :: second)

namespace Near
variable {first second : List Char}

theorem append (front : List Char) (near : Near first second) :
    Near (front ++ first) (front ++ second) := by
  induction front with
  | nil => exact near
  | cons c rest ih => exact .cons c ih

/-- What does not tell a slash from a space does not tell the first characters apart. -/
theorem head_map (near : Near first second) {α : Type} {read : Char → α}
    (same : read '/' = read ' ') : first.head?.map read = second.head?.map read := by
  cases near with
  | refl => rfl
  | comment => exact congrArg some same
  | cons => rfl

/-- A character that is not a space only comes first where it came first before. -/
theorem head_ne (near : Near first second) {d : Char} (other : d ≠ ' ')
    (absent : (first.head? == some d) = false) : (second.head? == some d) = false := by
  cases near with
  | refl => exact absent
  | comment => simpa using Ne.symm other
  | cons => exact absent

theorem head_of (near : Near first second) {p : Char → Bool} (same : p '/' = p ' ')
    (outside : ∀ c, first.head? = some c → p c = false) :
    ∀ c, second.head? = some c → p c = false := by
  intro c here
  have alike := near.head_map same
  rw [here] at alike
  obtain ⟨d, there, equal⟩ := Option.map_eq_some_iff.mp alike
  rw [← equal]
  exact outside d there

/-- A run of characters stops at the same place. -/
theorem span (near : Near first second) {p : Char → Bool} (same : p '/' = p ' ') {chars : List Char}
    (stops : chars.dropWhile p = first) :
    (chars.takeWhile p ++ second).takeWhile p = chars.takeWhile p ∧
      (chars.takeWhile p ++ second).dropWhile p = second := by
  refine Text.span_of_boundary p (fun c member => all_takeWhile c member) (near.head_of same ?_)
  intro c here
  have outside := List.head?_dropWhile_not p chars
  rw [stops, here] at outside
  exact outside

theorem isPrefixOf (near : Near first second) {mark : List Char} (noSlash : '/' ∉ mark)
    (noSpace : ' ' ∉ mark) : mark.isPrefixOf first = mark.isPrefixOf second := by
  induction near generalizing mark with
  | refl => rfl
  | comment =>
    cases mark with
    | nil => rfl
    | cons d rest =>
      have slash : d ≠ '/' := fun same => noSlash (same ▸ List.mem_cons_self)
      have space : d ≠ ' ' := fun same => noSpace (same ▸ List.mem_cons_self)
      simp only [List.isPrefixOf, beq_eq_false_iff_ne.mpr slash, beq_eq_false_iff_ne.mpr space,
        Bool.false_and]
  | cons c near ih =>
    cases mark with
    | nil => rfl
    | cons d rest =>
      simp only [List.isPrefixOf]
      rw [ih (fun member => noSlash (List.mem_cons_of_mem _ member))
        (fun member => noSpace (List.mem_cons_of_mem _ member))]

end Near

section Bodies
variable {c quote : Char} {chars body after rest : List Char}

/-- A backslash is not the last character of a text. -/
theorem ne_backslash (plain : ∀ (d : Char) (more : List Char), c = '\\' → rest = d :: more → False)
    (some_ : rest ≠ []) : c ≠ '\\' := by
  obtain ⟨d, more, same⟩ := List.exists_cons_of_ne_nil some_
  exact fun escape => plain d more escape same

theorem quotedBody?_cons (plain : c ≠ '\\') (rest : List Char) :
    quotedBody? quote (c :: rest) =
      if c == '\n' then none
      else if c == quote then some ([], rest)
      else (quotedBody? quote rest).map fun (body, after) => (c :: body, after) := by
  rw [quotedBody?]
  exact fun _ _ escape => absurd escape plain

/-- A string is closed by its first quote, whatever follows. -/
theorem quotedBody?_replace (mark : quote ≠ '\\')
    (found : quotedBody? quote chars = some (body, after))
    (other : List Char) : quotedBody? quote (body ++ quote :: other) = some (body, other) := by
  fun_induction quotedBody? quote chars generalizing body after with
  | case1 => cases found
  | case2 c rest ih =>
    obtain ⟨⟨inner, tail⟩, inside, same⟩ := Option.map_eq_some_iff.mp found
    cases same
    simp [quotedBody?, ih inside]
  | case3 => cases found
  | case4 c rest _ inLine closes =>
    cases found
    rw [beq_iff_eq.mp closes] at inLine
    rw [List.nil_append, quotedBody?_cons mark, if_neg inLine, if_pos (beq_self_eq_true quote)]
  | case5 c rest plain inLine open_ ih =>
    obtain ⟨⟨inner, tail⟩, inside, same⟩ := Option.map_eq_some_iff.mp found
    cases same
    have char : c ≠ '\\' := ne_backslash plain (by rw [quotedBody?_eq inside]; simp)
    rw [List.cons_append, quotedBody?_cons char, if_neg inLine, if_neg open_, ih inside]
    rfl

theorem templateBody?_cons (plain : c ≠ '\\') (rest : List Char) :
    templateBody? (c :: rest) =
      if c.toNat == 96 then some ([], 0, rest)
      else (templateBody? rest).map fun (body, breaks, after) =>
        (c :: body, if c == '\n' then breaks + 1 else breaks, after) := by
  rw [templateBody?]
  exact fun _ _ escape => absurd escape plain

/-- A template is closed by its first tick, whatever follows. -/
theorem templateBody?_replace {breaks : Nat} (found : templateBody? chars = some (body, breaks, after))
    (other : List Char) :
    templateBody? (body ++ Char.ofNat 96 :: other) = some (body, breaks, other) := by
  fun_induction templateBody? chars generalizing body breaks after with
  | case1 => cases found
  | case2 c rest ih =>
    obtain ⟨⟨inner, n, tail⟩, inside, same⟩ := Option.map_eq_some_iff.mp found
    cases same
    simp [templateBody?, ih inside]
  | case3 c rest _ closes =>
    cases found
    rw [List.nil_append, templateBody?_cons (by decide)]
    rfl
  | case4 c rest plain open_ ih =>
    obtain ⟨⟨inner, n, tail⟩, inside, same⟩ := Option.map_eq_some_iff.mp found
    cases same
    have char : c ≠ '\\' := ne_backslash plain (by rw [templateBody?_eq inside]; simp)
    rw [List.cons_append, templateBody?_cons char, if_neg open_, ih inside]
    rfl

theorem regexBody?_cons {inBrackets : Bool} (plain : c ≠ '\\') (rest : List Char) :
    regexBody? inBrackets (c :: rest) =
      if c == '\n' then none
      else if c == '/' && !inBrackets then some ([], rest)
      else
        (regexBody? (bracketsAfter inBrackets c) rest).map fun (body, after) =>
          (c :: body, after) := by
  rw [regexBody?]
  exact fun _ _ escape => absurd escape plain

/-- A regular expression is closed by its first slash, whatever follows. -/
theorem regexBody?_replace {inBrackets : Bool}
    (found : regexBody? inBrackets chars = some (body, after)) (other : List Char) :
    regexBody? inBrackets (body ++ '/' :: other) = some (body, other) := by
  fun_induction regexBody? inBrackets chars generalizing body after with
  | case1 => cases found
  | case2 inBrackets c rest ih =>
    obtain ⟨⟨inner, tail⟩, inside, same⟩ := Option.map_eq_some_iff.mp found
    cases same
    simp [regexBody?, ih inside]
  | case3 => cases found
  | case4 inBrackets c rest _ inLine closes =>
    cases found
    simp only [Bool.and_eq_true, beq_iff_eq] at closes
    rw [List.nil_append, regexBody?_cons (by decide), closes.2]
    rfl
  | case5 inBrackets c rest plain inLine open_ ih =>
    obtain ⟨⟨inner, tail⟩, inside, same⟩ := Option.map_eq_some_iff.mp found
    cases same
    have char : c ≠ '\\' := ne_backslash plain (by rw [regexBody?_eq inside]; simp)
    rw [List.cons_append, regexBody?_cons char, if_neg inLine, if_neg open_, ih inside]
    rfl

/-- The end of a comment stands where it was, whatever follows. -/
theorem cutAt?_replace {first second : Char}
    (found : Text.cutAt? [first, second] chars = some (body, after)) (other : List Char) :
    Text.cutAt? [first, second] (body ++ [first, second] ++ other) = some (body, other) := by
  induction chars generalizing body with
  | nil => cases found
  | cons c rest ih =>
    rw [Text.cutAt?] at found
    split at found
    · cases found
      simp [Text.cutAt?, List.isPrefixOf]
    · rename_i elsewhere
      obtain ⟨⟨inner, tail⟩, inside, same⟩ := Option.map_eq_some_iff.mp found
      cases same
      rw [List.cons_append, List.cons_append, Text.cutAt?, ih inside, if_neg]
      · rfl
      · -- The two characters compared stand before the mark's end.
        have parts := Text.cutAt?_eq inside
        cases inner with
        | nil => simpa [List.isPrefixOf, parts] using elsewhere
        | cons d more => simpa [List.isPrefixOf, parts] using elsewhere

/-- Whether a number goes on with a character that stands in front of a text. -/
theorem numberRest_cons_near (d : Char) (taken : List Char) {first second : List Char}
    (near : Near first second) :
    (∃ part : Bool, (numberRest taken (d :: first) =
        if part then numberRest (d :: taken) first else (taken.reverse, d :: first)) ∧
      numberRest taken (d :: second) =
        if part then numberRest (d :: taken) second else (taken.reverse, d :: second)) := by
  have digit : (second.head?.map Char.isDigit).getD false
      = (first.head?.map Char.isDigit).getD false := by
    rw [near.head_map (by decide)]
  refine ⟨_, numberRest.eq_2 .., ?_⟩
  rw [numberRest, digit]

theorem length_numberRest (taken chars : List Char) :
    taken.length ≤ (numberRest taken chars).1.length := by
  have part := numberRest_prefix taken chars
  simpa using part.length_le

/-- A number ends where it did. -/
theorem numberRest_replace {first second : List Char} (near : Near first second)
    {taken chars : List Char}
    (found : numberRest taken (chars ++ first) = (taken.reverse ++ chars, first)) :
    numberRest taken (chars ++ second) = (taken.reverse ++ chars, second) := by
  induction chars generalizing taken with
  | nil =>
    cases near with
    | refl => exact found
    | comment => simp [numberRest]
    | @cons c first second near =>
      obtain ⟨part, one, two⟩ := numberRest_cons_near c taken near
      rw [List.nil_append] at found ⊢
      rw [one] at found
      rw [two]
      cases part with
      | false => simp
      | true =>
        have long := length_numberRest (c :: taken) first
        rw [if_pos rfl] at found
        rw [found] at long
        simp only [List.append_nil, List.length_reverse, List.length_cons] at long
        omega
  | cons d rest ih =>
    obtain ⟨part, one, two⟩ := numberRest_cons_near d taken (near.append rest)
    rw [List.cons_append] at found ⊢
    rw [one] at found
    rw [two]
    cases part with
    | false => simp at found
    | true =>
      rw [if_pos rfl] at found ⊢
      rw [ih (by rw [found]; simp)]
      simp

end Bodies

theorem signs_plain : ∀ sign ∈ signs, '/' ∉ sign.toList.tail ∧ ' ' ∉ sign.toList.tail := by decide

/-- As many characters as were dropped in front of a text can be dropped in front of another. -/
theorem drop_replace {chars first : List Char} {n : Nat} (short : n ≤ (chars ++ first).length)
    (stays : (chars ++ first).drop n = first) (second : List Char) :
    (chars ++ second).drop n = second := by
  have whole := congrArg List.length stays
  rw [List.length_drop, List.length_append] at whole
  rw [List.length_append] at short
  exact List.drop_left' (by omega)

/-- A sign is cut off where it was. -/
theorem cutSign_replace {c : Char} {front first second : List Char} (near : Near first second)
    {piece : Cut} (found : cutSign (c :: (front ++ first)) = .ok piece) (stays : piece.rest = first) :
    cutSign (c :: (front ++ second)) = .ok { piece with rest := second } := by
  have same : signs.find? (fun sign => sign.toList.isPrefixOf (c :: (front ++ second)))
      = signs.find? (fun sign => sign.toList.isPrefixOf (c :: (front ++ first))) := by
    refine List.find?_congr fun sign member => ?_
    obtain ⟨noSlash, noSpace⟩ := signs_plain sign member
    cases text : sign.toList with
    | nil => rfl
    | cons d rest =>
      rw [text, List.tail_cons] at noSlash noSpace
      simp only [List.isPrefixOf]
      rw [(near.append front).isPrefixOf noSlash noSpace]
  unfold cutSign at found ⊢
  rw [same]
  split at found
  · rename_i sign known
    cases found
    have begins := List.find?_some known
    have here := List.isPrefixOf_iff_prefix.mp begins
    have short : max sign.length 1 ≤ ((c :: front) ++ first).length := by
      have long := here.length_le
      rw [String.length_toList, List.length_cons] at long
      simp only [List.length_append, List.length_cons] at long ⊢
      omega
    rw [← List.cons_append, drop_replace short stays]
  · cases found

theorem isAside_line {chars : List Char} (inLine : ∀ c ∈ chars, c ≠ '\n') :
    (Kind.comment (withoutReturns chars)).isAside = true := by
  simp only [Kind.isAside, withoutReturns, String.toList_ofList, Bool.not_eq_true',
    List.contains_eq_mem, decide_eq_false_iff_not]
  exact fun member => inLine '\n' (List.mem_filter.mp member).1 rfl

/-- What is cut off the front of a text does not depend on what follows, up to the next comment. -/
theorem cut_replace {last : Option Kind} {c : Char} {front first second : List Char}
    (near : Near first second) {piece : Cut} (found : cut last c (front ++ first) = .ok piece)
    (stays : piece.rest = first) (solid : ∀ kind ∈ piece.kind, kind.isGap = false) :
    cut last c (front ++ second) = .ok { piece with rest := second } := by
  have whole := near.append front
  have alone (all : front ++ first = first) : front = [] := by simpa using all
  unfold cut at found ⊢
  by_cases line : c = '\n'
  · subst line
    cases found
    rw [alone stays]
    rfl
  by_cases return_ : c = '\r'
  · subst return_
    cases found
    rw [alone stays]
    rfl
  simp only [beq_eq_false_iff_ne.mpr line, beq_eq_false_iff_ne.mpr return_, Bool.false_eq_true,
    ↓reduceIte] at found ⊢
  by_cases blank : Text.isBlank c = true
  · rw [if_pos blank] at found
    cases found
    exact absurd (solid _ rfl) (by simp [Kind.isGap])
  rw [if_neg blank] at found ⊢
  by_cases lineComment : (c == '/' && (front ++ first).head? == some '/') = true
  · rw [if_pos lineComment] at found
    cases found
    have inLine : ∀ d ∈ (c :: (front ++ first)).takeWhile (· != '\n'), d ≠ '\n' :=
      fun d member => bne_iff_ne.mp (all_takeWhile d member)
    have aside := isAside_line inLine
    exact absurd (solid _ rfl) (by simp [Kind.isGap, aside])
  rw [if_neg lineComment] at found
  by_cases blockComment : (c == '/' && (front ++ first).head? == some '*') = true
  · rw [if_pos blockComment] at found
    simp only [Bool.and_eq_true, beq_iff_eq] at blockComment
    obtain ⟨rfl, star⟩ := blockComment
    split at found
    · rename_i body after cutOff
      cases found
      obtain rfl : after = first := stays
      have long := Text.cutAt?_length cutOff
      obtain ⟨more, rfl⟩ : ∃ more, front = '*' :: more := by
        cases front with
        | nil =>
          simp only [List.nil_append, List.length_drop, List.length_cons] at long
          omega
        | cons d more =>
          obtain rfl : d = '*' := Option.some.inj star
          exact ⟨more, rfl⟩
      obtain rfl : more = body ++ ['*', '/'] := List.append_cancel_right (Text.cutAt?_eq cutOff)
      have again := cutAt?_replace cutOff second
      simp only [List.cons_append, List.drop_succ_cons, List.drop_zero]
      rw [again]
      rfl
    · cases found
  rw [if_neg blockComment] at found
  have apart (d : Char) (other : d ≠ ' ')
      (not_ : ¬(c == '/' && (front ++ first).head? == some d) = true) :
      (c == '/' && (front ++ second).head? == some d) = false := by
    cases slash : c == '/' with
    | false => rfl
    | true => exact whole.head_ne other (by simpa [slash] using not_)
  simp only [apart '/' (by decide) lineComment, apart '*' (by decide) blockComment,
    Bool.false_eq_true, ↓reduceIte]
  by_cases quoted : (c == '"' || c == '\'') = true
  · rw [if_pos quoted] at found ⊢
    split at found
    · rename_i body after cutOff
      cases found
      obtain rfl : after = first := stays
      have mark : c ≠ '\\' := by
        rintro rfl
        exact absurd quoted (by decide)
      obtain rfl : front = body ++ [c] := by
        refine (List.append_left_inj after).mp ?_
        rw [quotedBody?_eq cutOff, List.append_assoc, List.singleton_append]
      rw [List.append_assoc, List.singleton_append, quotedBody?_replace mark cutOff]
    · cases found
  rw [if_neg quoted] at found ⊢
  by_cases tick : (c.toNat == 96) = true
  · rw [if_pos tick] at found ⊢
    split at found
    · rename_i body breaks after cutOff
      cases found
      obtain rfl : after = first := stays
      obtain rfl : front = body ++ [Char.ofNat 96] := by
        refine (List.append_left_inj after).mp ?_
        rw [templateBody?_eq cutOff, List.append_assoc, List.singleton_append]
      rw [List.append_assoc, List.singleton_append, templateBody?_replace cutOff]
    · cases found
  rw [if_neg tick] at found ⊢
  by_cases regex : (c == '/' && regexMayFollow last) = true
  · rw [if_pos regex] at found ⊢
    split at found
    · rename_i pattern after cutOff
      cases found
      replace stays : after.dropWhile Char.isAlpha = first := stays
      obtain ⟨flags, stop⟩ := near.span (by decide) stays
      obtain rfl : front = pattern ++ '/' :: after.takeWhile Char.isAlpha := by
        refine (List.append_left_inj first).mp ?_
        rw [regexBody?_eq cutOff, List.append_assoc, List.cons_append]
        conv_lhs => rw [← List.takeWhile_append_dropWhile (p := Char.isAlpha) (l := after)]
        rw [stays]
      rw [List.append_assoc, List.cons_append, regexBody?_replace cutOff]
      simp only [flags, stop]
    · cases found
  rw [if_neg regex] at found ⊢
  by_cases digit : c.isDigit = true
  · rw [if_pos digit] at found ⊢
    cases found
    replace stays : (numberRest [c] (front ++ first)).2 = first := stays
    have taken : (numberRest [c] (front ++ first)).1 = [c].reverse ++ front := by
      refine (List.append_left_inj first).mp ?_
      have parts := numberRest_eq [c] (front ++ first)
      rw [stays] at parts
      rw [parts, List.append_assoc]
    have again := numberRest_replace near (Prod.ext taken stays)
    rw [again, taken]
  rw [if_neg digit] at found ⊢
  by_cases start : isWordStart c = true
  · rw [if_pos start] at found ⊢
    cases found
    replace stays : (front ++ first).dropWhile isWordPart = first := stays
    obtain ⟨part, stop⟩ := near.span (by decide) stays
    have taken : (front ++ first).takeWhile isWordPart = front := by
      have parts := List.takeWhile_append_dropWhile (p := isWordPart) (l := front ++ first)
      rw [stays] at parts
      exact List.append_cancel_right parts
    rw [taken] at part stop
    rw [part, stop, taken]
  rw [if_neg start] at found ⊢
  exact cutSign_replace near found stays

end ApiProbe.Script
