import ApiProbe.Proofs.Script.Cutting

/-!
Scripts without the comments that stand on one line. Each of these comments gives way to a space. The
tokens of the two texts are the same, but for what stands between them: blanks and comments there,
and a space here.
-/
namespace ApiProbe.Script

/-- The last meaningful token behind one more. -/
def behind (last : Option Kind) : Option Kind → Option Kind
  | some kind => if kind.isMeaningful then some kind else last
  | none => last

/-- What a token leaves in the text: a space in place of a comment on one line. -/
def Cut.left (piece : Cut) (chars : List Char) : List Char :=
  if (piece.kind.map Kind.isAside).getD false then [' ']
  else chars.take (chars.length - piece.rest.length)

/-- A text with a space in place of every comment on one line, as far as it can be read. -/
def uncommentedFrom (last : Option Kind) (chars : List Char) : List Char :=
  match chars with
  | [] => []
  | c :: rest =>
    match _found : cut last c rest with
    | .error _ => c :: rest
    | .ok piece => piece.left (c :: rest) ++ uncommentedFrom (behind last piece.kind) piece.rest
termination_by chars.length
decreasing_by
  have := cut_length _found
  simp only [List.length_cons]
  omega

/-- The script with a space in place of every comment that contains no line end. -/
def uncommented (script : String) : String := String.ofList (uncommentedFrom none script.toList)

example : uncommented "a /* b */+ '/* c */' // d\n/*\n*/e" = "a  + '/* c */'  \n/*\n*/e" := by cbv

/-- Tokens that are the same but for the gaps between them, which are single blanks in the second
list. -/
inductive Alike : List Token → List Token → Prop
  | nil : Alike [] []
  | cons {token : Token} {first second : List Token} (solid : token.kind.isGap = false)
    (alike : Alike first second) : Alike (token :: first) (token :: second)
  | gap {passed first second : List Token} (some_ : passed ≠ [])
    (gaps : ∀ token ∈ passed, token.kind.isGap = true) (text : String) (line : Nat)
    (alike : Alike first second) : Alike (passed ++ first) (⟨.space text, line⟩ :: second)

/-- Two readings that come to related results, or to the same error. -/
def Agree {α : Type} (related : α → α → Prop) :
    Except SyntaxError α → Except SyntaxError α → Prop
  | .ok first, .ok second => related first second
  | .error first, .error second => first = second
  | _, _ => False
namespace Agree
variable {α β : Type} {related : α → α → Prop} {related' : β → β → Prop}
  {first second : Except SyntaxError α}

theorem map {f g : α → β} (agree : Agree related first second)
    (carries : ∀ a b, related a b → related' (f a) (g b)) :
    Agree related' (first.map f) (second.map g) := by
  cases first <;> cases second <;> first | exact agree | exact agree.elim | exact carries _ _ agree

theorem bind {f g : α → Except SyntaxError β} (agree : Agree related first second)
    (carries : ∀ a b, first = .ok a → second = .ok b → related a b → Agree related' (f a) (g b)) :
    Agree related' (first >>= f) (second >>= g) := by
  cases first <;> cases second <;>
    first | exact agree | exact agree.elim | exact carries _ _ rfl rfl agree

theorem bind_same {f g : α → Except SyntaxError β}
    (carries : ∀ a, first = .ok a → Agree related' (f a) (g a)) :
    Agree related' (first >>= f) (first >>= g) := by
  cases first with
  | error error => rfl
  | ok a => exact carries a rfl

theorem ite {c : Prop} [Decidable c] {first' second' : Except SyntaxError α}
    (yes : c → Agree related first first') (no : ¬c → Agree related second second') :
    Agree related (if c then first else second) (if c then first' else second') := by
  split
  · exact yes ‹c›
  · exact no ‹¬c›

end Agree

/-- A comment up to the end of its line, or one up to the first mark of its end. -/
inductive IsComment : List Char → Prop
  | line {text : List Char} (inLine : '\n' ∉ text) : IsComment ('/' :: '/' :: text)
  | block {body : List Char}
    (first : Text.cutAt? ['*', '/'] (body ++ ['*', '/']) = some (body, [])) :
    IsComment ('/' :: '*' :: (body ++ ['*', '/']))

/-- True of comments up to the end of their line. -/
def isLineMark (text : List Char) : Bool := ['/', '/'].isPrefixOf text

section Cuts
variable {line : Nat} {last : Option Kind} {c : Char} {rest : List Char} {piece : Cut}

/-- Comments start with a slash, and one up to the end of its line has that end behind it. -/
theorem cut_comment {text : String} (found : cut last c rest = .ok piece)
    (is : piece.kind = some (.comment text)) :
    c = '/' ∧ IsComment text.toList ∧
      (isLineMark text.toList = true → ∀ d, piece.rest.head? = some d → d = '\n') := by
  simp only [cut] at found
  rw [ite_eq_iff] at found
  rcases found with ⟨-, found⟩ | ⟨notEnd, found⟩
  · cases found
    cases is
  rw [ite_eq_iff] at found
  rcases found with ⟨-, found⟩ | ⟨-, found⟩
  · cases found
    cases is
  rw [ite_eq_iff] at found
  rcases found with ⟨-, found⟩ | ⟨-, found⟩
  · cases found
    cases is
  rw [ite_eq_iff] at found
  rcases found with ⟨slashes, found⟩ | ⟨-, found⟩
  · cases found
    cases is
    simp only [Bool.and_eq_true, beq_iff_eq] at slashes
    obtain ⟨rfl, slash⟩ := slashes
    obtain ⟨more, rfl⟩ := List.head?_eq_some_iff.mp slash
    refine ⟨rfl, ?_, fun _ d next => ?_⟩
    · have inLine : '\n' ∉ (more.takeWhile (· != '\n')).filter (· != '\r') := by
        intro member
        have apart := all_takeWhile '\n' (List.mem_filter.mp member).1
        simp at apart
      simpa [withoutReturns] using IsComment.line inLine
    · have stops := List.head?_dropWhile_not (· != '\n') ('/' :: more)
      rw [next] at stops
      simpa using stops
  rw [ite_eq_iff] at found
  rcases found with ⟨star, found⟩ | ⟨-, found⟩
  · simp only [Bool.and_eq_true, beq_iff_eq] at star
    split at found <;> cases found
    rename_i body after cutOff
    cases is
    have closed := cutAt?_replace cutOff []
    rw [List.append_nil] at closed
    refine ⟨star.1, ?_, fun mark => ?_⟩
    · simpa using IsComment.block closed
    · simp [isLineMark, List.isPrefixOf] at mark
  rw [ite_eq_iff] at found
  rcases found with ⟨-, found⟩ | ⟨-, found⟩
  · split at found <;> cases found
    cases is
  rw [ite_eq_iff] at found
  rcases found with ⟨-, found⟩ | ⟨-, found⟩
  · split at found <;> cases found
    cases is
  rw [ite_eq_iff] at found
  rcases found with ⟨-, found⟩ | ⟨-, found⟩
  · split at found <;> cases found
    cases is
  rw [ite_eq_iff] at found
  rcases found with ⟨-, found⟩ | ⟨-, found⟩
  · cases found
    cases is
  rw [ite_eq_iff] at found
  rcases found with ⟨-, found⟩ | ⟨-, found⟩
  · cases found
    cases is
  obtain ⟨sign, kind, -⟩ := cutSign_eq found
  rw [kind] at is
  cases is

/-- A blank that ends no line is taken with those behind it, if it is not a carriage return. -/
theorem cut_blank (last : Option Kind) (blank : isInlineBlank c = true) (noReturn : c ≠ '\r')
    (rest : List Char) :
    ∃ text, cut last c rest = .ok ⟨some (.space text), rest.dropWhile isInlineBlank, 0⟩ := by
  simp only [isInlineBlank, Bool.and_eq_true, bne_iff_ne] at blank
  refine ⟨withoutReturns ((c :: rest).takeWhile isInlineBlank), ?_⟩
  unfold cut
  rw [if_neg (by simpa using blank.2), if_neg (by simpa using noReturn), if_pos blank.1]

theorem uncommentedFrom_of_error {fault : SyntaxFault} (found : cut last c rest = .error fault) :
    uncommentedFrom last (c :: rest) = c :: rest := by
  rw [uncommentedFrom]
  split
  · rfl
  · rename_i piece other
    rw [found] at other
    cases other

theorem uncommentedFrom_of_ok (found : cut last c rest = .ok piece) :
    uncommentedFrom last (c :: rest)
      = piece.left (c :: rest) ++ uncommentedFrom (behind last piece.kind) piece.rest := by
  rw [uncommentedFrom]
  split
  · rename_i fault other
    rw [found] at other
    cases other
  · rename_i same other
    rw [found] at other
    cases other
    rfl

theorem tokensFrom_of_error {fault : SyntaxFault} (found : cut last c rest = .error fault) :
    tokensFrom line last (c :: rest) = .error ⟨fault, line⟩ := by
  rw [tokensFrom]
  split
  · rename_i other same
    rw [found] at same
    cases same
    rfl
  · rename_i piece other
    rw [found] at other
    cases other

/-- The tokens of a text, with the first one cut off. -/
theorem tokensFrom_of_ok (found : cut last c rest = .ok piece) :
    tokensFrom line last (c :: rest)
      = (tokensFrom (line + piece.breaks) (behind last piece.kind) piece.rest).map
          ((piece.kind.map fun kind => (⟨kind, line⟩ : Token)).toList ++ ·) := by
  rw [tokensFrom]
  split
  · rename_i fault other
    rw [found] at other
    cases other
  · rename_i same other
    rw [found] at other
    cases other
    split
    · rename_i none_
      rw [none_]
      cases inner : tokensFrom (line + piece.breaks) last piece.rest <;>
        simp [behind, inner, Except.map]
    · rename_i kind some_
      rw [some_]
      rfl

/-- A token that is no comment on one line is left as it was. -/
theorem left_of_solid {front : List Char} (same : c :: rest = front ++ piece.rest)
    (solid : ∀ kind ∈ piece.kind, kind.isAside = false) : piece.left (c :: rest) = front := by
  have apart : (piece.kind.map Kind.isAside).getD false = false := by
    cases kind : piece.kind with
    | none => rfl
    | some kind' => exact solid kind' kind
  rw [Cut.left, apart, same, List.length_append, Nat.add_sub_cancel, List.take_left]
  rfl

theorem left_of_aside {kind : Kind} (is : piece.kind = some kind) (aside : kind.isAside = true) :
    piece.left (c :: rest) = [' '] := by
  simp [Cut.left, is, aside]

/-- A text and what it is without its comments differ only from the first of them on. -/
theorem near_uncommented (last : Option Kind) (chars : List Char) :
    Near chars (uncommentedFrom last chars) := by
  fun_induction uncommentedFrom last chars with
  | case1 => exact .refl []
  | case2 => exact .refl _
  | case3 last c rest piece found ih =>
    by_cases solid : ∀ kind ∈ piece.kind, kind.isAside = false
    · obtain ⟨front, same, -⟩ := cut_spells found
      rw [left_of_solid same solid, same]
      exact ih.append front
    · simp only [not_forall, Bool.not_eq_false] at solid
      obtain ⟨kind, is, aside⟩ := solid
      obtain ⟨text, rfl⟩ : ∃ text, kind = .comment text := by
        cases kind <;> first | exact ⟨_, rfl⟩ | cases aside
      rw [left_of_aside is aside, (cut_comment found is).1]
      exact .comment rest _

/-- Blanks that end no line are cut off as such, or passed. -/
theorem cut_inlineBlank (blank : isInlineBlank c = true) (last : Option Kind) (rest : List Char) :
    ∃ piece, cut last c rest = .ok piece ∧ ∀ kind ∈ piece.kind, kind.isGap = true := by
  by_cases return_ : c = '\r'
  · subst return_
    exact ⟨⟨none, rest, 0⟩, rfl, fun kind member => by cases member⟩
  · obtain ⟨text, found⟩ := cut_blank last blank return_ rest
    refine ⟨_, found, ?_⟩
    rintro kind ⟨⟩
    rfl

theorem isAside_of_isGap {kind : Kind} (solid : kind.isGap = false) : kind.isAside = false := by
  cases kind <;> first | rfl | exact solid

/-- The line ends of a gap are none. -/
theorem breaks_of_gap {kind : Kind} (found : cut last c rest = .ok piece)
    (is : piece.kind = some kind) (gap : kind.isGap = true) : piece.breaks = 0 := by
  have counted := cut_breaks found
  rw [is] at counted
  cases kind with
  | space text => exact counted.symm
  | comment text =>
    simp only [Kind.isGap, Kind.isAside, Bool.not_eq_true', List.contains_eq_mem,
      decide_eq_false_iff_not] at gap
    simpa [Kind.breaks, Kind.escapedEnds, List.count_eq_zero.mpr gap] using counted.symm
  | _ => cases gap

theorem behind_of_gap {kind : Kind} (gap : kind.isGap = true) (last : Option Kind) :
    behind last (some kind) = last := by
  cases kind <;> first | rfl | cases gap

/-- What a gap leaves in the text are blanks, and the first is no carriage return. -/
theorem left_of_gap {kind : Kind} (found : cut last c rest = .ok piece)
    (is : piece.kind = some kind) (gap : kind.isGap = true) :
    ∃ d blanks, piece.left (c :: rest) = d :: blanks ∧ d ≠ '\r' ∧
      ∀ e ∈ d :: blanks, isInlineBlank e = true := by
  by_cases aside : kind.isAside = true
  · refine ⟨' ', [], left_of_aside is aside, by decide, fun e member => ?_⟩
    rw [List.mem_singleton.mp member]
    decide
  · obtain ⟨text, rfl⟩ : ∃ text, kind = .space text := by
      cases kind <;> first | exact ⟨_, rfl⟩ | cases gap | exact absurd gap aside
    obtain ⟨front, same, spells⟩ := cut_spells found
    rw [is] at spells
    generalize read : some (Kind.space text) = given at spells
    cases spells <;> cases read
    rename_i some_ blank
    obtain ⟨d, blanks, rfl⟩ := List.exists_cons_of_ne_nil some_
    refine ⟨d, blanks, left_of_solid same ?_, ?_, blank⟩
    · rw [is]
      rintro _ ⟨⟩
      rfl
    · obtain ⟨rfl, -⟩ := List.cons.inj same
      rintro rfl
      obtain rfl : ⟨none, rest, 0⟩ = piece := Except.ok.inj found
      cases is

/-- The tokens of a gap at the front of a text, which is a run of blanks once its comments are
spaces, and what follows it. -/
structure GapAhead (line : Nat) (last : Option Kind) (chars : List Char) (passed : List Token)
    (more : List Char) : Prop where
  gaps : ∀ token ∈ passed, token.kind.isGap = true
  read : tokensFrom line last chars = (tokensFrom line last more).map (passed ++ ·)
  blanks : (uncommentedFrom last chars).dropWhile isInlineBlank = uncommentedFrom last more
  short : more.length ≤ chars.length

theorem GapAhead.none (line : Nat) {chars : List Char}
    (starts : ∀ d, (uncommentedFrom last chars).head? = some d → isInlineBlank d = false) :
    GapAhead line last chars [] chars where
  gaps := fun _ member => by cases member
  read := by cases tokensFrom line last chars <;> rfl
  blanks := by
    cases text : uncommentedFrom last chars with
    | nil => rfl
    | cons d rest => exact List.dropWhile_cons_of_neg (by simp [starts d (by rw [text]; rfl)])
  short := Nat.le_refl _

/-- One more token of a gap, or a carriage return. -/
theorem GapAhead.next {passed : List Token} {more : List Char} (found : cut last c rest = .ok piece)
    (uncounted : piece.breaks = 0) (same : behind last piece.kind = last)
    (own : ∀ kind ∈ piece.kind, kind.isGap = true)
    (blank : ∀ d ∈ piece.left (c :: rest), isInlineBlank d = true)
    (ahead : GapAhead line last piece.rest passed more) :
    GapAhead line last (c :: rest)
      ((piece.kind.map fun kind => (⟨kind, line⟩ : Token)).toList ++ passed) more where
  gaps := by
    refine List.forall_mem_append.mpr ⟨fun token member => ?_, ahead.gaps⟩
    obtain ⟨kind, inside, rfl⟩ := Option.map_eq_some_iff.mp (Option.mem_toList.mp member)
    exact own kind inside
  read := by
    rw [tokensFrom_of_ok found, uncounted, same, Nat.add_zero, ahead.read]
    cases tokensFrom line last more <;> simp [Except.map]
  blanks := by
    rw [uncommentedFrom_of_ok found, same, List.dropWhile_append_of_pos blank, ahead.blanks]
  short := by
    have taken := cut_length found
    have rest := ahead.short
    rw [List.length_cons]
    omega

theorem gap_ahead (line : Nat) (last : Option Kind) (chars : List Char) :
    ∃ passed more, GapAhead line last chars passed more := by
  fun_induction uncommentedFrom last chars with
  | case1 last => exact ⟨[], [], .none line (by simp [uncommentedFrom])⟩
  | case2 last c rest fault found =>
    refine ⟨[], c :: rest, .none line ?_⟩
    rw [uncommentedFrom_of_error found]
    rintro d ⟨⟩
    refine Bool.eq_false_iff.mpr fun blank => ?_
    obtain ⟨piece, other, -⟩ := cut_inlineBlank blank last rest
    rw [found] at other
    cases other
  | case3 last c rest piece found ih =>
    obtain ⟨passed, more, ahead⟩ := ih
    obtain ⟨front, same, spells⟩ := cut_spells found
    cases is : piece.kind with
    | none =>
      rw [is] at spells ahead
      cases spells
      refine ⟨_, more, ahead.next found ?_ (by rw [is]; rfl) (by simp [is]) ?_⟩
      · simpa [is] using (cut_breaks found).symm
      · rw [left_of_solid same (by simp [is])]
        exact List.forall_mem_singleton.mpr rfl
    | some kind =>
      by_cases gap : kind.isGap = true
      · rw [is, behind_of_gap gap] at ahead
        obtain ⟨d, blanks, left, -, blank⟩ := left_of_gap found is gap
        refine ⟨_, more, ahead.next found (breaks_of_gap found is gap) ?_ ?_ (left ▸ blank)⟩
        · rw [is, behind_of_gap gap]
        · rw [is]
          rintro _ ⟨⟩
          exact gap
      · -- A token that is no gap starts with a character that is no blank.
        refine ⟨[], c :: rest, .none line ?_⟩
        have solid := isAside_of_isGap (Bool.eq_false_iff.mpr gap)
        rw [uncommentedFrom_of_ok found, left_of_solid same (by rw [is]; rintro _ ⟨⟩; exact solid)]
        obtain ⟨e, others, rfl⟩ := List.exists_cons_of_ne_nil spells.ne_nil
        obtain ⟨rfl, -⟩ := List.cons.inj same
        rintro d ⟨⟩
        refine Bool.eq_false_iff.mpr fun blank => ?_
        obtain ⟨other, again, gaps⟩ := cut_inlineBlank blank last rest
        rw [found] at again
        cases again
        exact gap (gaps kind is)
/-- A text has the same tokens without its comments, but for the gaps. -/
theorem tokensFrom_uncommented (line : Nat) (last : Option Kind) (chars : List Char) :
    Agree Alike (tokensFrom line last chars)
      (tokensFrom line last (uncommentedFrom last chars)) := by
  induction long : chars.length using Nat.strong_induction_on generalizing line last chars with
  | _ n ih =>
    subst long
    cases chars with
    | nil =>
      simp only [uncommentedFrom, tokensFrom]
      exact .nil
    | cons c rest =>
      cases found : cut last c rest with
      | error fault =>
        rw [uncommentedFrom_of_error found, tokensFrom_of_error found]
        rfl
      | ok piece =>
        have short := cut_length found
        obtain ⟨front, same, spells⟩ := cut_spells found
        have near := near_uncommented (behind last piece.kind) piece.rest
        by_cases gap : ∃ kind ∈ piece.kind, kind.isGap = true
        · obtain ⟨kind, is, gap⟩ := gap
          obtain ⟨d, blanks, left, noReturn, blank⟩ := left_of_gap found is gap
          obtain ⟨passed, more, ahead⟩ := gap_ahead line last piece.rest
          obtain ⟨own, others⟩ := List.forall_mem_cons.mp blank
          obtain ⟨text, spaced⟩ := cut_blank last own noReturn
            (blanks ++ uncommentedFrom last piece.rest)
          have inner := ih more.length (by have := ahead.short; simp only [List.length_cons]; omega)
            line last more rfl
          have stops : (blanks ++ uncommentedFrom last piece.rest).dropWhile isInlineBlank
              = uncommentedFrom last more := by
            rw [List.dropWhile_append_of_pos others, ahead.blanks]
          have read : tokensFrom line last (c :: rest)
              = (tokensFrom line last more).map ((⟨kind, line⟩ :: passed) ++ ·) := by
            rw [tokensFrom_of_ok found, breaks_of_gap found is gap, is, behind_of_gap gap,
              Nat.add_zero, ahead.read]
            cases tokensFrom line last more <;> rfl
          rw [read, uncommentedFrom_of_ok found, left, List.cons_append, is, behind_of_gap gap,
            tokensFrom_of_ok spaced]
          simp only [stops, Nat.add_zero, behind_of_gap (show (Kind.space text).isGap = true from rfl)]
          have gaps : ∀ token ∈ (⟨kind, line⟩ :: passed : List Token), token.kind.isGap = true :=
            List.forall_mem_cons.mpr ⟨gap, ahead.gaps⟩
          exact inner.map fun a b alike => .gap (List.cons_ne_nil _ passed) gaps text line alike
        · have solid : ∀ kind ∈ piece.kind, kind.isGap = false := fun kind is =>
            Bool.eq_false_iff.mpr fun is_ => gap ⟨kind, is, is_⟩
          obtain ⟨d, more, rfl⟩ := List.exists_cons_of_ne_nil spells.ne_nil
          obtain ⟨rfl, parts⟩ := List.cons.inj same
          have left := left_of_solid same fun kind is => isAside_of_isGap (solid kind is)
          rw [uncommentedFrom_of_ok found, left, List.cons_append, tokensFrom_of_ok found]
          rw [parts] at found
          rw [tokensFrom_of_ok (cut_replace near found rfl solid)]
          refine (ih _ (by simpa using short) _ _ _ rfl).map fun a b alike => ?_
          cases is : piece.kind with
          | none => exact alike
          | some kind => exact .cons (solid kind is) alike

end Cuts

/-- A script has the same tokens without its comments, but for the gaps. -/
theorem tokens_uncommented (script : String) :
    Agree Alike (tokens script) (tokens (uncommented script)) := by
  unfold tokens uncommented
  rw [String.toList_ofList]
  exact tokensFrom_uncommented 1 none script.toList

end ApiProbe.Script
