import ApiProbe.Proofs.Variable.Escapes

/-!
What is left of a text around its tokens. Read as it is written, a text is a row of characters,
escapes and tokens; a copy of it has every token replaced, every escape reduced to its braces, and
all else as it was. A substitution makes this copy, with two exceptions: stand-ins are taken for
escapes wherever they come from, and nothing is reduced in a text without doubled braces.
-/
namespace ApiProbe.Substitution

/-- A part of a text as it is written. -/
inductive Segment
  | single (glyph : Glyph)
  | token (inner : List Glyph)

namespace Segment

def source : Segment → List Char
  | single glyph => glyph.source
  | token inner => ['{', '{'] ++ inner.flatMap Glyph.source ++ ['}', '}']

/-- The segment with its escapes reduced to their braces. -/
def reduced : Segment → List Char
  | single glyph => glyph.reduced
  | token inner => ['{', '{'] ++ reduce inner ++ ['}', '}']

/-- The piece that stands for a segment while tokens are replaced. -/
def piece : Segment → Piece
  | single glyph => .plain glyph.mark
  | token inner => .token (inner.map Glyph.mark)

theorem unshield_piece (segment : Segment) :
    unshield segment.piece.source = unshield segment.reduced := by
  cases segment with
  | single glyph => exact glyph.unshield_mark
  | token inner =>
    simp only [piece, Piece.source, reduced, unshield_append, unshield_marks]

end Segment

/-- True of braces that are not escaped. -/
def Glyph.isBrace : Glyph → Bool
  | char c => Substitution.isBrace c
  | opening | closing => false

theorem Glyph.isBrace_mark (glyph : Glyph) : Substitution.isBrace glyph.mark = glyph.isBrace := by
  cases glyph <;> rfl

/-- Stand-ins are no braces. -/
theorem Glyph.eq_char_of_mark {glyph : Glyph} {c : Char} (brace : Substitution.isBrace c = true)
    (same : glyph.mark = c) : glyph = .char c := by
  subst same
  cases glyph with
  | char c => rfl
  | opening | closing => cases brace

theorem braces_of_marks {brace : Char} (isBrace_ : isBrace brace = true) {row : List Glyph}
    {after : List Char} (same : row.map Glyph.mark = brace :: brace :: after) :
    ∃ rest, row = .char brace :: .char brace :: rest ∧ rest.map Glyph.mark = after := by
  obtain ⟨first, others, rfl, one, same⟩ := List.map_eq_cons_iff.mp same
  obtain ⟨second, rest, rfl, two, same⟩ := List.map_eq_cons_iff.mp same
  refine ⟨rest, ?_, same⟩
  rw [Glyph.eq_char_of_mark isBrace_ one, Glyph.eq_char_of_mark isBrace_ two]

/-- A token at the start of a row: the glyphs between its braces, and what follows. -/
def tokenIn? : List Glyph → Option (List Glyph × List Glyph)
  | .char '{' :: .char '{' :: rest =>
    let inner := rest.takeWhile fun glyph => !glyph.isBrace
    match rest.dropWhile fun glyph => !glyph.isBrace with
    | .char '}' :: .char '}' :: after => if inner.isEmpty then none else some (inner, after)
    | _ => none
  | _ => none

/-- Tokens are the same with stand-ins in place of escapes. -/
theorem token?_marks (row : List Glyph) : token? (row.map Glyph.mark) =
    (tokenIn? row).map (Prod.map (List.map Glyph.mark) (List.map Glyph.mark)) := by
  have inside : (fun c => !isBrace c) ∘ Glyph.mark = fun glyph => !glyph.isBrace :=
    funext fun glyph => congrArg not glyph.isBrace_mark
  unfold tokenIn?
  split
  · rename_i rest
    simp only [List.map_cons, Glyph.mark, token?, List.takeWhile_map, List.dropWhile_map, inside]
    generalize rest.takeWhile (fun glyph => !glyph.isBrace) = inner
    generalize rest.dropWhile (fun glyph => !glyph.isBrace) = left
    split
    · rename_i after closes
      obtain ⟨more, rfl, rfl⟩ := braces_of_marks rfl closes
      simp only [List.isEmpty_map]
      cases inner.isEmpty <;> rfl
    · rename_i unclosed
      split
      · exact absurd rfl (unclosed _)
      · rfl
  · rename_i unopened
    unfold token?
    split
    · rename_i rest opens
      obtain ⟨more, same, -⟩ := braces_of_marks rfl opens
      exact absurd same (unopened more)
    · rfl

theorem tokenIn?_shorter {row inner after : List Glyph} (found : tokenIn? row = some (inner, after)) :
    after.length < row.length := by
  have marked := token?_marks row
  rw [found] at marked
  simpa using token?_shorter marked

theorem tokenIn?_source {row inner after : List Glyph} (found : tokenIn? row = some (inner, after)) :
    row.flatMap Glyph.source = (Segment.token inner).source ++ after.flatMap Glyph.source := by
  unfold tokenIn? at found
  split at found
  · rename_i rest
    dsimp only at found
    split at found
    · rename_i more dropped
      split at found
      · cases found
      · cases found
        have whole := List.takeWhile_append_dropWhile (l := rest) (p := fun glyph => !glyph.isBrace)
        rw [dropped] at whole
        generalize rest.takeWhile (fun glyph => !glyph.isBrace) = inside at whole
        subst whole
        simp [Segment.source, Glyph.source]
    · cases found
  · cases found

/-- Cuts a row at its tokens, taken from the left. -/
def segments (row : List Glyph) : List Segment :=
  match _found : tokenIn? row with
  | some (inner, after) => .token inner :: segments after
  | none =>
    match row with
    | [] => []
    | glyph :: rest => .single glyph :: segments rest
termination_by row.length
decreasing_by
  · exact tokenIn?_shorter _found
  · simp

/-- Cutting a row loses nothing of it. -/
theorem source_segments (row : List Glyph) :
    (segments row).flatMap Segment.source = row.flatMap Glyph.source := by
  fun_induction segments row with
  | case1 row inner after found ih =>
    rw [List.flatMap_cons, ih, tokenIn?_source found]
  | case2 => rfl
  | case3 glyph rest _ ih => rw [List.flatMap_cons, List.flatMap_cons, ih]; rfl

/-- The pieces of a text with stand-ins are its segments. -/
theorem pieces_marks (row : List Glyph) :
    pieces (row.map Glyph.mark) = (segments row).map Segment.piece := by
  fun_induction segments row with
  | case1 row inner after found ih =>
    have marked := token?_marks row
    rw [found] at marked
    rw [pieces]
    split
    · rename_i own rest same
      cases same.symm.trans marked
      rw [ih]
      rfl
    · rename_i none_
      cases none_.symm.trans marked
  | case2 =>
    rw [List.map_nil, pieces]
    rfl
  | case3 glyph rest none_ ih =>
    have marked := token?_marks (glyph :: rest)
    rw [none_] at marked
    rw [List.map_cons] at marked ⊢
    rw [pieces]
    split
    · rename_i own rest same
      cases same.symm.trans marked
    · change Piece.plain glyph.mark :: pieces (rest.map Glyph.mark) = _
      rw [ih]
      rfl

/-- A row in which no braces open has no tokens. -/
theorem segments_flat {row : List Glyph} (flat : mayRefer (row.map Glyph.mark) = false) :
    segments row = row.map .single := by
  induction row with
  | nil =>
    rw [segments]
    rfl
  | cons glyph rest ih =>
    have marked := token?_marks (glyph :: rest)
    rw [token?_of_plain flat] at marked
    have later := (mayRefer_cons_eq_false_iff.mp flat).2
    rw [segments]
    split
    · rename_i found
      rw [found] at marked
      cases marked
    · rw [List.map_cons, ← ih later]

/-- The segments of a text. -/
def segmentsOf (text : List Char) : List Segment := segments (glyphs text)

theorem source_segmentsOf (text : List Char) :
    (segmentsOf text).flatMap Segment.source = text := by
  rw [segmentsOf, source_segments, source_glyphs]

theorem pieces_shield (text : List Char) :
    pieces (shield text) = (segmentsOf text).map Segment.piece := by
  rw [shield_eq_map, pieces_marks]
  rfl

section Copy
variable (source : Source) (depth : Nat)

/-- Replaces a token by what it stands for; `left` is what is left of one that cannot be replaced. -/
def replaceToken (nested : Option (Supply → List String → List Char → Except Abort Outcome))
    (supply : Supply) (met : Met) (left : List Char) : Except Abort Outcome :=
  if met.Blank then .ok ⟨left, [], supply⟩
  else if met.Generates then generate supply met.name left
  else if met.name ∈ met.holders then .ok ⟨left, [.circular met.name], supply⟩
  else
    match source met.name with
    | none => .ok ⟨left, [.undefined met.name], supply⟩
    | some value =>
      if mayRefer value.toList then
        match nested with
        | none => .ok ⟨value.toList, [.tooDeep depth met.name], supply⟩
        | some copyValue => copyValue supply (met.name :: met.holders) value.toList
      else .ok ⟨value.toList, [], supply⟩

/-- Copies one segment. A token that cannot be replaced is copied like the text around it; escapes in
the name of a variable are looked up as their stand-ins. -/
def copySegment (holders : List String)
    (nested : Option (Supply → List String → List Char → Except Abort Outcome))
    (supply : Supply) : Segment → Except Abort Outcome
  | .single glyph => .ok ⟨glyph.reduced, [], supply⟩
  | .token inner =>
    replaceToken source depth nested supply ⟨holders, 0, inner.map Glyph.mark⟩
      (Segment.token inner).reduced

/-- Copies segments in a row, each with the supply that the one before it left. -/
def copyRow (step : Supply → Segment → Except Abort Outcome) (supply : Supply) :
    List Segment → Except Abort Outcome
  | [] => .ok ⟨[], [], supply⟩
  | segment :: rest => followedBy (step supply segment) fun supply => copyRow step supply rest

/-- Copies a text. The values of tokens that refer further are copied in their place, as long as
levels are left; all other values are inserted as they are. -/
def copy : Nat → Supply → List String → List Char → Except Abort Outcome
  | 0, supply, holders, text =>
    copyRow (copySegment source depth holders none) supply (segmentsOf text)
  | levels + 1, supply, holders, text =>
    copyRow (copySegment source depth holders (some (copy levels))) supply (segmentsOf text)

variable {source depth}

theorem generate_shown (supply : Supply) (name : String) {literal left : List Char}
    (alike : unshield literal = unshield left) :
    (generate supply name literal).map Outcome.shown =
      (generate supply name left).map Outcome.shown := by
  unfold generate
  cases Generated.evaluate supply name with
  | ok result => rfl
  | error trouble =>
    cases trouble with
    | refused error => simp only [Except.map, Outcome.shown, alike]
    | outOfCalendar => rfl

/-- Expansions that show alike. -/
def Alike (expanded copied : Option (Supply → List String → List Char → Except Abort Outcome)) :
    Prop :=
  (expanded = none ∧ copied = none) ∨
    ∃ expand copy, expanded = some expand ∧ copied = some copy ∧ ∀ supply holders text,
      (expand supply holders text).map Outcome.shown = (copy supply holders text).map Outcome.shown

theorem replaceToken_shown {expanded copied : Option (Supply → List String → List Char →
    Except Abort Outcome)} (alike : Alike expanded copied) (supply : Supply) (met : Met)
    {literal left : List Char} (same : unshield literal = unshield left) :
    (replaceToken source depth expanded supply met literal).map Outcome.shown =
      (replaceToken source depth copied supply met left).map Outcome.shown := by
  have stays (warnings : List Warning) :
      (Except.ok ⟨literal, warnings, supply⟩ : Except Abort Outcome).map Outcome.shown =
        (Except.ok ⟨left, warnings, supply⟩ : Except Abort Outcome).map Outcome.shown := by
    simp only [Except.map, Outcome.shown, same]
  unfold replaceToken
  split
  · exact stays _
  split
  · exact generate_shown supply met.name same
  split
  · exact stays _
  split
  · exact stays _
  · split
    · obtain ⟨rfl, rfl⟩ | ⟨expand, copy, rfl, rfl, nested⟩ := alike
      · rfl
      · exact nested ..
    · rfl

/-- A piece shows what the copy of its segment shows. -/
theorem expandPiece_shown {expanded copied : Option (Supply → List String → List Char →
    Except Abort Outcome)} (alike : Alike expanded copied) (holders : List String) (supply : Supply)
    (segment : Segment) :
    (expandPiece source depth holders expanded supply segment.piece).map Outcome.shown =
      (copySegment source depth holders copied supply segment).map Outcome.shown := by
  cases segment with
  | single glyph =>
    simp only [Segment.piece, expandPiece, copySegment, Except.map, Outcome.shown,
      glyph.unshield_mark]
  | token inner =>
    have left : unshield (Met.mk holders 0 (inner.map Glyph.mark)).literal =
      unshield (Segment.token inner).reduced := Segment.unshield_piece (.token inner)
    exact (congrArg _ (expandPiece_met expanded supply ⟨holders, 0, inner.map Glyph.mark⟩)).trans
      (replaceToken_shown alike supply _ left)

theorem joinAll_pieces {step : Supply → Piece → Except Abort Outcome}
    {copyStep : Supply → Segment → Except Abort Outcome}
    (each : ∀ supply segment, (step supply segment.piece).map Outcome.shown =
      (copyStep supply segment).map Outcome.shown) (supply : Supply) (row : List Segment) :
    (joinAll step supply (row.map Segment.piece)).map Outcome.shown =
      (copyRow copyStep supply row).map Outcome.shown := by
  induction row generalizing supply with
  | nil => rfl
  | cons segment rest ih =>
    rw [List.map_cons, joinAll_cons, copyRow]
    have own := matched_shown_iff.mpr (each supply segment)
    have later supply := matched_shown_iff.mpr (ih supply)
    exact matched_shown_iff.mp
      (own.followedBy (fun same => (Outcome.mk.inj same).2.2) later shown_join)

/-- An expansion is a copy with its stand-ins turned into braces. -/
theorem expand_eq_copy (levels : Nat) (supply : Supply) (holders : List String) (text : List Char) :
    expand source depth levels supply holders text =
      (copy source depth levels supply holders text).map Outcome.shown := by
  induction levels generalizing supply holders text with
  | zero =>
    rw [expand_eq_map, copy, pieces_shield]
    refine joinAll_pieces ?_ supply _
    intro supply segment
    exact expandPiece_shown (.inl ⟨rfl, rfl⟩) holders supply segment
  | succ levels ih =>
    rw [expand_eq_map, copy, pieces_shield]
    refine joinAll_pieces ?_ supply _
    intro supply segment
    refine expandPiece_shown (.inr ⟨_, _, rfl, rfl, ?_⟩) holders supply segment
    -- Stand-ins are turned into braces in every value and in the text around it: once would do.
    intro supply holders text
    rw [ih]
    exact map_shown_shown _

/-- A text without doubled braces has nothing to replace. -/
theorem copy_flat {text : List Char} (flat : mayRefer text = false) (levels : Nat)
    (supply : Supply) (holders : List String) :
    copy source depth levels supply holders text = .ok ⟨reduce (glyphs text), [], supply⟩ := by
  have row : segmentsOf text = (glyphs text).map .single :=
    segments_flat (shield_eq_map text ▸ mayRefer_shield flat)
  have copied (nested : Option (Supply → List String → List Char → Except Abort Outcome)) :
      copyRow (copySegment source depth holders nested) supply (segmentsOf text) =
        .ok ⟨reduce (glyphs text), [], supply⟩ := by
    rw [row]
    induction glyphs text with
    | nil => rfl
    | cons glyph rest ih =>
      rw [List.map_cons, copyRow]
      simp only [followedBy, copySegment, bind, Except.bind, ih]
      rfl
  cases levels <;> exact copied _

end Copy

/-- Reducing escapes changes a text if there are any. -/
theorem reduce_glyphs_eq_iff {text : List Char} (flat : mayRefer text = false) :
    reduce (glyphs text) = text ↔ ¬EscapesClosing text := by
  constructor
  · intro same escapes
    have less := count_shield_lt flat escapes
    rw [shield_eq_map, ← count_reduce, same] at less
    exact Nat.lt_irrefl _ less
  · intro none_
    have written : ∀ glyph ∈ glyphs text, glyph.reduced = glyph.source := by
      intro glyph member
      apply glyph.reduced_eq_source
      apply Bool.eq_false_iff.mpr
      intro escape
      exact none_ ((any_isEscape_of_flat flat).mp (List.any_eq_true.mpr ⟨glyph, member, escape⟩))
    rw [reduce, List.flatMap_congr written, source_glyphs]

/-- A substitution returns the copy of a text, with stand-ins turned into braces if the text holds
doubled braces, and the text as it is otherwise. So every token is replaced, every escape reduced and
all else left alone exactly if no stand-ins show in the copy or, in a text without doubled braces, if
there are no escaped closing ones. -/
theorem copied_iff_unmarked (source : Source) (depth : Nat) (supply : Supply) (text : String) :
    (segmentsOf text.toList).flatMap Segment.source = text.toList ∧
      match copy source depth depth supply [] text.toList with
      | .error abort => run source depth supply text = .error abort
      | .ok copied =>
        let shown := if mayRefer text.toList then unshield copied.text else text.toList
        run source depth supply text = .ok { copied with text := shown } ∧
          (shown = copied.text ↔
            if mayRefer text.toList then Unmarked copied.text else ¬EscapesClosing text.toList) := by
  refine ⟨source_segmentsOf text.toList, ?_⟩
  cases refers : mayRefer text.toList with
  | true =>
    have ran : run source depth supply text =
        (copy source depth depth supply [] text.toList).map Outcome.shown := by
      rw [run, if_pos refers, expand_eq_copy]
    rw [ran]
    cases copy source depth depth supply [] text.toList with
    | error abort => rfl
    | ok copied => exact ⟨rfl, unshield_eq_iff⟩
  | false =>
    -- The text is returned at once, while a copy of it loses its escapes.
    rw [copy_flat refers, run, if_neg (Bool.eq_false_iff.mp refers)]
    refine ⟨rfl, ?_⟩
    simp only [Bool.false_eq_true, if_false]
    rw [eq_comm]
    exact reduce_glyphs_eq_iff refers

/-- A value that is a stand-in comes out as doubled braces. -/
theorem copied_iff_unmarked_stand_in :
    ∃ copied, copy (fun _ => some "\uE000") 5 5 ⟨⟨0⟩, 0⟩ [] "{{a}}".toList = .ok copied ∧
      copied.text = "\uE000".toList ∧
        run (fun _ => some "\uE000") 5 ⟨⟨0⟩, 0⟩ "{{a}}" ≠ .ok copied := by
  have row : segmentsOf "{{a}}".toList = [.token [.char 'a']] := by cbv
  have refers : mayRefer "{{a}}".toList = true := by decide
  have copied : copy (fun _ => some "\uE000") 5 5 ⟨⟨0⟩, 0⟩ [] "{{a}}".toList =
      .ok ⟨"\uE000".toList, [], ⟨⟨0⟩, 0⟩⟩ := by
    rw [copy, row]
    rfl
  refine ⟨_, copied, rfl, ?_⟩
  have exact_ := (copied_iff_unmarked (fun _ => some "\uE000") 5 ⟨⟨0⟩, 0⟩ "{{a}}").2
  simp only [copied, refers, if_true] at exact_
  obtain ⟨ran, asCopied⟩ := exact_
  intro same
  have unmarked := asCopied.mp (congrArg Outcome.text (Except.ok.inj (ran.symm.trans same)))
  exact (unmarked openMark (by decide)).1 rfl

end ApiProbe.Substitution
