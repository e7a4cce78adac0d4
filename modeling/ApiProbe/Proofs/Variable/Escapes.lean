import ApiProbe.Proofs.Variable.Settling

/-!
Escapes and their stand-ins. A text is a row of characters and escapes. Every escape loses its
backslash and no other backslash is lost, so their number tells whether there was anything to lose.
A text without doubled braces is expanded by turning its escapes and stand-ins into braces.

Two ways to expand a text are compared piece by piece: what holds of the outcomes of the pieces, and
is kept when outcomes are joined, holds of the whole (`Matched.followedBy`).
-/
namespace ApiProbe.Substitution

/-- A character of a text, or an escape in it. -/
inductive Glyph
  | char (c : Char)
  | opening
  | closing

namespace Glyph

def source : Glyph → List Char
  | char c => [c]
  | opening => ['\\', '{', '{']
  | closing => ['\\', '}', '}']

/-- The braces of an escape, without its backslash. -/
def reduced : Glyph → List Char
  | char c => [c]
  | opening => ['{', '{']
  | closing => ['}', '}']

/-- What stands in the text while tokens are looked for. -/
def mark : Glyph → Char
  | char c => c
  | opening => openMark
  | closing => closeMark

def isEscape : Glyph → Bool
  | char _ => false
  | opening | closing => true

theorem unshield_mark (glyph : Glyph) : unshield [glyph.mark] = unshield glyph.reduced := by
  cases glyph <;> rfl

theorem count_source (glyph : Glyph) : glyph.source.count '\\' =
    [glyph.mark].count '\\' + if glyph.isEscape then 1 else 0 := by
  cases glyph <;> rfl

theorem count_reduced (glyph : Glyph) : glyph.reduced.count '\\' = [glyph.mark].count '\\' := by
  cases glyph <;> rfl

theorem reduced_eq_source {glyph : Glyph} (char : glyph.isEscape = false) :
    glyph.reduced = glyph.source := by
  cases glyph with
  | char c => rfl
  | opening | closing => cases char

end Glyph

/-- The escapes of a text, taken from the left, and the characters between them. -/
def glyphs : List Char → List Glyph
  | '\\' :: '{' :: '{' :: rest => .opening :: glyphs rest
  | '\\' :: '}' :: '}' :: rest => .closing :: glyphs rest
  | c :: rest => .char c :: glyphs rest
  | [] => []

/-- The text with its escapes reduced to their braces. -/
def reduce (row : List Glyph) : List Char := row.flatMap Glyph.reduced

theorem source_glyphs (text : List Char) : (glyphs text).flatMap Glyph.source = text := by
  fun_induction glyphs text with
  | case1 rest ih | case2 rest ih => rw [List.flatMap_cons, ih]; rfl
  | case3 c rest _ _ ih => rw [List.flatMap_cons, ih]; rfl
  | case4 => rfl

theorem shield_eq_map (text : List Char) : shield text = (glyphs text).map Glyph.mark := by
  fun_induction glyphs text with
  | case1 rest ih | case2 rest ih => rw [shield, ih]; rfl
  | case3 c rest noOpening noClosing ih =>
    rw [shield, ih]
    · rfl
    · exact noOpening
    · exact noClosing
  | case4 => rfl

theorem unshield_marks (row : List Glyph) :
    unshield (row.map Glyph.mark) = unshield (reduce row) := by
  induction row with
  | nil => rfl
  | cons glyph rest ih =>
    rw [List.map_cons, ← List.singleton_append, unshield_append, Glyph.unshield_mark, ih,
      ← unshield_append]
    rfl

theorem count_source (row : List Glyph) : (row.flatMap Glyph.source).count '\\' =
    (row.map Glyph.mark).count '\\' + row.countP Glyph.isEscape := by
  induction row with
  | nil => rfl
  | cons glyph rest ih =>
    rw [List.flatMap_cons, List.count_append, ih, glyph.count_source, List.map_cons,
      ← List.singleton_append (l := List.map _ _), List.count_append, List.countP_cons]
    omega

theorem count_reduce (row : List Glyph) :
    (reduce row).count '\\' = (row.map Glyph.mark).count '\\' := by
  induction row with
  | nil => rfl
  | cons glyph rest ih =>
    rw [List.map_cons, ← List.singleton_append (l := List.map _ _), List.count_append, ← ih,
      ← glyph.count_reduced, ← List.count_append]
    rfl

/-- Backslashes are lost with escapes alone. -/
theorem count_shield (text : List Char) :
    text.count '\\' = (shield text).count '\\' + (glyphs text).countP Glyph.isEscape := by
  have counted := count_source (glyphs text)
  rwa [source_glyphs, ← shield_eq_map] at counted

theorem count_unshield (text : List Char) : (unshield text).count '\\' = text.count '\\' := by
  induction text with
  | nil => rfl
  | cons c rest ih =>
    have first : (unshield [c]).count '\\' = [c].count '\\' := by
      by_cases opens : c = openMark
      · subst opens
        rfl
      by_cases closes : c = closeMark
      · subst closes
        rfl
      · simp [unshield, opens, closes]
    rw [← List.singleton_append, unshield_append, List.count_append, List.count_append, first, ih]

theorem occursIn_of_isPrefixOf {part text : List Char} (starts : part.isPrefixOf text = true) :
    Key.occursIn part text = true := by
  cases text with
  | nil =>
    cases part with
    | nil => rfl
    | cons c part => cases starts
  | cons c rest => rw [Key.occursIn, starts, Bool.true_or]

theorem occursIn_tail {c : Char} {part text : List Char}
    (found : Key.occursIn (c :: part) text = true) : Key.occursIn part text = true := by
  induction text with
  | nil => cases found
  | cons d rest ih =>
    rw [Key.occursIn, Bool.or_eq_true] at found
    rw [Key.occursIn, Bool.or_eq_true]
    right
    rcases found with here | later
    · rw [List.isPrefixOf, Bool.and_eq_true] at here
      exact occursIn_of_isPrefixOf here.2
    · exact ih later

/-- There are escapes among the glyphs of a text if any are written in it. -/
theorem any_isEscape (text : List Char) : (glyphs text).any Glyph.isEscape =
    (Key.occursIn ['\\', '{', '{'] text || Key.occursIn ['\\', '}', '}'] text) := by
  fun_induction glyphs text with
  | case1 rest _ | case2 rest _ =>
    simp [Glyph.isEscape, Key.occursIn]
  | case3 c rest noOpening noClosing ih =>
    have opens : ['\\', '{', '{'].isPrefixOf (c :: rest) = false := by
      apply Bool.eq_false_iff.mpr
      intro starts
      obtain ⟨after, same⟩ := List.isPrefixOf_iff_prefix.mp starts
      cases same
      exact noOpening _ rfl rfl
    have closes : ['\\', '}', '}'].isPrefixOf (c :: rest) = false := by
      apply Bool.eq_false_iff.mpr
      intro starts
      obtain ⟨after, same⟩ := List.isPrefixOf_iff_prefix.mp starts
      cases same
      exact noClosing _ rfl rfl
    rw [Key.occursIn, Key.occursIn, opens, closes, Bool.false_or, Bool.false_or, ← ih]
    rfl
  | case4 => rfl

theorem mayRefer_cons_eq_false_iff {c : Char} {rest : List Char} :
    mayRefer (c :: rest) = false ↔
      ¬(c = '{' ∧ rest.head? = some '{') ∧ mayRefer rest = false := by
  cases rest with
  | nil => simp [mayRefer, Key.occursIn, List.isPrefixOf]
  | cons d rest =>
    rw [mayRefer, mayRefer, Key.occursIn, Bool.or_eq_false_iff]
    refine and_congr_left fun _ => ?_
    rw [← Bool.not_eq_true, not_iff_not]
    simp [eq_comm (a := '{')]

theorem head?_of_shield {text : List Char} (opens : (shield text).head? = some '{') :
    text.head? = some '{' := by
  unfold shield at opens
  split at opens
  · cases opens
  · cases opens
  · simpa using opens
  · cases opens

/-- A text in which braces are escaped that might close a token. -/
def EscapesClosing (text : List Char) : Prop := Key.occursIn ['\\', '}', '}'] text = true

instance (text : List Char) : Decidable (EscapesClosing text) := inferInstanceAs (Decidable (_ = _))

/-- A text without stand-ins. -/
def Unmarked (text : List Char) : Prop := ∀ c ∈ text, c ≠ openMark ∧ c ≠ closeMark

instance (text : List Char) : Decidable (Unmarked text) := inferInstanceAs (Decidable (∀ _ ∈ _, _))

theorem unshield_eq_iff {text : List Char} : unshield text = text ↔ Unmarked text := by
  constructor
  · intro same
    rw [← same]
    exact unshield_unmarked text
  · exact unshield_eq

section Flat
variable {text : List Char} (flat : mayRefer text = false)
include flat

/-- Where no braces open, no such braces are escaped. -/
theorem noOpening_of_flat : Key.occursIn ['\\', '{', '{'] text = false := by
  apply Bool.eq_false_iff.mpr
  intro found
  have refers : mayRefer text = true := occursIn_tail found
  rw [refers] at flat
  cases flat

theorem any_isEscape_of_flat :
    (glyphs text).any Glyph.isEscape = true ↔ EscapesClosing text := by
  rw [any_isEscape, noOpening_of_flat flat, Bool.false_or]
  rfl

theorem count_shield_lt (escapes : EscapesClosing text) :
    (shield text).count '\\' < text.count '\\' := by
  obtain ⟨glyph, member, escape⟩ := List.any_eq_true.mp ((any_isEscape_of_flat flat).mpr escapes)
  have some_ : 0 < (glyphs text).countP Glyph.isEscape :=
    List.countP_pos_iff.mpr ⟨glyph, member, escape⟩
  have lost := count_shield text
  omega

theorem shield_of_flat (none_ : ¬EscapesClosing text) : shield text = text :=
  shield_eq (noOpening_of_flat flat) (Bool.eq_false_iff.mpr none_)

theorem unshield_shield_eq_iff :
    unshield (shield text) = text ↔ ¬EscapesClosing text ∧ Unmarked text := by
  constructor
  · intro same
    constructor
    · intro escapes
      have less := count_shield_lt flat escapes
      rw [← count_unshield, same] at less
      exact Nat.lt_irrefl _ less
    · rw [← same]
      exact unshield_unmarked (shield text)
  · rintro ⟨none_, unmarked⟩
    rw [shield_of_flat flat none_]
    exact unshield_eq unmarked

/-- Reducing escapes opens no braces. -/
theorem mayRefer_shield : mayRefer (shield text) = false := by
  fun_induction shield text with
  | case1 rest _ => simp [mayRefer, Key.occursIn] at flat
  | case2 rest ih =>
    have later := (mayRefer_cons_eq_false_iff.mp
      (mayRefer_cons_eq_false_iff.mp (mayRefer_cons_eq_false_iff.mp flat).2).2).2
    refine mayRefer_cons_eq_false_iff.mpr ⟨?_, ih later⟩
    rintro ⟨brace, -⟩
    cases brace
  | case3 c rest _ _ ih =>
    obtain ⟨apart, later⟩ := mayRefer_cons_eq_false_iff.mp flat
    refine mayRefer_cons_eq_false_iff.mpr ⟨?_, ih later⟩
    rintro ⟨rfl, opens⟩
    exact apart ⟨rfl, head?_of_shield opens⟩
  | case4 => rfl

theorem parts_flat (source : Source) (levels : Nat) (holders : List String) :
    parts source levels holders text = (shield text).map .plain := by
  have row := pieces_plain (mayRefer_shield flat)
  cases levels with
  | zero => simp [parts, row]
  | succ levels =>
    rw [parts, row, List.flatMap_map]
    exact List.map_eq_flatMap.symm

/-- A text without doubled braces is expanded by turning its escapes and stand-ins into braces. -/
theorem expand_flat (source : Source) (depth levels : Nat) (supply : Supply)
    (holders : List String) : expand source depth levels supply holders text =
      .ok ⟨unshield (shield text), [], supply⟩ := by
  rw [expand_eq_settleAll, parts_flat flat, settleAll_plain]
  rfl

end Flat

/-- An expansion is one pass over a text that ends with stand-ins turned into braces. -/
theorem expand_eq_map (source : Source) (depth levels : Nat) (supply : Supply)
    (holders : List String) (text : List Char) :
    expand source depth levels supply holders text =
      (joinAll (expandPiece source depth holders (match levels with
        | 0 => none
        | levels + 1 => some (expand source depth levels))) supply (pieces (shield text))).map
        Outcome.shown := by
  cases levels <;> rw [expand] <;> cases joinAll _ supply (pieces (shield text)) <;> rfl

/-- An outcome with one that starts from the supply it leaves. -/
def Outcome.join (one others : Outcome) : Outcome :=
  ⟨one.text ++ others.text, one.warnings ++ others.warnings, others.supply⟩

def followedBy (first : Except Abort Outcome) (rest : Supply → Except Abort Outcome) :
    Except Abort Outcome := do
  let one ← first
  let others ← rest one.supply
  pure (one.join others)

theorem joinAll_cons (step : Supply → Piece → Except Abort Outcome) (supply : Supply)
    (piece : Piece) (rest : List Piece) : joinAll step supply (piece :: rest) =
      followedBy (step supply piece) fun supply => joinAll step supply rest := rfl

/-- Results that break off alike, or that are outcomes which are related. -/
inductive Matched (related : Outcome → Outcome → Prop) :
    Except Abort Outcome → Except Abort Outcome → Prop
  | broken (abort : Abort) : Matched related (.error abort) (.error abort)
  | done {one other : Outcome} (holds : related one other) : Matched related (.ok one) (.ok other)

namespace Matched
variable {related further whole : Outcome → Outcome → Prop} {first first' : Except Abort Outcome}
  {rest rest' : Supply → Except Abort Outcome}

theorem refl (holds : ∀ outcome, related outcome outcome) (result : Except Abort Outcome) :
    Matched related result result := by
  cases result with
  | error abort => exact .broken abort
  | ok outcome => exact .done (holds outcome)

theorem map {change : Outcome → Outcome} (own : Matched related first first')
    (kept : ∀ {one other}, related one other → further (change one) (change other)) :
    Matched further (first.map change) (first'.map change) := by
  cases own with
  | broken abort => exact .broken abort
  | done holds => exact .done (kept holds)

/-- Related outcomes that leave the same supply are followed by what is related again. -/
theorem followedBy (own : Matched related first first')
    (supplies : ∀ {one other}, related one other → one.supply = other.supply)
    (later : ∀ supply, Matched further (rest supply) (rest' supply))
    (joined : ∀ {one other last last'}, related one other → further last last' →
      whole (one.join last) (other.join last')) :
    Matched whole (followedBy first rest) (followedBy first' rest') := by
  cases own with
  | broken abort => exact .broken abort
  | @done one other holds =>
    have tail := later one.supply
    simp only [Substitution.followedBy, bind, Except.bind, ← supplies holds]
    generalize rest one.supply = last, rest' one.supply = last' at tail
    cases tail with
    | broken abort => exact .broken abort
    | done more => exact .done (joined holds more)

end Matched

/-- Results that show alike. -/
theorem matched_shown_iff {first first' : Except Abort Outcome} :
    Matched (fun one other => one.shown = other.shown) first first' ↔
      first.map Outcome.shown = first'.map Outcome.shown := by
  constructor
  · intro own
    cases own with
    | broken abort => rfl
    | done same => exact congrArg Except.ok same
  · intro same
    cases first with
    | error abort =>
      cases first' with
      | error other =>
        cases same
        exact .broken abort
      | ok other => cases same
    | ok one =>
      cases first' with
      | error abort => cases same
      | ok other => exact .done (Except.ok.inj same)

theorem shown_join {one other last last' : Outcome} (own : one.shown = other.shown)
    (later : last.shown = last'.shown) : (one.join last).shown = (other.join last').shown := by
  obtain ⟨text, warnings, -⟩ := Outcome.mk.inj own
  obtain ⟨text', warnings', supply⟩ := Outcome.mk.inj later
  simp only [Outcome.shown, Outcome.join, unshield_append, text, text', warnings, warnings', supply]

end ApiProbe.Substitution
