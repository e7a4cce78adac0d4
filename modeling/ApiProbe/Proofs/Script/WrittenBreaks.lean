import ApiProbe.Proofs.Script.SourceBreaks
import ApiProbe.Proofs.Script.Lookahead

/-!
Line ends in what the lowering writes: in literals, in tokens that are written elsewhere or left out,
and in the output, piece by piece.
-/
namespace ApiProbe.Script

/-- A text on one line. -/
abbrev Flat (text : String) : Prop := '\n' ∉ text.toList

theorem flat_append {first second : String} (one : Flat first) (two : Flat second) :
    Flat (first ++ second) := by
  rw [Flat, String.toList_append, List.mem_append]
  exact not_or.mpr ⟨one, two⟩

/-- The characters of names with commas between them. -/
theorem forall_join {p : Char → Prop} (comma : ∀ c ∈ ", ".toList, p c) {names : List String}
    (each : ∀ name ∈ names, ∀ c ∈ name.toList, p c) :
    ∀ c ∈ (", ".intercalate names).toList, p c := by
  induction names with
  | nil => exact fun c member => by cases member
  | cons name rest ih =>
    have own := each name List.mem_cons_self
    have more := ih fun other member => each other (List.mem_cons_of_mem _ member)
    cases rest with
    | nil => simpa using own
    | cons second rest =>
      rw [String.intercalate_cons_of_ne_nil (List.cons_ne_nil second rest), String.toList_append,
        String.toList_append]
      exact List.forall_mem_append.mpr ⟨List.forall_mem_append.mpr ⟨own, comma⟩, more⟩

theorem flat_join {names : List String} (flat : ∀ name ∈ names, Flat name) :
    Flat (", ".intercalate names) := by
  have noBreak : ∀ c ∈ (", ".intercalate names).toList, c ≠ '\n' :=
    forall_join (by simp) fun name member c inside same => flat name member (same ▸ inside)
  exact fun member => noBreak '\n' member rfl

namespace Neat
variable {tokens : List Token}

theorem flat_word (neat : Neat tokens) {text : String}
    (named : ∃ token ∈ tokens, token.kind = .word text) : Flat text := by
  obtain ⟨token, inside, kind⟩ := named
  have held := neat token inside
  rwa [kind] at held

theorem flat_names (neat : Neat tokens) {names : List String}
    (named : ∀ name ∈ names, ∃ token ∈ tokens, token.kind = .word name) :
    Flat (", ".intercalate names) :=
  flat_join fun name member => neat.flat_word (named name member)

end Neat

namespace Literal

theorem count_requote (body : List Char) : (requote body).count '\n' = body.count '\n' := by
  fun_induction requote body with
  | case1 => rfl
  | case2 => rfl
  | case3 c rest dropped ih =>
    simp only [Bool.or_eq_true, beq_iff_eq] at dropped
    simp [List.count_cons, ih]
  | case4 c rest kept ih => simp [List.count_cons, ih]
  | case5 c rest _ _ mark ih =>
    rw [beq_iff_eq.mp mark]
    simp [ih]
  | case6 c rest _ _ _ ih => simp [List.count_cons, ih]

theorem count_patternBody (pattern : List Char) :
    (patternBody pattern).count '\n' = pattern.count '\n' := by
  fun_induction patternBody pattern with
  | case1 => rfl
  | case2 rest ih => simp [ih]
  | case3 c rest _ slash ih =>
    rw [beq_iff_eq.mp slash]
    simp [ih]
  | case4 c rest _ _ quote ih =>
    rw [beq_iff_eq.mp quote]
    simp [ih]
  | case5 c rest _ _ _ ih => simp [List.count_cons, ih]

theorem count_quote (body : List Char) : (quote body).count '\n' = body.count '\n' := by
  simp [quote, count_requote]

theorem count_template (body : List Char) : (template body).count '\n' = body.count '\n' := by
  simp [template]

/-- The flags that a pattern carries are letters of their own. -/
theorem count_regex (pattern flags : List Char) :
    (regex pattern flags).count '\n' = pattern.count '\n' := by
  have flat : '\n' ∉ patternPrefix flags := by
    have kept : '\n' ∉ flags.filter isPatternFlag := fun member =>
      absurd (List.mem_filter.mp member).2 (by decide)
    simp only [patternPrefix]
    split
    · exact List.not_mem_nil
    · simpa using kept
  simp [regex, count_patternBody, List.count_eq_zero.mpr flat]

/-- Escapes of line ends. A template has no escapes: there they become line ends. -/
def lineEscapes : List Char → Nat
  | '\\' :: 'n' :: rest => lineEscapes rest + 1
  | '\\' :: _ :: rest => lineEscapes rest
  | _ :: rest => lineEscapes rest
  | [] => 0

theorem pathRest_eq (chars : List Char) : (pathRest chars).1 ++ (pathRest chars).2 = chars := by
  induction chars with
  | nil => rfl
  | cons c rest ih =>
    simp only [pathRest]
    split
    · rw [List.cons_append, ih]
    · rfl

theorem not_mem_pathRest (chars : List Char) : '\n' ∉ (pathRest chars).1 := by
  induction chars with
  | nil => exact List.not_mem_nil
  | cons c rest ih =>
    simp only [pathRest]
    split
    · rename_i part
      rintro (_ | ⟨_, member⟩)
      · exact absurd part (by simp; decide)
      · exact ih member
    · exact List.not_mem_nil

theorem lineEscapes_of_ne {c : Char} (rest : List Char) (plain : c ≠ '\\') :
    lineEscapes (c :: rest) = lineEscapes rest := by
  rw [lineEscapes]
  · exact fun _ same => absurd same plain
  · exact fun _ _ same => absurd same plain

/-- There are no escapes in a path. -/
theorem lineEscapes_pathRest (chars : List Char) :
    lineEscapes (pathRest chars).2 = lineEscapes chars := by
  induction chars with
  | nil => rfl
  | cons c rest ih =>
    simp only [pathRest]
    split
    · rename_i part
      have plain : c ≠ '\\' := by
        rintro rfl
        exact absurd part (by simp; decide)
      rw [lineEscapes_of_ne rest plain]
      exact ih
    · rfl

theorem count_interpolated (body : List Char) :
    (interpolated body).count '\n' = body.count '\n' + lineEscapes body := by
  fun_induction interpolated body with
  | case1 => rfl
  | case2 c escape =>
    rw [beq_iff_eq.mp escape]
    rfl
  | case3 c escape rest ih =>
    rw [beq_iff_eq.mp escape, lineEscapes]
    simp [ih]
    omega
  | case4 c escape rest ih =>
    rw [beq_iff_eq.mp escape, lineEscapes]
    · simp [ih]
    · simp
  | case5 c escape other rest notN notT ih =>
    rw [beq_iff_eq.mp escape, lineEscapes]
    · simp [List.count_cons, ih]
      omega
    · exact notN
  | case6 c rest plain tick ih =>
    have same : c = Char.ofNat 96 := by rw [← beq_iff_eq.mp tick, Char.ofNat_toNat]
    rw [lineEscapes_of_ne rest (by simpa using plain), same]
    simp [ih]
  | case7 c rest plain tick path ih =>
    simp only [Bool.and_eq_true, beq_iff_eq] at path
    rw [lineEscapes_of_ne rest (by simpa using plain), path.1, ← lineEscapes_pathRest rest]
    have whole := congrArg (List.count '\n') (pathRest_eq rest)
    rw [List.count_append, List.count_eq_zero.mpr (not_mem_pathRest rest)] at whole
    simp [ih, List.count_eq_zero.mpr (not_mem_pathRest rest)]
    omega
  | case8 c rest plain tick path ih =>
    rw [lineEscapes_of_ne rest (by simpa using plain)]
    simp [List.count_cons, ih]
    omega

theorem count_withDollars (body : List Char) :
    (withDollars body).count '\n'
      = body.count '\n' + if interpolates body then lineEscapes body else 0 := by
  unfold withDollars
  split
  · rw [count_template, count_interpolated]
  · rw [count_quote, Nat.add_zero]

end Literal

/-- Texts that start with a character that is seen, or stay on one line. -/
def Guarded (chars : List Char) : Prop :=
  '\n' ∉ chars ∨ ∃ c rest, chars = c :: rest ∧ Text.isBlank c = false

theorem not_mem_takeWhile_flatten {texts : List (List Char)}
    (guarded : ∀ chars ∈ texts, Guarded chars) : '\n' ∉ texts.flatten.takeWhile Text.isBlank := by
  induction texts with
  | nil => exact List.not_mem_nil
  | cons chars rest ih =>
    have behind := ih fun other member => guarded other (List.mem_cons_of_mem _ member)
    rw [List.flatten_cons, List.takeWhile_append]
    rcases guarded chars List.mem_cons_self with flat | ⟨c, more, rfl, seen⟩
    · split
      · exact fun member => (List.mem_append.mp member).elim flat behind
      · exact fun member => flat ((List.takeWhile_prefix _).subset member)
    · rw [List.takeWhile_cons_of_neg (by simp [seen]), if_neg (by simp)]
      exact List.not_mem_nil

private theorem count_dropWhile {chars : List Char}
    (free : '\n' ∉ chars.takeWhile Text.isBlank) :
    (chars.dropWhile Text.isBlank).count '\n' = chars.count '\n' := by
  have parts := congrArg (List.count '\n')
    (List.takeWhile_append_dropWhile (p := Text.isBlank) (l := chars))
  rw [List.count_append, List.count_eq_zero.mpr free] at parts
  omega

/-- Trimming takes no line ends from texts that are guarded at both ends. -/
theorem count_trimChars {texts : List (List Char)}
    (guarded : ∀ chars ∈ texts, Guarded chars ∧ Guarded chars.reverse) :
    (Text.trimChars texts.flatten).count '\n' = texts.flatten.count '\n' := by
  have left := count_dropWhile (not_mem_takeWhile_flatten fun chars member =>
    (guarded chars member).1)
  have free : '\n' ∉ texts.flatten.reverse.takeWhile Text.isBlank := by
    rw [List.reverse_flatten]
    refine not_mem_takeWhile_flatten fun chars member => ?_
    obtain ⟨source, present, rfl⟩ := List.mem_map.mp (List.mem_reverse.mp member)
    exact (guarded source present).2
  have right : '\n' ∉ (texts.flatten.dropWhile Text.isBlank).reverse.takeWhile Text.isBlank := by
    obtain ⟨front, parts⟩ := List.dropWhile_suffix (l := texts.flatten) Text.isBlank
    rw [← parts, List.reverse_append, List.takeWhile_append] at free
    split at free
    · exact fun member =>
        free (List.mem_append_left _ ((List.takeWhile_prefix _).subset member))
    · exact free
  rw [Text.trimChars, Text.trimRight, Text.trimLeft, List.count_reverse, count_dropWhile right,
    List.count_reverse, left]

namespace Lowering

theorem count_plainText {kind : Kind} (neat : kind.Neat) :
    (plainText kind).toList.count '\n' = kind.breaks := by
  cases kind with
  | word text | number text | sign text | space text => exact List.count_eq_zero.mpr neat
  | quoted body quote => simpa [plainText, Kind.breaks] using Literal.count_quote body
  | template body => simpa [plainText, Kind.breaks] using Literal.count_template body
  | regex pattern flags => simpa [plainText, Kind.breaks] using Literal.count_regex pattern flags
  | newline | comment text => rfl

theorem lineEnds_of_bare {kind : Kind} (bare : kind.isLiteral = false) :
    lineEnds kind = kind.breaks := by
  cases kind <;> first | rfl | cases bare

/-- Line ends that are left of tokens that are skipped. -/
def skippedBreaks (tokens : List Token) : Nat := (tokens.map fun token => lineEnds token.kind).sum

theorem skippedBreaks_bare {tokens : List Token} (bare : Bare tokens) :
    skippedBreaks tokens = breaksIn tokens := by
  unfold skippedBreaks breaksIn
  congr 1
  exact List.map_congr_left fun token member => lineEnds_of_bare (bare token member)

theorem skippedBreaks_append (first second : List Token) :
    skippedBreaks (first ++ second) = skippedBreaks first + skippedBreaks second := by
  simp [skippedBreaks]

/-- Line ends in the templates among tokens. -/
def templateBreaks (tokens : List Token) : Nat :=
  (tokens.map fun token => match token.kind with
    | .template body => body.count '\n'
    | _ => 0).sum

theorem templateBreaks_append (first second : List Token) :
    templateBreaks (first ++ second) = templateBreaks first + templateBreaks second := by
  simp [templateBreaks]

theorem templateBreaks_bare {tokens : List Token} (bare : Bare tokens) :
    templateBreaks tokens = 0 := by
  unfold templateBreaks
  refine List.sum_eq_zero fun n member => ?_
  obtain ⟨token, inside, rfl⟩ := List.mem_map.mp member
  have plain := bare token inside
  cases kind : token.kind with
  | template body =>
    rw [kind] at plain
    cases plain
  | _ => rfl

private theorem guarded_marked (mark : Char) (seen : Text.isBlank mark = false)
    (body : List Char) :
    Guarded (mark :: (body ++ [mark])) ∧ Guarded (mark :: (body ++ [mark])).reverse :=
  ⟨.inr ⟨mark, _, rfl, seen⟩, .inr ⟨mark, body.reverse ++ [mark], by simp, seen⟩⟩

private theorem guarded_flat {chars : List Char} (flat : '\n' ∉ chars) :
    Guarded chars ∧ Guarded chars.reverse :=
  ⟨.inl flat, .inl (by simpa using flat)⟩

private theorem guarded_plainText {token : Token} (neat : token.kind.Neat)
    (rendered : isRendered token = true) :
    Guarded (plainText token.kind).toList ∧ Guarded (plainText token.kind).toList.reverse := by
  unfold isRendered at rendered
  cases kind : token.kind with
  | word text | number text | sign text | space text =>
    rw [kind] at neat
    exact guarded_flat neat
  | quoted body quote =>
    simpa [plainText, Literal.quote] using guarded_marked '"' (by decide) (Literal.requote body)
  | template body =>
    simpa [plainText, Literal.template] using guarded_marked (Char.ofNat 96) (by decide) body
  | regex pattern flags =>
    simpa [plainText, Literal.regex] using guarded_marked '"' (by decide)
      (Literal.patternPrefix flags ++ Literal.patternBody pattern)
  | newline | comment text =>
    rw [kind] at rendered
    cases rendered

/-- Rendering writes the tokens without newlines and comments, and trims no line end away. -/
theorem count_render {tokens : List Token} (neat : Neat tokens) :
    (render tokens).toList.count '\n' = breaksIn (tokens.filter isRendered) := by
  unfold render
  have kept : ∀ token ∈ tokens.filter isRendered, token.kind.Neat ∧ isRendered token = true :=
    fun token member => ⟨neat token (List.mem_filter.mp member).1, (List.mem_filter.mp member).2⟩
  generalize tokens.filter isRendered = chosen at kept ⊢
  have guarded : ∀ chars ∈ chosen.map fun token => (plainText token.kind).toList,
      Guarded chars ∧ Guarded chars.reverse := by
    intro chars member
    obtain ⟨token, inside, rfl⟩ := List.mem_map.mp member
    exact guarded_plainText (kept token inside).1 (kept token inside).2
  rw [Text.trim, String.toList_ofList, String.toList_join, List.flatMap_map, List.flatMap_def,
    count_trimChars guarded, List.count_flatten, List.map_map, breaksIn]
  congr 1
  exact List.map_congr_left fun token member => count_plainText (kept token member).1

/-- A token that is rendered and skipped has its line ends once, or twice if it is a template. -/
theorem rendered_and_skipped {tokens : List Token} (neat : Neat tokens) :
    (render tokens).toList.count '\n' + skippedBreaks tokens
      = breaksIn tokens + templateBreaks tokens := by
  rw [count_render neat]
  clear neat
  induction tokens with
  | nil => rfl
  | cons token rest ih =>
    have own : breaksIn ([token].filter isRendered) + lineEnds token.kind
        = token.kind.breaks + templateBreaks [token] := by
      unfold isRendered
      cases kind : token.kind <;> simp [kind, lineEnds, Kind.breaks, templateBreaks]
    have parts : breaksIn ((token :: rest).filter isRendered)
        = breaksIn ([token].filter isRendered) + breaksIn (rest.filter isRendered) := by
      rw [← breaksIn_append, ← List.filter_append, List.singleton_append]
    have skips : skippedBreaks (token :: rest) = lineEnds token.kind + skippedBreaks rest := by
      simp [skippedBreaks]
    have templates := templateBreaks_append [token] rest
    rw [List.singleton_append] at templates
    rw [parts, skips, breaksIn_cons, templates]
    omega

end Lowering
end ApiProbe.Script
