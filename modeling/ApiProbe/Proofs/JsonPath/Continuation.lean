import ApiProbe.JsonPath.Reader
import ApiProbe.Proofs.Text.Trimming

/-!
Paths that go on. A path that can be read ends where a name ends or behind a bracket, so when more
steps are put behind it, its own steps are read as before and the new ones after them.
-/
namespace ApiProbe.JsonPath
open Text
variable {chars inner after rest suffix : List Char}

/-- A continuation of a path: blanks aside, it starts where a name ends. -/
def Continues (suffix : List Char) : Prop :=
  ∃ c rest, trimLeft suffix = c :: rest ∧ isNameEnd c = true

theorem visible_of_isNameEnd {c : Char} (ends : isNameEnd c = true) : isBlank c = false := by
  simp only [isNameEnd, Bool.or_eq_true, beq_iff_eq] at ends
  rcases ends with rfl | rfl <;> decide

theorem splitClosing_append {opened : Option Char} {depth : Nat}
    (found : splitClosing opened depth chars = some (inner, after)) (suffix : List Char) :
    splitClosing opened depth (chars ++ suffix) = some (inner, after ++ suffix) := by
  induction chars generalizing opened depth inner after with
  | nil => simp [splitClosing] at found
  | cons c rest ih =>
    have further {depth : Nat}
        (found : (splitClosing (quoteAfter opened c) depth rest).map
          (fun parts => (c :: parts.1, parts.2)) = some (inner, after)) :
        (splitClosing (quoteAfter opened c) depth (rest ++ suffix)).map
          (fun parts => (c :: parts.1, parts.2)) = some (inner, after ++ suffix) := by
      obtain ⟨⟨tail, last⟩, inside, same⟩ := Option.map_eq_some_iff.mp found
      cases same
      rw [ih inside]
      rfl
    simp only [List.cons_append, splitClosing] at found ⊢
    split at found
    · rename_i opens
      rw [if_pos opens]
      exact further found
    · rename_i plain
      rw [if_neg plain]
      split at found
      · rename_i closes
        rw [if_pos closes]
        split at found
        · rename_i last
          rw [if_pos last]
          cases found
          rfl
        · rename_i deeper
          rw [if_neg deeper]
          exact further found
      · rename_i ordinary
        rw [if_neg ordinary]
        exact further found

theorem readBrackets_append {content : Content} (found : readBrackets chars = .ok (content, rest))
    (suffix : List Char) : readBrackets (chars ++ suffix) = .ok (content, rest ++ suffix) := by
  unfold readBrackets at found ⊢
  split at found
  · cases found
  · rename_i inner after closing
    rw [splitClosing_append closing suffix]
    split at found
    · rename_i content' inside
      cases found
      simp only [inside]
    · cases found

/-- A name that runs up to the end of a path now ends where the path goes on. -/
theorem readName_append {key : String} (found : readName chars = .ok (key, rest))
    (continues : Continues suffix) :
    ∃ left, readName (chars ++ suffix) = .ok (key, left) ∧
      trimLeft left = trimLeft (rest ++ suffix) := by
  obtain ⟨c, more, start, ends⟩ := continues
  obtain ⟨blanks, split, blank⟩ := exists_blanks_trimLeft suffix
  rw [start] at split
  simp only [readName] at found ⊢
  split at found
  · cases found
  rename_i named
  cases found
  by_cases whole : ∀ c ∈ chars, (!isNameEnd c) = true
  · have inName : ∀ c ∈ chars ++ blanks, (!isNameEnd c) = true := by
      intro d member
      rcases List.mem_append.mp member with first | second
      · exact whole d first
      · cases ending : isNameEnd d with
        | false => rfl
        | true => exact absurd (visible_of_isNameEnd ending) (by simp [blank d second])
    have span := span_of_boundary (fun c => !isNameEnd c) inName
      (show ∀ d, (c :: more).head? = some d → (!isNameEnd d) = false by simp [ends])
    rw [List.append_assoc, ← split] at span
    have all : chars.takeWhile (fun c => !isNameEnd c) = chars := List.takeWhile_eq_self_iff.mpr whole
    have none : chars.dropWhile (fun c => !isNameEnd c) = [] := List.dropWhile_eq_nil_iff.mpr whole
    refine ⟨c :: more, ?_, ?_⟩
    · rw [span.1, span.2, trimChars_append_blanks blank]
      rw [all] at named ⊢
      rw [if_neg named]
    · rw [none, List.nil_append, start, trimLeft_cons_visible (visible_of_isNameEnd ends)]
  · have stops : chars.dropWhile (fun c => !isNameEnd c) ≠ [] := by
      rwa [ne_eq, List.dropWhile_eq_nil_iff]
    have name : (chars ++ suffix).takeWhile (fun c => !isNameEnd c) =
        chars.takeWhile fun c => !isNameEnd c := by
      rw [List.takeWhile_append, if_neg]
      intro same
      apply stops
      have parts := congrArg List.length
        (List.takeWhile_append_dropWhile (p := fun c => !isNameEnd c) (l := chars))
      rw [List.length_append, same] at parts
      exact List.eq_nil_of_length_eq_zero (by omega)
    have left : (chars ++ suffix).dropWhile (fun c => !isNameEnd c) =
        chars.dropWhile (fun c => !isNameEnd c) ++ suffix := by
      rw [List.dropWhile_append, if_neg (by simpa using stops)]
    exact ⟨_, by rw [name, left, if_neg named], rfl⟩

theorem readStarOrName_append {content : Content}
    (found : readStarOrName chars = .ok (content, rest)) (continues : Continues suffix) :
    ∃ left, readStarOrName (chars ++ suffix) = .ok (content, left) ∧
      trimLeft left = trimLeft (rest ++ suffix) := by
  unfold readStarOrName at found
  split at found
  · cases found
    exact ⟨_, rfl, rfl⟩
  · rename_i noStar
    obtain ⟨⟨key, after⟩, named, same⟩ := map_eq_ok found
    cases same
    obtain ⟨left, again, trimmed⟩ := readName_append named continues
    refine ⟨left, ?_, trimmed⟩
    cases chars with
    | nil => simp [readName, trimChars, trimRight, trimLeft] at named
    | cons c tail =>
      unfold readStarOrName
      split
      · rename_i other same
        simp only [List.cons_append, List.cons.injEq] at same
        exact absurd (congrArg (· :: tail) same.1) (noStar tail)
      · rw [again]
        rfl

theorem readStep_deep (plain : rest.head? ≠ some '[') :
    readStep ('.' :: '.' :: rest) = (readStarOrName rest).map (true, ·) := by
  rw [readStep]
  intro tail same
  simp [same] at plain

theorem readStep_flat (plain : rest.head? ≠ some '.') :
    readStep ('.' :: rest) = (readStarOrName rest).map (false, ·) := by
  rw [readStep]
  · intro tail same
    simp [same] at plain
  · intro tail same
    simp [same] at plain

/-- A step is read the same when the path goes on behind it. -/
theorem readStep_append {deep : Bool} {content : Content}
    (found : readStep chars = .ok (deep, content, rest)) (continues : Continues suffix) :
    ∃ left, readStep (chars ++ suffix) = .ok (deep, content, left) ∧
      trimLeft left = trimLeft (rest ++ suffix) := by
  unfold readStep at found
  split at found
  · rename_i tail
    obtain ⟨⟨content', rest'⟩, inside, same⟩ := map_eq_ok found
    cases same
    exact ⟨_, by rw [List.cons_append, List.cons_append, List.cons_append, readStep,
      readBrackets_append inside]; rfl, rfl⟩
  · rename_i tail bare
    obtain ⟨⟨content', rest'⟩, inside, same⟩ := map_eq_ok found
    cases same
    obtain ⟨left, again, trimmed⟩ := readStarOrName_append inside continues
    refine ⟨left, ?_, trimmed⟩
    rw [List.cons_append, List.cons_append, readStep_deep, again]
    · rfl
    · cases tail with
      | nil => cases inside
      | cons d tail =>
        intro opens
        cases opens
        exact bare tail rfl
  · rename_i tail bare noDot
    obtain ⟨⟨content', rest'⟩, inside, same⟩ := map_eq_ok found
    cases same
    obtain ⟨left, again, trimmed⟩ := readStarOrName_append inside continues
    refine ⟨left, ?_, trimmed⟩
    rw [List.cons_append, readStep_flat, again]
    · rfl
    · cases tail with
      | nil => cases inside
      | cons d tail =>
        intro opens
        cases opens
        exact noDot tail rfl
  · rename_i tail
    obtain ⟨⟨content', rest'⟩, inside, same⟩ := map_eq_ok found
    cases same
    exact ⟨_, by rw [List.cons_append, readStep, readBrackets_append inside]; rfl, rfl⟩
  · cases found
  · cases found

theorem readSegments_trimLeft (chars : List Char) :
    readSegments (trimLeft chars) = readSegments chars := by
  rw [readSegments, readSegments, trimLeft_trimLeft]

theorem readSegments_blank (blank : trimLeft chars = []) : readSegments chars = .ok [] := by
  rw [readSegments, blank]
  rfl

/-- The selector that the content of a step stands for. -/
inductive Content.Means : Content → Selector → Prop
  | done (selector : Selector) : Means (.done selector) selector
  | filter {path : List Char} {segments : List Segment} (inside : readSegments path = .ok segments)
      (test : Option (Relation × Json)) : Means (.filter path test) (.filter segments test)

theorem readSegments_step {deep : Bool} {content : Content} {selector : Selector}
    (step : readStep (trimLeft chars) = .ok (deep, content, rest))
    (means : content.Means selector) :
    readSegments chars = (readSegments rest).map (segment deep selector :: ·) := by
  have visible : ¬(trimLeft chars).isEmpty = true := by
    intro blank
    rw [List.isEmpty_iff.mp blank] at step
    cases step
  rw [readSegments, if_neg visible]
  split
  · rename_i stop failed
    rw [step] at failed
    cases failed
  · rename_i again
    rw [step] at again
    cases again
    cases means
    rfl
  · rename_i again
    rw [step] at again
    cases again
    cases means with
    | filter inside test => rw [inside]

theorem readSegments_append_step {deep : Bool} {content : Content} {selector : Selector}
    {segments : List Segment}
    (step : readStep (trimLeft chars) = .ok (deep, content, rest)) (means : content.Means selector)
    (found : readSegments chars = .ok segments) (continues : Continues suffix)
    (further : ∀ tail, readSegments rest = .ok tail →
      readSegments (rest ++ suffix) = (readSegments suffix).map (tail ++ ·)) :
    readSegments (chars ++ suffix) = (readSegments suffix).map (segments ++ ·) := by
  rw [readSegments_step step means] at found
  obtain ⟨tail, remaining, same⟩ := map_eq_ok found
  have visible : trimLeft chars ≠ [] := by
    intro blank
    rw [blank] at step
    cases step
  obtain ⟨left, again, trimmed⟩ := readStep_append step continues
  rw [← trimLeft_append_of_ne_nil visible] at again
  calc readSegments (chars ++ suffix)
    _ = (readSegments left).map (segment deep selector :: ·) := readSegments_step again means
    _ = (readSegments (rest ++ suffix)).map (segment deep selector :: ·) := by
      rw [← readSegments_trimLeft left, trimmed, readSegments_trimLeft]
    _ = (readSegments suffix).map (segments ++ ·) := by
      rw [further tail remaining, ← same]
      cases readSegments suffix <;> rfl

/-- A path that goes on is read as its own steps and then those of the continuation. -/
theorem readSegments_append {segments : List Segment} (found : readSegments chars = .ok segments)
    (continues : Continues suffix) :
    readSegments (chars ++ suffix) = (readSegments suffix).map (segments ++ ·) := by
  induction chars using readSegments.induct generalizing segments with
  | case1 chars blank =>
    have nothing := List.isEmpty_iff.mp blank
    rw [readSegments_blank nothing] at found
    cases found
    rw [← readSegments_trimLeft, trimLeft_append_of_nil nothing, readSegments_trimLeft]
    cases readSegments suffix <;> rfl
  | case2 chars visible stop failed =>
    rw [readSegments, if_neg visible] at found
    split at found <;> simp_all
  | case3 chars visible deep selector rest step ih =>
    exact readSegments_append_step step (.done selector) found continues fun _ => ih
  | case4 chars visible deep path test rest step stop failed ih =>
    rw [readSegments, if_neg visible] at found
    split at found <;> simp_all
  | case5 chars visible deep path test rest step inner inside _ ih =>
    exact readSegments_append_step step (.filter inside test) found continues fun _ => ih

theorem readTrimmed_append {chars suffix : List Char} {segments : List Segment}
    (found : readTrimmed chars = .ok segments) (continues : Continues suffix) :
    readTrimmed (chars ++ suffix) = (readSegments suffix).map (segments ++ ·) := by
  cases chars with
  | nil => cases found
  | cons c rest =>
    simp only [readTrimmed, List.cons_append] at found ⊢
    split at found
    · rename_i root
      rw [if_pos root]
      exact readSegments_append found continues
    · rename_i rootless
      rw [if_neg rootless]
      split at found
      · rename_i ends
        rw [if_pos ends]
        exact readSegments_append found continues
      · rename_i bare
        rw [if_neg bare]
        split at found
        · cases found
        · rename_i key after named
          obtain ⟨tail, remaining, rfl⟩ := map_eq_ok found
          obtain ⟨left, again, trimmed⟩ := readName_append named continues
          rw [List.cons_append] at again
          simp only [again]
          rw [← readSegments_trimLeft left, trimmed, readSegments_trimLeft,
            readSegments_append remaining continues]
          cases readSegments suffix <;> rfl

theorem read_eq_ok {path : String} {segments : JsonPath} :
    read path = .ok segments ↔ readTrimmed (trimChars path.toList) = .ok segments := by
  cases outcome : readTrimmed (trimChars path.toList) <;> simp [read, outcome]

/-- A path and a continuation are read as the steps of the one and then the steps of the other. -/
theorem read_append {path suffix : String} {first second : JsonPath} {c : Char} {rest : List Char}
    (readable : read path = .ok first) (start : suffix.toList = c :: rest)
    (ends : isNameEnd c = true) (continued : read ("$" ++ suffix) = .ok second) :
    read (path ++ suffix) = .ok (first ++ second) := by
  rw [read_eq_ok] at readable continued ⊢
  have visible : isBlank c = false := visible_of_isNameEnd ends
  have shown : trimLeft path.toList ≠ [] := by
    intro blank
    rw [trimChars, blank] at readable
    cases readable
  have steps : readSegments (c :: trimRight rest) = .ok second := by
    have dollar : isBlank '$' = false := by decide
    have whole : trimChars ("$" ++ suffix).toList = '$' :: c :: trimRight rest := by
      rw [String.toList_append, start]
      change trimChars ('$' :: c :: rest) = _
      rw [trimChars, trimLeft_cons_visible dollar]
      exact trimRight_append_visible visible ['$'] rest
    rwa [whole] at continued
  obtain ⟨blanks, blank, whole⟩ := trimChars_append_visible shown visible rest
  have nothing : trimLeft blanks = [] := trimLeft_eq_nil.mpr blank
  have tail : trimLeft (blanks ++ c :: trimRight rest) = c :: trimRight rest := by
    rw [trimLeft_append_of_nil nothing, trimLeft_cons_visible visible]
  rw [String.toList_append, start, whole,
    readTrimmed_append readable ⟨c, trimRight rest, tail, ends⟩, ← readSegments_trimLeft, tail, steps]
  rfl

end ApiProbe.JsonPath
