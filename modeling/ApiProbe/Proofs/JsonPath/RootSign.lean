import ApiProbe.Proofs.JsonPath.Continuation

/-!
Paths without the sign of the root. A path may leave the sign out, and is then read as if it stood
there, with a dot behind it where the path starts with a bare name. The one exception is a star: at
the start of a path it begins a name, and behind a dot it stands for every child.
-/
namespace ApiProbe.JsonPath
open Text
variable {c : Char} {chars rest : List Char}

/-- A path with the sign of the root in front of it. -/
def rooted (path : String) : String :=
  if path.toList.head?.any isNameEnd then "$" ++ path else "$." ++ path

/-- The place of a fault counts from the start, so only what is read is compared. -/
theorem toOption_read {path : String} (trimmed : trimChars path.toList = path.toList) :
    (read path).toOption = (readTrimmed path.toList).toOption := by
  cases outcome : readTrimmed path.toList <;> simp only [read, trimmed, outcome] <;> rfl

theorem readTrimmed_root (chars : List Char) : readTrimmed ('$' :: chars) = readSegments chars := rfl

theorem readTrimmed_nameEnd (ends : isNameEnd c = true) :
    readTrimmed (c :: rest) = readSegments (c :: rest) := by
  have rootless : (c == '$') = false := by
    simp only [isNameEnd, Bool.or_eq_true, beq_iff_eq] at ends
    rcases ends with rfl | rfl <;> decide
  simp [readTrimmed, rootless, ends]

/-- A path of a bare name and what follows it. -/
theorem readTrimmed_name (rootless : c ≠ '$') (bare : isNameEnd c = false) :
    readTrimmed (c :: rest) =
      (readName (c :: rest)).bind fun (key, after) =>
        (readSegments after).map (.child (.pick (.name key)) :: ·) := by
  simp only [readTrimmed, beq_eq_false_iff_ne.mpr rootless, bare, Bool.false_eq_true, if_false]
  cases readName (c :: rest) <;> rfl

theorem readSegments_error {stop : Stop} (failed : readStep (trimLeft chars) = .error stop)
    (visible : trimLeft chars ≠ []) : readSegments chars = .error stop := by
  rw [readSegments, if_neg (by simpa using visible)]
  split <;> simp_all

/-- Behind a dot, a bare name is read as it is at the start of a path. -/
theorem readSegments_dot_name (bare : isNameEnd c = false) (noStar : c ≠ '*') :
    readSegments ('.' :: c :: rest) =
      (readName (c :: rest)).bind fun (key, after) =>
        (readSegments after).map (.child (.pick (.name key)) :: ·) := by
  have start : trimLeft ('.' :: c :: rest) = '.' :: c :: rest := trimLeft_cons_visible (by decide)
  have flat : (c :: rest).head? ≠ some '.' := by
    intro dot
    cases dot
    cases bare
  have named : readStarOrName (c :: rest) =
      (readName (c :: rest)).map fun (key, after) => (.done (.pick (.name key)), after) := by
    unfold readStarOrName
    split
    · rename_i same
      cases same
      exact absurd rfl noStar
    · rfl
  have step : readStep (trimLeft ('.' :: c :: rest)) =
      (readName (c :: rest)).map fun (key, after) => (false, .done (.pick (.name key)), after) := by
    rw [start, readStep_flat flat, named]
    cases readName (c :: rest) <;> rfl
  cases outcome : readName (c :: rest) with
  | error stop =>
    rw [outcome] at step
    exact readSegments_error step (by simp [start])
  | ok parts =>
    obtain ⟨key, after⟩ := parts
    rw [outcome] at step
    exact readSegments_step step (.done _)

/-- Behind a dot, a star stands for every child. -/
theorem readSegments_dot_star (rest : List Char) :
    readSegments ('.' :: '*' :: rest) =
      (readSegments rest).map (.child (.pick .every) :: ·) := by
  have step : readStep (trimLeft ('.' :: '*' :: rest)) =
      .ok (false, .done (.pick .every), rest) := by
    rw [trimLeft_cons_visible (by decide)]
    rfl
  exact readSegments_step step (.done _)

theorem readStep_plain (bare : isNameEnd c = false) (rest : List Char) :
    readStep (c :: rest) = .error ⟨.unexpected c, rest.length + 1⟩ := by
  simp only [isNameEnd, Bool.or_eq_false_iff, beq_eq_false_iff_ne] at bare
  rw [readStep]
  · exact fun _ same _ => absurd same bare.1
  · exact fun _ same _ => absurd same bare.1
  · exact fun same => absurd same bare.1
  · exact fun same => absurd same bare.2

/-- What can be read behind a star starts, blanks aside, where the name after the star ends. -/
theorem readSegments_dropWhile {segments : List Segment}
    (found : readSegments rest = .ok segments) :
    readSegments (rest.dropWhile fun c => !isNameEnd c) = .ok segments := by
  have parts := List.takeWhile_append_dropWhile (p := fun c => !isNameEnd c) (l := rest)
  cases named : trimLeft (rest.takeWhile fun c => !isNameEnd c) with
  | nil =>
    rwa [← parts, ← readSegments_trimLeft, trimLeft_append_of_nil named,
      readSegments_trimLeft] at found
  | cons c name =>
    have start : trimLeft rest = c :: (name ++ rest.dropWhile fun c => !isNameEnd c) := by
      have visible : trimLeft (rest.takeWhile fun c => !isNameEnd c) ≠ [] := by simp [named]
      have whole := trimLeft_append_of_ne_nil visible (rest.dropWhile fun c => !isNameEnd c)
      rwa [parts, named] at whole
    have member : c ∈ rest.takeWhile fun c => !isNameEnd c :=
      List.dropWhile_sublist isBlank |>.subset (by rw [← trimLeft, named]; simp)
    have bare : isNameEnd c = false := by simpa using List.mem_takeWhile_imp member
    have failed := readStep_plain bare (name ++ rest.dropWhile fun c => !isNameEnd c)
    rw [← start] at failed
    rw [readSegments_error failed (by simp [start])] at found
    cases found

/-- At the start of a path a star begins a name. -/
theorem readTrimmed_star (rest : List Char) :
    ∃ key, readTrimmed ('*' :: rest) =
      (readSegments (rest.dropWhile fun c => !isNameEnd c)).map
        (.child (.pick (.name key)) :: ·) := by
  have span : ('*' :: rest).takeWhile (fun c => !isNameEnd c) =
      '*' :: rest.takeWhile fun c => !isNameEnd c := rfl
  have named : (trimChars (('*' :: rest).takeWhile fun c => !isNameEnd c)).isEmpty = false := by
    rw [span, trimChars, trimLeft_cons_visible (by decide)]
    have kept := trimRight_append_visible (c := '*') (by decide) []
      (rest.takeWhile fun c => !isNameEnd c)
    rw [List.nil_append] at kept
    simp [kept]
  refine ⟨String.ofList (trimChars (('*' :: rest).takeWhile fun c => !isNameEnd c)), ?_⟩
  rw [readTrimmed_name (by decide) (by decide), readName, if_neg (by simp [named])]
  rfl

/-- A star at the start makes a difference wherever the path can be read at all. -/
theorem toOption_star_iff (rest : List Char) :
    (readTrimmed ('*' :: rest)).toOption = (readSegments ('.' :: '*' :: rest)).toOption ↔
      ¬∃ segments, readTrimmed ('*' :: rest) = .ok segments := by
  obtain ⟨key, named⟩ := readTrimmed_star rest
  have every := readSegments_dot_star rest
  rw [named, every]
  cases after : readSegments (rest.dropWhile fun c => !isNameEnd c) with
  | ok tail => cases readSegments rest <;> simp [Except.map, Except.toOption]
  | error stop =>
    cases behind : readSegments rest with
    | ok tail =>
      rw [readSegments_dropWhile behind] at after
      cases after
    | error stop => simp [Except.map, Except.toOption]

theorem toList_rooted (path : String) : (rooted path).toList =
    if path.toList.head?.any isNameEnd then '$' :: path.toList else '$' :: '.' :: path.toList := by
  unfold rooted
  split <;> rw [String.toList_append] <;> rfl

theorem trimChars_rooted {path : String} (trimmed : trimChars path.toList = path.toList)
    (some_ : path ≠ "") : trimChars (rooted path).toList = (rooted path).toList := by
  have some_ : path.toList ≠ [] := fun none => some_ (String.toList_eq_nil_iff.mp none)
  have last : ∀ c, path.toList.getLast? = some c → isBlank c = false := by
    intro c found
    rw [← trimmed] at found
    exact visible_of_trimRight found
  rw [toList_rooted]
  obtain ⟨c, rest, shape⟩ := List.exists_cons_of_ne_nil some_
  refine trimChars_eq_self ?_ ?_
  · split <;> simp <;> decide
  · rw [shape] at last ⊢
    split <;> simpa [List.getLast?_cons_cons] using last

/-- The sign of the root can be left out, with the same outcome, of every path that does not start
with a star; of a path that does, only if it cannot be read. -/
theorem rooted_iff {path : String} (trimmed : trim path = path) (some_ : path ≠ "")
    (rootless : path.toList.head? ≠ some '$') :
    (read path).toOption = (read (rooted path)).toOption ↔
      ¬(path.toList.head? = some '*' ∧ ∃ segments, read path = .ok segments) := by
  have trimmed := trimChars_of_trim trimmed
  rw [toOption_read trimmed, toOption_read (trimChars_rooted trimmed some_), toList_rooted]
  simp only [read_eq_ok, trimmed]
  cases shape : path.toList with
  | nil => exact absurd (String.toList_eq_nil_iff.mp shape) some_
  | cons c rest =>
    rw [shape] at rootless
    have noRoot : c ≠ '$' := fun same => rootless (congrArg some same)
    cases ends : isNameEnd c with
    | true =>
      have noStar : c ≠ '*' := by
        rintro rfl
        cases ends
      simp [ends, readTrimmed_root, readTrimmed_nameEnd ends, noStar]
    | false =>
      simp only [List.head?_cons, Option.any_some, ends, Bool.false_eq_true, if_false,
        readTrimmed_root, Option.some.injEq]
      by_cases star : c = '*'
      · subst star
        simpa using toOption_star_iff rest
      · simp [star, readTrimmed_name noRoot ends, readSegments_dot_name ends star]

/-- A star alone is a member of that name without the sign of the root, and every child with it. -/
theorem rooted_iff_star : trim "*" = "*" ∧ "*" ≠ "" ∧ "*".toList.head? ≠ some '$' ∧
    (read "*").toOption ≠ (read (rooted "*")).toOption := by
  have trimmed : trim "*" = "*" := by decide
  have readable : read "*" = .ok [.child (.pick (.name "*"))] := by cbv
  refine ⟨trimmed, by decide, by decide, fun same => ?_⟩
  exact (rooted_iff trimmed (by decide) (by decide)).mp same ⟨by decide, _, readable⟩

end ApiProbe.JsonPath
