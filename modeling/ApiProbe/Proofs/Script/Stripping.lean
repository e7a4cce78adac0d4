import ApiProbe.Proofs.Script.Reading

/-!
What is left of a text of the plain language without its comments and the blanks outside its literals.
It is what is kept of the atoms that the text reads as, so texts that read alike leave the same.
-/
namespace ApiProbe.Script

/-- Where a scan of a text is. -/
inductive Place
  | code | string | template | line | block

/-- Drops comments, and outside literals the blanks that end no line. -/
@[simp] def strippedFrom : Place → List Char → List Char
  | _, [] => []
  | .code, '/' :: '/' :: rest => strippedFrom .line rest
  | .code, '/' :: '*' :: rest => strippedFrom .block rest
  | .code, c :: rest =>
    if c == '"' then c :: strippedFrom .string rest
    else if c == Char.ofNat 96 then c :: strippedFrom .template rest
    else if isInlineBlank c then strippedFrom .code rest
    else c :: strippedFrom .code rest
  | .string, '\\' :: c :: rest => '\\' :: c :: strippedFrom .string rest
  | .string, c :: rest => c :: strippedFrom (if c == '"' then .code else .string) rest
  | .template, c :: rest =>
    c :: strippedFrom (if c == Char.ofNat 96 then .code else .template) rest
  | .line, c :: rest =>
    if c == '\n' then c :: strippedFrom .code rest else strippedFrom .line rest
  | .block, '*' :: '/' :: rest => strippedFrom .code rest
  | .block, _ :: rest => strippedFrom .block rest

/-- A text without its comments, and without blanks on its lines but for those in literals. -/
def stripped (text : String) : String := String.ofList (strippedFrom .code text.toList)

section Scans
variable {text body rest : List Char} {c : Char}

theorem strippedFrom_char (unmarked : c ≠ '"' ∧ c ≠ Char.ofNat 96)
    (apart : c = '/' → ∀ d ∈ rest.head?, d ≠ '/' ∧ d ≠ '*') :
    strippedFrom .code (c :: rest)
      = (if isInlineBlank c then [] else [c]) ++ strippedFrom .code rest := by
  rw [strippedFrom]
  · rw [if_neg (by simpa using unmarked.1), if_neg (by simpa using unmarked.2)]
    split <;> rfl
  · rintro more rfl rfl
    exact (apart rfl '/' rfl).1 rfl
  · rintro more rfl rfl
    exact (apart rfl '*' rfl).2 rfl

theorem strippedFrom_string (closed : isClosed body = true) (rest : List Char) :
    strippedFrom .string (body ++ '"' :: rest) = body ++ '"' :: strippedFrom .code rest := by
  fun_induction isClosed body with
  | case1 => rfl
  | case2 c more ih =>
    rw [List.cons_append, List.cons_append, strippedFrom, ih closed]
    rfl
  | case3 c more plain ih =>
    simp only [Bool.and_eq_true, bne_iff_ne] at closed
    rw [List.cons_append, strippedFrom, if_neg (by simpa using closed.1.2), ih closed.2]
    · rfl
    · exact fun _ _ escape => absurd escape closed.1.1

theorem strippedFrom_template (free : Char.ofNat 96 ∉ body) (rest : List Char) :
    strippedFrom .template (body ++ Char.ofNat 96 :: rest)
      = body ++ Char.ofNat 96 :: strippedFrom .code rest := by
  induction body with
  | nil => rfl
  | cons c more ih =>
    rw [List.mem_cons, not_or] at free
    obtain ⟨other, free⟩ := free
    rw [List.cons_append, strippedFrom, if_neg (by simpa using Ne.symm other), ih free]
    rfl

theorem strippedFrom_line (inLine : '\n' ∉ text) (stops : ∀ c ∈ rest.head?, c = '\n') :
    strippedFrom .line (text ++ rest) = strippedFrom .code rest := by
  induction text with
  | nil =>
    cases rest with
    | nil => rfl
    | cons c more =>
      obtain rfl := stops c rfl
      rfl
  | cons c more ih =>
    rw [List.mem_cons, not_or] at inLine
    obtain ⟨other, inLine⟩ := inLine
    rw [List.cons_append, strippedFrom, if_neg (by simpa using Ne.symm other), ih inLine]

theorem strippedFrom_block
    (first : Text.cutAt? ['*', '/'] (body ++ ['*', '/']) = some (body, [])) (rest : List Char) :
    strippedFrom .block (body ++ '*' :: '/' :: rest) = strippedFrom .code rest := by
  induction body with
  | nil => rfl
  | cons c more ih =>
    rw [List.cons_append, Text.cutAt?] at first
    split at first
    · cases first
    rename_i other
    have later : Text.cutAt? ['*', '/'] (more ++ ['*', '/']) = some (more, []) := by
      obtain ⟨⟨before, after⟩, is, same⟩ := Option.map_eq_some_iff.mp first
      cases same
      exact is
    rw [List.cons_append, strippedFrom, ih later]
    rintro tail rfl ends
    cases more with
    | nil => cases ends
    | cons d more =>
      cases ends
      exact other rfl

end Scans

/-- What is left of a text is what is kept of the atoms that it reads as. -/
theorem strippedFrom_spelled {strict : Prop} {atoms : List Atom} (legible : Legible strict atoms)
    (strict_ : strict) :
    strippedFrom .code (spelled atoms) = spelled (atoms.filter Atom.isKept) := by
  obtain ⟨sound, apart⟩ := legible
  induction atoms with
  | nil => rfl
  | cons atom rest ih =>
    obtain ⟨own, sound⟩ := List.forall_mem_cons.mp sound
    obtain ⟨next, apart⟩ := List.isChain_cons.mp apart
    have behind := ih sound apart
    have follows {c : Char} (here : c ∈ (spelled rest).head?) :
        ∃ other ∈ rest.head?, c ∈ other.text.head? := by
      cases rest with
      | nil => cases here
      | cons other more =>
        rw [Atom.head?_spelled sound rfl] at here
        exact ⟨other, rfl, here⟩
    have whole : spelled (atom :: rest) = atom.text ++ spelled rest := rfl
    rw [whole]
    cases atom with
    | char c =>
      rw [Atom.text, List.singleton_append, strippedFrom_char own, behind, List.filter_cons]
      · simp only [Atom.isKept, Bool.not_eq_true']
        cases isInlineBlank c <;> rfl
      · rintro rfl d here
        obtain ⟨other, first, here⟩ := follows here
        exact (next other first).slash strict_ rfl d here
    | comment text =>
      rw [List.filter_cons_of_neg (by simp [Atom.isKept]), ← behind]
      cases own with
      | line inLine =>
        refine (strippedFrom_line inLine fun c here => ?_)
        obtain ⟨other, first, here⟩ := follows here
        rw [(next other first).line rfl rfl] at here
        exact (Option.some.inj here).symm
      | @block body first =>
        have scan := strippedFrom_block first (spelled rest)
        rw [← scan]
        simp [Atom.text, strippedFrom]
    | literal text =>
      rw [List.filter_cons_of_pos rfl]
      have kept : spelled (.literal text :: rest.filter Atom.isKept)
          = text ++ strippedFrom .code (spelled rest) := by
        rw [behind]
        rfl
      rw [kept]
      cases own with
      | string closed =>
        have scan := strippedFrom_string closed (spelled rest)
        simp [Atom.text, strippedFrom, scan]
      | template free =>
        have scan := strippedFrom_template (free strict_) (spelled rest)
        simp [Atom.text, strippedFrom, scan]

/-- Texts that read alike are the same without their comments and blanks. -/
theorem SameReading.stripped_eq {strict : Prop} {a b : String} (same : SameReading strict a b)
    (strict_ : strict) : stripped a = stripped b := by
  obtain ⟨first, second, legible, legible', spells, spells', kept⟩ := same
  rw [stripped, stripped, ← spells, ← spells', strippedFrom_spelled legible strict_,
    strippedFrom_spelled legible' strict_, kept]

example : stripped "a /* b */ = \"c // d\" // e\n f" = "a=\"c // d\"\nf" := by decide

end ApiProbe.Script
