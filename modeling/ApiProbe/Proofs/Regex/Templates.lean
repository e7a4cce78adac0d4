import ApiProbe.Proofs.Decimal.Written
import ApiProbe.Regex.Replacement

/-!
Replacements and the templates that they are turned into. A replacement has references of its own, and a
template has others; expanding the template of a replacement comes to the same as reading the replacement
itself.
-/
namespace ApiProbe.Regex
variable {group : Nat → List Char} {chars rest digits out : List Char} {c : Char}

/-- A number in digits. -/
def IsNumber (digits : List Char) (number : Nat) : Prop :=
  digits ≠ [] ∧ (∀ c ∈ digits, c.isDigit = true) ∧ Nat.ofDigitChars 10 digits 0 = number

/-- What a replacement says, read from left to right. Behind a dollar sign stands a second one, the sign of
the whole match, or the number of a group, which goes on as long as there are digits. Any other character
stands for itself, a dollar sign with nothing of this behind it too. -/
inductive Reads (group : Nat → List Char) : List Char → List Char → Prop
  | done : Reads group [] []
  | dollar {rest out : List Char} (behind : Reads group rest out) :
    Reads group ('$' :: '$' :: rest) ('$' :: out)
  | whole {rest out : List Char} (behind : Reads group rest out) :
    Reads group ('$' :: '&' :: rest) (group 0 ++ out)
  | part {digits rest out : List Char} {number : Nat} (is : IsNumber digits number)
    (maximal : ∀ c ∈ rest.head?, c.isDigit = false) (behind : Reads group rest out) :
    Reads group ('$' :: (digits ++ rest)) (group number ++ out)
  | lone {rest out : List Char} (free : ∀ c ∈ rest.head?, c ≠ '$' ∧ c ≠ '&' ∧ c.isDigit = false)
    (behind : Reads group rest out) : Reads group ('$' :: rest) ('$' :: out)
  | plain {c : Char} {rest out : List Char} (other : c ≠ '$') (behind : Reads group rest out) :
    Reads group (c :: rest) (c :: out)

/-- A reference at the start of a template, and the characters that it gives way to. -/
inductive Refers (group : Nat → List Char) : List Char → List Char → Prop
  | dollar : Refers group ['$', '$'] ['$']
  | part {digits : List Char} {number : Nat} (is : IsNumber digits number) :
    Refers group ('$' :: '{' :: (digits ++ ['}'])) (group number)

/-- A template expanded from left to right: references give way to what they refer to, and all else is
copied. -/
inductive Expands (group : Nat → List Char) : List Char → List Char → Prop
  | done : Expands group [] []
  | reference {front image rest out : List Char} (refers : Refers group front image)
    (behind : Expands group rest out) : Expands group (front ++ rest) (image ++ out)
  | other {c : Char} {rest out : List Char}
    (none_ : ∀ front image, Refers group front image → ¬front <+: c :: rest)
    (behind : Expands group rest out) : Expands group (c :: rest) (c :: out)

/-!
### Templates
-/

theorem IsNumber.exists_cons {number : Nat} (is : IsNumber digits number) :
    ∃ c tail, digits = c :: tail ∧ c.isDigit = true ∧ ∀ d ∈ tail, d.isDigit = true := by
  obtain ⟨some_, all, -⟩ := is
  obtain ⟨c, tail, rfl⟩ := List.exists_cons_of_ne_nil some_
  exact ⟨c, tail, rfl, all c List.mem_cons_self, fun d member => all d (.tail c member)⟩

theorem isNumber_zero : IsNumber ['0'] 0 := ⟨List.cons_ne_nil _ _, by simp, rfl⟩

/-- How a replacement is translated, by the signs at its start. -/
theorem template_steps :
    template [] = [] ∧ template ['$'] = ['$', '$'] ∧
      (∀ rest, template ('$' :: '$' :: rest) = '$' :: '$' :: template rest) ∧
      (∀ rest, template ('$' :: '&' :: rest) = '$' :: '{' :: '0' :: '}' :: template rest) ∧
      (∀ c rest, c ≠ '$' → c ≠ '&' → template ('$' :: c :: rest) =
        if c.isDigit then
          '$' :: '{' :: (c :: rest.takeWhile Char.isDigit ++
            '}' :: template (rest.dropWhile Char.isDigit))
        else '$' :: '$' :: template (c :: rest)) ∧
      ∀ c rest, c ≠ '$' → template (c :: rest) = c :: template rest := by
  refine ⟨?_, ?_, fun rest => ?_, fun rest => ?_, fun c rest dollar whole => ?_, fun c rest other => ?_⟩
  · rw [template]
  · rw [template]
  · rw [template]
    rfl
  · rw [template]
    rfl
  · rw [template.eq_3 _ _ dollar whole]
    simp
  · rw [template]
    all_goals simp [other]

theorem template_nil : template [] = [] := by
  obtain ⟨step, -⟩ := template_steps
  exact step

theorem template_dollar : template ('$' :: '$' :: rest) = '$' :: '$' :: template rest := by
  obtain ⟨-, -, step, -⟩ := template_steps
  exact step rest

theorem template_whole :
    template ('$' :: '&' :: rest) = '$' :: '{' :: (['0'] ++ '}' :: template rest) := by
  obtain ⟨-, -, -, step, -⟩ := template_steps
  exact step rest

theorem template_part {number : Nat} (is : IsNumber digits number)
    (maximal : ∀ c ∈ rest.head?, c.isDigit = false) :
    template ('$' :: (digits ++ rest)) = '$' :: '{' :: (digits ++ '}' :: template rest) := by
  obtain ⟨c, tail, rfl, digit, all⟩ := is.exists_cons
  have dollar : c ≠ '$' := by rintro rfl; exact absurd digit (by decide)
  have whole : c ≠ '&' := by rintro rfl; exact absurd digit (by decide)
  obtain ⟨-, -, -, -, step, -⟩ := template_steps
  obtain ⟨taken, left⟩ := Text.span_of_boundary Char.isDigit all maximal
  rw [List.cons_append, step c _ dollar whole, if_pos digit, taken, left]

theorem template_lone (free : ∀ c ∈ rest.head?, c ≠ '$' ∧ c ≠ '&' ∧ c.isDigit = false) :
    template ('$' :: rest) = '$' :: '$' :: template rest := by
  obtain ⟨-, last, -, -, step, -⟩ := template_steps
  cases rest with
  | nil => rw [last, template_nil]
  | cons c tail =>
    obtain ⟨dollar, whole, digit⟩ := free c rfl
    rw [step c tail dollar whole, if_neg (by simp [digit])]

theorem template_plain (other : c ≠ '$') : template (c :: rest) = c :: template rest := by
  obtain ⟨-, -, -, -, -, step⟩ := template_steps
  exact step c rest other

/-!
### Expansion
-/

theorem expand_nil : expand group [] = [] := by rw [expand]

theorem expand_dollar : expand group ('$' :: '$' :: rest) = '$' :: expand group rest := by rw [expand]

theorem expand_part {number : Nat} (is : IsNumber digits number) :
    expand group ('$' :: '{' :: (digits ++ '}' :: rest)) = group number ++ expand group rest := by
  obtain ⟨some_, all, rfl⟩ := is
  have inside : ∀ c ∈ digits, (c != '}') = true := by
    intro c member
    have digit := all c member
    rw [bne_iff_ne]
    rintro rfl
    exact absurd digit (by decide)
  have stop : ∀ c ∈ ('}' :: rest).head?, (c != '}') = false := by simp
  obtain ⟨taken, left⟩ := Text.span_of_boundary (· != '}') inside stop
  have number : groupNumber? digits = some (Nat.ofDigitChars 10 digits 0) := by
    simp only [groupNumber?, List.isEmpty_eq_false_iff.mpr some_, List.all_eq_true.mpr all,
      Decimal.ofDigits_eq]
    rfl
  rw [expand, taken, left, number]
  rfl

theorem expand_plain (other : c ≠ '$') : expand group (c :: rest) = c :: expand group rest := by
  rw [expand]
  all_goals simp [other]

/-- Every replacement can be read. -/
theorem exists_reads (group : Nat → List Char) (chars : List Char) : ∃ out, Reads group chars out := by
  fun_induction template chars with
  | case1 _ ih =>
    obtain ⟨out, behind⟩ := ih
    exact ⟨_, .dollar behind⟩
  | case2 _ ih =>
    obtain ⟨out, behind⟩ := ih
    exact ⟨_, .whole behind⟩
  | case3 c rest _ _ digit digits ih =>
    obtain ⟨out, behind⟩ := ih
    have is : IsNumber digits _ :=
      ⟨List.cons_ne_nil _ _, List.forall_mem_cons.mpr ⟨digit, fun _ => List.mem_takeWhile_imp⟩, rfl⟩
    have maximal : ∀ c ∈ (rest.dropWhile Char.isDigit).head?, c.isDigit = false := by
      intro c first
      have stop := List.head?_dropWhile_not Char.isDigit rest
      rw [first] at stop
      simpa using stop
    have written := Reads.part is maximal behind
    rw [List.cons_append, List.takeWhile_append_dropWhile] at written
    exact ⟨_, written⟩
  | case4 c rest dollar whole digit ih =>
    obtain ⟨out, behind⟩ := ih
    refine ⟨_, .lone ?_ behind⟩
    rintro d ⟨⟩
    exact ⟨dollar, whole, by simpa using digit⟩
  | case5 => exact ⟨_, .lone (by simp) .done⟩
  | case6 c rest _ _ some_ none_ ih =>
    obtain ⟨out, behind⟩ := ih
    refine ⟨_, .plain ?_ behind⟩
    rintro rfl
    cases rest with
    | nil => exact none_ rfl rfl
    | cons d tail => exact some_ d tail rfl rfl
  | case7 => exact ⟨[], .done⟩

/-- What a replacement says is what its template is expanded to. -/
theorem Reads.expand_eq (reads : Reads group chars out) : expand group (template chars) = out := by
  induction reads with
  | done => rw [template_nil, expand_nil]
  | dollar _ ih => rw [template_dollar, expand_dollar, ih]
  | whole _ ih => rw [template_whole, expand_part isNumber_zero, ih]
  | part is maximal _ ih => rw [template_part is maximal, expand_part is, ih]
  | lone free _ ih => rw [template_lone free, expand_dollar, ih]
  | plain other _ ih => rw [template_plain other, expand_plain other, ih]

/-- A reference starts with a dollar sign. -/
theorem Refers.exists_tail {front image : List Char} (refers : Refers group front image) :
    ∃ tail, front = '$' :: tail := by
  cases refers <;> exact ⟨_, rfl⟩

theorem Expands.part {number : Nat} (is : IsNumber digits number) (behind : Expands group rest out) :
    Expands group ('$' :: '{' :: (digits ++ '}' :: rest)) (group number ++ out) := by
  have written := Expands.reference (.part is) behind
  rwa [List.cons_append, List.cons_append, List.append_assoc] at written

theorem Expands.plain (other : c ≠ '$') (behind : Expands group rest out) :
    Expands group (c :: rest) (c :: out) := by
  refine .other (fun front image refers begins => other ?_) behind
  obtain ⟨tail, rfl⟩ := refers.exists_tail
  exact (List.cons_prefix_cons.mp begins).1.symm

/-- The template of a replacement is expanded by the rules to what the replacement says. -/
theorem Reads.expands (reads : Reads group chars out) : Expands group (template chars) out := by
  induction reads with
  | done =>
    rw [template_nil]
    exact .done
  | dollar _ ih =>
    rw [template_dollar]
    exact .reference .dollar ih
  | whole _ ih =>
    rw [template_whole]
    exact .part isNumber_zero ih
  | part is maximal _ ih =>
    rw [template_part is maximal]
    exact .part is ih
  | lone free _ ih =>
    rw [template_lone free]
    exact .reference .dollar ih
  | plain other _ ih =>
    rw [template_plain other]
    exact .plain other ih

/-- No two references start a template at one place. -/
theorem Refers.unique {front image front' image' tail tail' : List Char} (first : Refers group front image)
    (second : Refers group front' image') (same : front ++ tail = front' ++ tail') :
    image = image' ∧ tail = tail' := by
  cases first with
  | dollar =>
    cases second with
    | dollar => exact ⟨rfl, by simpa using same⟩
    | part is => simp at same
  | part is =>
    cases second with
    | dollar => simp at same
    | part is' =>
      simp only [List.cons_append, List.append_assoc, List.cons.injEq, true_and, List.nil_append] at same
      have brace (tail : List Char) : ∀ c ∈ ('}' :: tail).head?, c.isDigit = false := by
        rintro c ⟨⟩
        decide
      obtain ⟨taken, left⟩ := Text.span_of_boundary Char.isDigit is.2.1 (brace tail)
      obtain ⟨taken', left'⟩ := Text.span_of_boundary Char.isDigit is'.2.1 (brace tail')
      rw [same, taken'] at taken
      rw [same, left'] at left
      subst taken
      exact ⟨by rw [← is.2.2, ← is'.2.2], (List.cons.inj left).2.symm⟩

/-- Where a reference starts, it is expanded. -/
theorem Expands.reference_inv {front image : List Char} (refers : Refers group front image)
    (expands : Expands group (front ++ rest) out) :
    ∃ later, out = image ++ later ∧ Expands group rest later := by
  generalize shape : front ++ rest = chars at expands
  cases expands with
  | done =>
    obtain ⟨tail, rfl⟩ := refers.exists_tail
    cases shape
  | reference other behind =>
    obtain ⟨rfl, rfl⟩ := refers.unique other shape
    exact ⟨_, rfl, behind⟩
  | other none_ _ => exact absurd ⟨rest, shape⟩ (none_ front image refers)

/-- Where no reference starts, a character is copied. -/
theorem Expands.other_inv (none_ : ∀ front image, Refers group front image → ¬front <+: c :: rest)
    (expands : Expands group (c :: rest) out) : ∃ later, out = c :: later ∧ Expands group rest later := by
  generalize shape : c :: rest = chars at expands
  cases expands with
  | done => cases shape
  | @reference front image tail _ refers _ => exact absurd ⟨tail, shape.symm⟩ (none_ front image refers)
  | other _ behind =>
    cases shape
    exact ⟨_, rfl, behind⟩

/-- The rules leave no choice. -/
theorem Expands.unique {out' : List Char} (first : Expands group chars out)
    (second : Expands group chars out') : out = out' := by
  induction first generalizing out' with
  | done =>
    generalize shape : [] = chars at second
    cases second with
    | done => rfl
    | reference refers _ =>
      obtain ⟨tail, rfl⟩ := refers.exists_tail
      cases shape
    | other _ _ => cases shape
  | reference refers _ ih =>
    obtain ⟨later, rfl, behind⟩ := second.reference_inv refers
    rw [ih behind]
  | other none_ _ ih =>
    obtain ⟨later, rfl, behind⟩ := second.other_inv none_
    rw [ih behind]

/-- Groups that are not there or did not take part in the match are empty. -/
theorem Captures.group_eq (captures : Captures) (text : List Char) (number : Nat) :
    captures.group text number =
      match captures[number]? with
      | some (some span) => between text span
      | _ => [] := by
  rw [group]
  rcases captures[number]? with _ | _ | span <;> rfl

/-- Whatever a match has captured, the template of a replacement says of it what the replacement says: by the
rules of templates it is expanded to this and to nothing else, and this is what it is expanded to. Groups that
are not there or did not take part in the match are empty on both sides. -/
theorem template_faithful (captures : Captures) (text replacement out : List Char) :
    let group := captures.group text
    (∀ number, group number =
      match captures[number]? with
      | some (some span) => between text span
      | _ => []) ∧
    (Expands group (template replacement) out ↔ Reads group replacement out) ∧
    (expand group (template replacement) = out ↔ Reads group replacement out) := by
  intro group
  obtain ⟨own, reads⟩ := exists_reads group replacement
  refine ⟨captures.group_eq text, ⟨fun expands => ?_, Reads.expands⟩, ⟨?_, Reads.expand_eq⟩⟩
  · obtain rfl := reads.expands.unique expands
    exact reads
  · rintro rfl
    rwa [reads.expand_eq]

/-- Braces and digits behind a doubled dollar sign are no reference. -/
example : expand (fun n => (toString n).toList) (template "$$1 $1 $\x7b1\x7d $$$&$07$".toList) =
    "$1 1 $\x7b1\x7d $07$".toList := by cbv

end ApiProbe.Regex
