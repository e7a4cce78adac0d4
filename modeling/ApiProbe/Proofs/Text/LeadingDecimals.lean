import ApiProbe.Machine.Library
import ApiProbe.Proofs.Decimal.Grammar
import ApiProbe.Proofs.Decimal.Scientific

/-!
Decimal numbers at the start of a text. The longest one there is tells what is read, and nothing is read
where there is none; but for the names of the values that have no digits, which are read as well.
-/
namespace ApiProbe.Text

/-- The longest start of a text that has a form. -/
structure Longest (form : List Char → Prop) (chars front : List Char) : Prop where
  starts : front <+: chars
  is : form front
  longest : ∀ other, other <+: chars → form other → other.length ≤ front.length

theorem Longest.congr {form other : List Char → Prop} {chars front : List Char}
    (longest : Longest form chars front)
    (same : ∀ front, front <+: chars → (form front ↔ other front)) : Longest other chars front where
  starts := longest.starts
  is := (same front longest.starts).mp longest.is
  longest := fun part starts is => longest.longest part starts ((same part starts).mpr is)

section Search
variable {α : Type} {read : List Char → Option α} {x : α} {chars front : List Char}

/-- From the far end on, the last one is found. -/
theorem findSome?_range_reverse_eq_some_iff {n : Nat} {f : Nat → Option α} :
    (List.range n).reverse.findSome? f = some x ↔
      ∃ last < n, f last = some x ∧ ∀ later < n, last < later → f later = none := by
  -- One more index is one that is tried before all others.
  induction n with
  | zero => simp
  | succ n ih =>
    rw [List.range_succ, List.reverse_append, List.reverse_singleton, List.singleton_append,
      List.findSome?_cons]
    cases found : f n with
    | some y =>
      constructor
      · rintro ⟨⟩
        exact ⟨n, n.lt_succ_self, found, fun later below above => by omega⟩
      · rintro ⟨last, below, is, none_⟩
        rcases Nat.lt_succ_iff_lt_or_eq.mp below with inside | rfl
        · rw [none_ n n.lt_succ_self inside] at found
          cases found
        · rw [← found, is]
    | none =>
      refine ih.trans ⟨?_, ?_⟩
      · rintro ⟨last, below, is, none_⟩
        refine ⟨last, by omega, is, fun later inside above => ?_⟩
        rcases Nat.lt_succ_iff_lt_or_eq.mp inside with inside | rfl
        · exact none_ later inside above
        · exact found
      · rintro ⟨last, below, is, none_⟩
        rcases Nat.lt_succ_iff_lt_or_eq.mp below with inside | rfl
        · exact ⟨last, inside, is, fun later below => none_ later (by omega)⟩
        · rw [found] at is
          cases is

theorem exists_eq_take_of_prefix (starts : front <+: chars) (some_ : front ≠ []) :
    ∃ last < chars.length, front = chars.take (last + 1) ∧ front.length = last + 1 := by
  obtain ⟨last, size⟩ := Nat.exists_eq_succ_of_ne_zero (mt List.length_eq_zero_iff.mp some_)
  have bound := starts.length_le
  have same := List.prefix_iff_eq_take.mp starts
  rw [size] at bound same
  exact ⟨last, bound, same, size⟩

/-- Of all starts of a text the longest one that can be read is found. -/
theorem findSome?_take_eq_some_iff (empty : read [] = none) :
    ((List.range chars.length).reverse.findSome? fun last => read (chars.take (last + 1))) = some x ↔
      ∃ front, Longest (fun front => (read front).isSome = true) chars front ∧ read front = some x := by
  have filled {front : List Char} (some_ : (read front).isSome = true) : front ≠ [] := by
    rintro rfl
    rw [empty] at some_
    cases some_
  rw [findSome?_range_reverse_eq_some_iff]
  constructor
  · rintro ⟨last, below, is, none_⟩
    refine ⟨_, ⟨List.take_prefix _ _, by rw [is]; rfl, fun other starts some_ => ?_⟩, is⟩
    obtain ⟨later, inside, same, size⟩ := exists_eq_take_of_prefix starts (filled some_)
    rw [List.length_take, size]
    by_contra longer
    rw [same, none_ later inside (by omega)] at some_
    cases some_
  · rintro ⟨front, longest, is⟩
    obtain ⟨last, below, same, size⟩ := exists_eq_take_of_prefix longest.starts (filled longest.is)
    refine ⟨last, below, same ▸ is, fun later inside above => ?_⟩
    by_contra some_
    have short := longest.longest _ (List.take_prefix (later + 1) chars)
      (Option.isSome_iff_ne_none.mpr some_)
    rw [List.length_take, size] at short
    omega

theorem findSome?_take_eq_none_iff (empty : read [] = none) :
    ((List.range chars.length).reverse.findSome? fun last => read (chars.take (last + 1))) = none ↔
      ∀ front, front <+: chars → read front = none := by
  simp only [List.findSome?_eq_none_iff, List.mem_reverse, List.mem_range]
  refine ⟨fun none_ front starts => ?_, fun none_ last _ => none_ _ (List.take_prefix _ _)⟩
  rcases eq_or_ne front [] with rfl | some_
  · exact empty
  · obtain ⟨last, below, same, -⟩ := exists_eq_take_of_prefix starts some_
    rw [same]
    exact none_ last below

end Search
end ApiProbe.Text

namespace ApiProbe.Machine.Library
open Text (Longest trimChars)
open Decimal (Numeral IsDecimal IsName readFloat? readFloat?_eq_some_iff isSome_readFloat?_iff)

section Reading
variable {text : String} {front : List Char} {x : Float}

theorem leadingFloat?_eq_some_iff :
    Text.leadingFloat? text = some x ↔
      ∃ front, Longest (fun front => (readFloat? front).isSome = true) (trimChars text.toList) front ∧
        readFloat? front = some x :=
  Text.findSome?_take_eq_some_iff rfl

theorem leadingFloat?_eq_none_iff :
    Text.leadingFloat? text = none ↔
      ∀ front, front <+: trimChars text.toList → readFloat? front = none :=
  Text.findSome?_take_eq_none_iff rfl

theorem call?_parseFloat (text : String) :
    call? "parseFloat" [.str text] = .value (((Text.leadingFloat? text).map Value.float).getD .unit) :=
  rfl

theorem call?_parseFloat_eq_unit_iff :
    call? "parseFloat" [.str text] = .value .unit ↔ Text.leadingFloat? text = none := by
  rw [call?_parseFloat]
  cases Text.leadingFloat? text with
  | none => exact ⟨fun _ => rfl, fun _ => rfl⟩
  | some x => exact ⟨nofun, nofun⟩

end Reading

/-- What tells the decimal number that a text starts with: nothing if there is none, and else the value of
the longest one. -/
inductive TellsDecimal (chars : List Char) : Answer → Prop
  | none (none_ : ∀ numeral front, front <+: chars → ¬IsDecimal numeral front) :
    TellsDecimal chars (.value .unit)
  | some {numeral : Numeral} {front : List Char}
    (longest : Longest (fun front => ∃ numeral, IsDecimal numeral front) chars front)
    (is : IsDecimal numeral front) : TellsDecimal chars (.value (.float numeral.value))

section Telling
variable {text : String} {front : List Char} {x : Float}

/-- A text that starts with no name is read by its decimal numbers alone. -/
theorem tellsDecimal_parseFloat
    (unnamed : ∀ x front, front <+: trimChars text.toList → ¬IsName x front) :
    TellsDecimal (trimChars text.toList) (call? "parseFloat" [.str text]) := by
  have same : ∀ front, front <+: trimChars text.toList →
      ((readFloat? front).isSome = true ↔ ∃ numeral, IsDecimal numeral front) := by
    intro front starts
    rw [isSome_readFloat?_iff, or_iff_left]
    rintro ⟨x, named⟩
    exact unnamed x front starts named
  rw [call?_parseFloat]
  cases read : Text.leadingFloat? text with
  | none =>
    refine .none fun numeral front starts is => ?_
    have some_ := (same front starts).mpr ⟨numeral, is⟩
    rw [leadingFloat?_eq_none_iff.mp read front starts] at some_
    cases some_
  | some x =>
    obtain ⟨front, longest, value⟩ := leadingFloat?_eq_some_iff.mp read
    obtain ⟨numeral, is, rfl⟩ | named := readFloat?_eq_some_iff.mp value
    · rw [numeral.toFloat_eq]
      exact .some (longest.congr same) is
    · exact absurd named (unnamed x front longest.starts)

/-- Of a text that starts with a name the longest one is read. -/
theorem call?_parseFloat_name
    (longest : Longest (fun front => ∃ x, IsName x front) (trimChars text.toList) front)
    (named : IsName x front) : call? "parseFloat" [.str text] = .value (.float x) := by
  have same : ∀ other, other <+: trimChars text.toList →
      ((∃ x, IsName x other) ↔ (readFloat? other).isSome = true) := by
    intro other starts
    rw [isSome_readFloat?_iff, or_iff_right]
    rintro ⟨numeral, is⟩
    exact named.not_isDecimal longest.starts starts is
  have read := readFloat?_eq_some_iff.mpr (.inr named)
  rw [call?_parseFloat, leadingFloat?_eq_some_iff.mpr ⟨front, longest.congr same, read⟩]
  rfl

theorem TellsDecimal.not_isName {answer : Answer}
    (tells : TellsDecimal (trimChars text.toList) answer) (reply : call? "parseFloat" [.str text] = answer)
    (starts : front <+: trimChars text.toList) : ¬IsName x front := by
  intro named
  cases tells with
  | none =>
    have unread := leadingFloat?_eq_none_iff.mp (call?_parseFloat_eq_unit_iff.mp reply) front starts
    rw [readFloat?_eq_some_iff.mpr (.inr named)] at unread
    cases unread
  | some longest is => exact named.not_isDecimal starts longest.starts is

end Telling

/-- The decimal number at the start of a text is told, behind blanks, unless the text starts with a name of
infinity or of what is no number. Such a name is read as what it names. -/
theorem parseFloat_leading (text : String) :
    let chars := trimChars text.toList
    let reply := call? "parseFloat" [.str text]
    (TellsDecimal chars reply ↔ ∀ x front, front <+: chars → ¬IsName x front) ∧
      ∀ x front, Longest (fun front => ∃ x, IsName x front) chars front → IsName x front →
        reply = .value (.float x) :=
  ⟨⟨fun tells _ _ starts => tells.not_isName rfl starts, tellsDecimal_parseFloat⟩,
    fun _ _ => call?_parseFloat_name⟩

/-- Of an exponent that is not complete nothing is taken. -/
example : call? "parseFloat" [.str " -1.5e+"] = .value (.float (-1.5)) := by rfl

/-- The word says infinity at its start, and so it is read, while it has no decimal number. -/
theorem parseFloat_leading_infinite :
    let reply := call? "parseFloat" [.str "infinite"]
    reply = .value (.float (1.0 / 0.0)) ∧ ¬TellsDecimal "infinite".toList reply := by
  have chars : trimChars "infinite".toList = "infinite".toList := by decide
  have named : IsName (1.0 / 0.0) "inf".toList := .infinite .none (.inl (by decide))
  have begins : "inf".toList <+: "infinite".toList := by decide
  have short : ∀ other ∈ "infinite".toList.inits, (Decimal.named? other).isSome = true →
      other.length ≤ 3 := by decide
  have longest : Longest (fun front => ∃ x, IsName x front) "infinite".toList "inf".toList := by
    refine ⟨begins, ⟨_, named⟩, fun other starts ⟨x, is⟩ => ?_⟩
    refine short other ((List.mem_inits _ _).mpr starts) ?_
    rw [Decimal.named?_eq_some_iff.mpr is]
    rfl
  have read := parseFloat_leading "infinite"
  rw [chars] at read
  exact ⟨read.2 _ _ longest named, fun tells => read.1.mp tells _ _ begins named⟩

end ApiProbe.Machine.Library
