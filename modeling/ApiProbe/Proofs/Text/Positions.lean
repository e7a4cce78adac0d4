import ApiProbe.Machine.Library
import Mathlib.Order.Bounds.Basic

/-!
Places in texts are counted in characters. The place at which a text is found in another one is the least
at which it stands there, and between this place and the one behind its last character it is cut out again.
Bounds of any size cut out as many characters as lie between them once they are brought into the text.
-/
namespace ApiProbe.Text
variable {mark text rest : List Char} {c : Char} {place : Nat}

/-- A mark stands in a text behind as many characters as its place says. -/
def OccursAt (mark text : List Char) (place : Nat) : Prop :=
  ∃ before after, text = before ++ (mark ++ after) ∧ before.length = place

theorem occursAt_zero_iff : OccursAt mark text 0 ↔ mark <+: text := by
  constructor
  · rintro ⟨before, after, rfl, none_⟩
    rw [List.length_eq_zero_iff.mp none_]
    exact ⟨after, rfl⟩
  · rintro ⟨after, rfl⟩
    exact ⟨[], after, rfl, rfl⟩

theorem occursAt_cons_succ_iff : OccursAt mark (c :: rest) (place + 1) ↔ OccursAt mark rest place := by
  constructor
  · rintro ⟨before, after, split, length⟩
    obtain ⟨d, front, rfl⟩ := List.exists_cons_of_length_eq_add_one length
    obtain ⟨-, same⟩ := List.cons_eq_cons.mp split
    exact ⟨front, after, same, by simpa using length⟩
  · rintro ⟨before, after, rfl, rfl⟩
    exact ⟨c :: before, after, rfl, rfl⟩

theorem OccursAt.le_length (occurs : OccursAt mark text place) :
    place + mark.length ≤ text.length := by
  obtain ⟨before, after, rfl, rfl⟩ := occurs
  simp only [List.length_append]
  omega

theorem indexOf?_nil : indexOf? mark [] = if mark = [] then some 0 else none := by
  cases mark <;> rfl

theorem indexOf?_cons :
    indexOf? mark (c :: rest) =
      if mark <+: c :: rest then some 0 else (indexOf? mark rest).map (· + 1) := by
  rw [indexOf?, cutAt?]
  simp only [List.isPrefixOf_iff_prefix]
  split
  · rfl
  · rw [Option.map_map, indexOf?, Option.map_map]
    rfl

/-- A search finds the least place, and nothing if there is none. -/
theorem indexOf?_spec (mark text : List Char) :
    (∃ place, indexOf? mark text = some place ∧ IsLeast {p | OccursAt mark text p} place) ∨
      indexOf? mark text = none ∧ ∀ place, ¬OccursAt mark text place := by
  induction text with
  | nil =>
    rw [indexOf?_nil]
    by_cases blank : mark = []
    · rw [if_pos blank]
      have here : OccursAt mark [] 0 := occursAt_zero_iff.mpr (blank ▸ List.nil_prefix)
      exact .inl ⟨0, rfl, here, fun _ _ => Nat.zero_le _⟩
    · rw [if_neg blank]
      refine .inr ⟨rfl, fun place occurs => blank ?_⟩
      have short := occurs.le_length
      exact List.length_eq_zero_iff.mp (by simpa using Nat.le_of_add_left_le short)
  | cons c rest ih =>
    rw [indexOf?_cons]
    by_cases here : mark <+: c :: rest
    · rw [if_pos here]
      exact .inl ⟨0, rfl, occursAt_zero_iff.mpr here, fun _ _ => Nat.zero_le _⟩
    · rw [if_neg here]
      have later {p : Nat} (occurs : OccursAt mark (c :: rest) p) : ∃ q, p = q + 1 ∧ OccursAt mark rest q := by
        cases p with
        | zero => exact absurd (occursAt_zero_iff.mp occurs) here
        | succ q => exact ⟨q, rfl, occursAt_cons_succ_iff.mp occurs⟩
      rcases ih with ⟨place, found, occurs, least⟩ | ⟨missing, nowhere⟩
      · refine .inl ⟨place + 1, by rw [found]; rfl, occursAt_cons_succ_iff.mpr occurs, fun p other => ?_⟩
        obtain ⟨q, rfl, inside⟩ := later other
        exact Nat.succ_le_succ (least inside)
      · refine .inr ⟨by rw [missing]; rfl, fun p other => ?_⟩
        obtain ⟨q, -, inside⟩ := later other
        exact nowhere q inside

theorem indexOf?_eq_some_iff :
    indexOf? mark text = some place ↔ IsLeast {p | OccursAt mark text p} place := by
  rcases indexOf?_spec mark text with ⟨first, found, least⟩ | ⟨missing, nowhere⟩
  · rw [found, Option.some.injEq]
    exact ⟨fun same => same ▸ least, least.unique⟩
  · simp only [missing, reduceCtorEq, false_iff]
    exact fun least => nowhere place least.1

theorem indexOf?_eq_none_iff : indexOf? mark text = none ↔ ∀ place, ¬OccursAt mark text place := by
  rcases indexOf?_spec mark text with ⟨first, found, least⟩ | ⟨missing, nowhere⟩
  · simp only [found, reduceCtorEq, false_iff]
    exact fun nowhere => nowhere first least.1
  · exact ⟨fun _ => nowhere, fun _ => missing⟩

/-- What stands in a text is cut out between its place and the one behind it. -/
theorem OccursAt.substring_eq (occurs : OccursAt mark text place) :
    substring text place (place + mark.length) = mark := by
  obtain ⟨before, after, rfl, rfl⟩ := occurs
  have first : (min (before.length : Int) (before.length + mark.length)).toNat = before.length := by omega
  have length : (max (before.length : Int) (before.length + mark.length)).toNat - before.length =
      mark.length := by omega
  simp only [substring, first, length, List.drop_left, List.take_left]

theorem substring_comm (text : List Char) (a b : Int) : substring text a b = substring text b a := by
  simp only [substring, min_comm, max_comm]

theorem length_substring (text : List Char) (a b : Int) :
    ((substring text a b).length : Int) =
      min (max (max a b) 0) text.length - min (max (min a b) 0) text.length := by
  simp only [substring, List.length_take, List.length_drop]
  omega

end ApiProbe.Text

namespace ApiProbe.Machine.Library
open Text (OccursAt)
open Decimal (int64Min int64Max)

/-- Whatever is searched in a text and wherever it is cut, places are places of characters. What occurs in
the text is found at its least place, ends inside of the text and is cut out there; what does not occur is
found at minus one. Bounds may stand in either order, and they cut out as many characters as they enclose. -/
theorem places_of_characters (text part : String) :
    let n : Int := text.length
    (∀ whole : String, property? "length" (.str whole) = some (.int whole.toList.length)) ∧
    ((∃ place, OccursAt part.toList text.toList place) → ∃ place : Nat,
      IsLeast {p | OccursAt part.toList text.toList p} place ∧
      call? "indexOf" [.str text, .str part] = .value (.int place) ∧ place + part.length ≤ n ∧
      call? "substring" [.str text, .int place, .int (place + part.length)] = .value (.str part)) ∧
    ((∀ place, ¬OccursAt part.toList text.toList place) →
      call? "indexOf" [.str text, .str part] = .value (.int (-1))) ∧
    ∀ i j : Int, ∃ cut : String,
      call? "substring" [.str text, .int i, .int j] = .value (.str cut) ∧
      call? "substring" [.str text, .int j, .int i] = .value (.str cut) ∧
      (cut.length : Int) = min (max (max i j) 0) n - min (max (min i j) 0) n := by
  intro n
  have index : call? "indexOf" [.str text, .str part] =
      .value (.int (((Text.indexOf? part.toList text.toList).map Int.ofNat).getD (-1))) := rfl
  have cut (i j : Int) : call? "substring" [.str text, .int i, .int j] =
      .value (.str (String.ofList (Text.substring text.toList i j))) := rfl
  rw [index]
  refine ⟨fun _ => rfl, fun ⟨place, occurs⟩ => ?_, fun nowhere => ?_, fun i j => ?_⟩
  · cases found : Text.indexOf? part.toList text.toList with
    | none => exact absurd occurs (Text.indexOf?_eq_none_iff.mp found place)
    | some least =>
      have is := Text.indexOf?_eq_some_iff.mp found
      have inside := is.1.le_length
      rw [String.length_toList, String.length_toList] at inside
      refine ⟨least, is, rfl, Int.ofNat_le.mpr inside, ?_⟩
      rw [cut, ← String.length_toList, is.1.substring_eq, String.ofList_toList]
  · rw [Text.indexOf?_eq_none_iff.mpr nowhere]
    rfl
  · refine ⟨_, cut i j, ?_, ?_⟩
    · rw [cut, Text.substring_comm]
    · rw [String.length_ofList, Text.length_substring, String.length_toList]

/-- Of two places behind an accent and a sign of four bytes the first one is found and cut out; the extreme
bounds cut out the whole text from either side. -/
theorem places_of_characters_accented :
    let text := "é😀ab😀ab"
    (∃ place, OccursAt "ab".toList text.toList place) ∧
      call? "indexOf" [.str text, .str "ab"] = .value (.int 2) ∧
      call? "substring" [.str text, .int 2, .int 4] = .value (.str "ab") ∧
      (∀ place, ¬OccursAt "ba".toList text.toList place) ∧
      call? "indexOf" [.str text, .str "ba"] = .value (.int (-1)) ∧
      ∃ cut : String, call? "substring" [.str text, .int int64Max, .int int64Min] = .value (.str cut) ∧
        cut.length = 7 := by
  intro text
  have least : IsLeast {p | OccursAt "ab".toList text.toList p} 2 :=
    Text.indexOf?_eq_some_iff.mp (by decide)
  have nowhere : ∀ place, ¬OccursAt "ba".toList text.toList place :=
    Text.indexOf?_eq_none_iff.mp (by decide)
  obtain ⟨-, inside, -, bounds⟩ := places_of_characters text "ab"
  obtain ⟨-, -, outside, -⟩ := places_of_characters text "ba"
  obtain ⟨place, first, index, -, part⟩ := inside ⟨2, least.1⟩
  obtain rfl : place = 2 := first.unique least
  obtain ⟨cut, forward, -, length⟩ := bounds int64Max int64Min
  exact ⟨⟨2, least.1⟩, index, part, nowhere, outside nowhere, cut, forward,
    Int.ofNat_inj.mp (length.trans (by decide))⟩

end ApiProbe.Machine.Library
