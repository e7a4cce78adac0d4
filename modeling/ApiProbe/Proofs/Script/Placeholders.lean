import ApiProbe.Script.Lowering
import Mathlib.Data.List.Infix

/-!
Placeholders in what is written for a template of JavaScript or for a string of Groovy with dollar
signs. The literal of the source is cut into segments, and each segment is written by itself. Every
placeholder of the source opens one of the template. In a template a backslash means nothing, so a dollar
sign and a brace that come together open one as well, though one of them was escaped in the source; the
placeholders are the same exactly if there is no such place.
-/
namespace ApiProbe.Script
open Literal
variable {language : Language} {body rest : List Char} {place : Nat}

/-- What literals with placeholders are made of. -/
inductive Segment
  | plain (c : Char)
  /-- A backslash and the character behind it. -/
  | escape (c : Char)
  /-- The sign in front of an expression in braces. -/
  | opening
  /-- Names joined by points, behind a dollar sign. -/
  | path (names : List Char)

namespace Segment

def source : Segment → List Char
  | plain c => [c]
  | escape c => ['\\', c]
  | opening => ['$', '{']
  | path names => '$' :: names

def isPlaceholder : Segment → Bool
  | opening | path _ => true
  | _ => false

def escapeImage (c : Char) : Char := if c == 'n' then '\n' else if c == 't' then '\t' else c

/-- What is written for a segment. JavaScript has templates of its own, which stay as they are. -/
def written (language : Language) : Segment → List Char
  | plain c => if language == .groovy && c.toNat == 96 then ['\\', c] else [c]
  | escape c => if language == .groovy then [escapeImage c] else ['\\', c]
  | opening => ['$', '{']
  | path names => ['$', '{'] ++ names ++ ['}']

end Segment

/-- The segments of a literal, from left to right. Paths are those of Groovy. -/
def segments (language : Language) (body : List Char) : List Segment :=
  match body with
  | [] => []
  | '\\' :: c :: rest => .escape c :: segments language rest
  | '$' :: '{' :: rest => .opening :: segments language rest
  | c :: rest =>
    if language == .groovy && c == '$' && (rest.head?.map isPathStart).getD false then
      .path (pathRest rest).1 :: segments language (pathRest rest).2
    else .plain c :: segments language rest
termination_by body.length
decreasing_by
  all_goals simp only [List.length_cons]
  all_goals first | omega | skip
  have := pathRest_length rest
  omega

/-- What is written for a literal. -/
def writtenAll (language : Language) (all : List Segment) : List Char :=
  all.flatMap (Segment.written language)

/-- Places in a template at which a placeholder opens. -/
def openings (place : Nat) : List Char → List Nat
  | [] => []
  | c :: rest =>
    (if c == '$' && rest.head? == some '{' then [place] else []) ++ openings (place + 1) rest

/-- Places at which the placeholders of a literal stand in what is written for it. -/
def placeholders (language : Language) (place : Nat) : List Segment → List Nat
  | [] => []
  | segment :: rest =>
    (if segment.isPlaceholder then [place] else [])
      ++ placeholders language (place + (segment.written language).length) rest

namespace Segment

/-- A dollar sign that opens nothing. -/
def isDollar : Segment → Bool
  | plain c | escape c => c == '$'
  | _ => false

/-- A brace that is written at once, without a backslash in front of it. -/
def isBrace (language : Language) : Segment → Bool
  | plain c => c == '{'
  | escape c => language == .groovy && c == '{'
  | _ => false

end Segment

/-- A dollar sign that opens nothing stands in front of a brace. -/
def Collides (language : Language) (all : List Segment) : Prop :=
  ∃ first second, [first, second] <:+: all ∧ first.isDollar ∧ second.isBrace language

section Segments

theorem pathRest_append (chars : List Char) : (pathRest chars).1 ++ (pathRest chars).2 = chars := by
  induction chars with
  | nil => rfl
  | cons c rest ih =>
    simp only [pathRest]
    split
    · rw [List.cons_append, ih]
    · rfl

/-- Nothing is lost in the cut. -/
theorem segments_source (language : Language) (body : List Char) :
    (segments language body).flatMap Segment.source = body := by
  fun_induction segments language body with
  | case1 => rfl
  | case2 c rest ih => simp [Segment.source, ih]
  | case3 rest ih => simp [Segment.source, ih]
  | case4 c rest _ _ path ih =>
    simp only [Bool.and_eq_true, beq_iff_eq] at path
    rw [List.flatMap_cons, ih, Segment.source, List.cons_append, pathRest_append, path.1.2]
  | case5 c rest _ _ _ ih => simp [Segment.source, ih]

theorem writtenAll_cons (language : Language) (segment : Segment) (all : List Segment) :
    writtenAll language (segment :: all) = segment.written language ++ writtenAll language all :=
  List.flatMap_cons

/-- Templates of JavaScript are written as they are. -/
theorem writtenAll_javaScript (body : List Char) :
    writtenAll .javaScript (segments .javaScript body) = body := by
  fun_induction segments .javaScript body with
  | case1 => rfl
  | case2 c rest ih => rw [writtenAll_cons, ih]; rfl
  | case3 rest ih => rw [writtenAll_cons, ih]; rfl
  | case4 c rest _ _ path => simp at path
  | case5 c rest _ _ _ ih => rw [writtenAll_cons, ih]; rfl

theorem interpolated_escape (c : Char) (rest : List Char) :
    interpolated ('\\' :: c :: rest) = Segment.escapeImage c :: interpolated rest := by
  rw [interpolated.eq_def]
  by_cases break_ : c = 'n'
  · simp [break_, Segment.escapeImage]
  by_cases tab : c = 't'
  · simp [tab, Segment.escapeImage]
  · simp [break_, tab, Segment.escapeImage]

theorem interpolated_plain {c : Char} (noEscape : c ≠ '\\') (rest : List Char) :
    interpolated (c :: rest) =
      if c == '$' && (rest.head?.map isPathStart).getD false then
        ['$', '{'] ++ (pathRest rest).1 ++ '}' :: interpolated (pathRest rest).2
      else (Segment.plain c).written .groovy ++ interpolated rest := by
  rw [interpolated.eq_def]
  by_cases tick : c.toNat = 96
  · obtain rfl : c = Char.ofNat 96 := by rw [← tick, Char.ofNat_toNat]
    rfl
  · simp [noEscape, tick, Segment.written]

/-- A string with dollar signs is written segment by segment. -/
theorem writtenAll_groovy (body : List Char) :
    writtenAll .groovy (segments .groovy body) = interpolated body := by
  fun_induction segments .groovy body with
  | case1 => simp [writtenAll, interpolated]
  | case2 c rest ih => rw [writtenAll_cons, ih, interpolated_escape]; rfl
  | case3 rest ih =>
    have brace : isPathStart '{' = false := by decide
    rw [writtenAll_cons, ih, interpolated_plain (by simp), interpolated_plain (by simp)]
    simp [brace, Segment.written]
  | case4 c rest escape _ path ih =>
    simp only [beq_self_eq_true, Bool.true_and] at path
    obtain ⟨rfl, -⟩ : c = '$' ∧ _ := by simpa using path
    rw [writtenAll_cons, ih, interpolated_plain (by simp), if_pos path]
    simp [Segment.written]
  | case5 c rest escape _ path ih =>
    simp only [beq_self_eq_true, Bool.true_and] at path
    rw [writtenAll_cons, ih]
    by_cases single : c = '\\'
    · subst single
      cases rest with
      | nil => simp [Segment.written, interpolated]
      | cons d more => exact absurd rfl (escape d more rfl)
    · rw [interpolated_plain single, if_neg path]

end Segments

section Openings

theorem dollar_not_mem_pathRest (chars : List Char) : '$' ∉ (pathRest chars).1 := by
  induction chars with
  | nil => simp [pathRest]
  | cons c rest ih =>
    simp only [pathRest]
    split
    · rename_i inPath
      refine fun member => (List.mem_cons.mp member).elim (fun same => ?_) ih
      subst same
      exact absurd inPath (by
        have letter : Text.isAlphanumeric '$' = false := by decide
        simp [letter])
    · simp

/-- No dollar sign is part of a path. -/
theorem dollar_not_mem_path {names : List Char} (member : .path names ∈ segments language body) :
    '$' ∉ names := by
  fun_induction segments language body with
  | case1 => cases member
  | case2 c rest ih => exact ih (by simpa using member)
  | case3 rest ih => exact ih (by simpa using member)
  | case4 c rest _ _ path ih =>
    rcases List.mem_cons.mp member with same | behind
    · cases same
      exact dollar_not_mem_pathRest rest
    · exact ih behind
  | case5 c rest _ _ _ ih => exact ih (by simpa using member)

theorem openings_cons (place : Nat) (c : Char) (rest : List Char) :
    openings place (c :: rest) =
      (if c == '$' && rest.head? == some '{' then [place] else []) ++ openings (place + 1) rest := rfl

theorem openings_append (place : Nat) (front back : List Char) :
    openings place (front ++ back) = openings place front
      ++ ((if front.getLast? == some '$' && back.head? == some '{' then [place + front.length - 1] else [])
      ++ openings (place + front.length) back) := by
  induction front generalizing place with
  | nil => simp [openings]
  | cons c front ih =>
    cases front with
    | nil => simp [openings]
    | cons d more =>
      have shift : place + 1 + (d :: more).length = place + (c :: d :: more).length := by
        simp only [List.length_cons]
        omega
      rw [List.cons_append, openings_cons, ih, openings_cons place c (d :: more), shift,
        List.getLast?_cons_cons, List.append_assoc]
      rfl

theorem openings_eq_nil {chars : List Char} (none_ : '$' ∉ chars) (place : Nat) :
    openings place chars = [] := by
  induction chars generalizing place with
  | nil => rfl
  | cons c rest ih =>
    rw [List.mem_cons, not_or] at none_
    simp [openings, ih none_.2, Ne.symm none_.1]

/-- Of what is written for a single segment, only a placeholder opens one. -/
theorem openings_written {segment : Segment} (named : ∀ names, segment = .path names → '$' ∉ names)
    (place : Nat) :
    openings place (segment.written language) = if segment.isPlaceholder then [place] else [] := by
  cases segment with
  | plain c =>
    rw [Segment.written]
    split <;> simp [openings, Segment.isPlaceholder]
  | escape c =>
    rw [Segment.written]
    split <;> simp [openings, Segment.isPlaceholder]
  | opening => simp [Segment.written, openings, Segment.isPlaceholder]
  | path names =>
    have behind : '$' ∉ '{' :: (names ++ ['}']) := by simp [named names rfl]
    simp only [Segment.written, Segment.isPlaceholder, List.cons_append, List.nil_append]
    rw [openings_cons, openings_eq_nil behind]
    rfl

/-- Escapes of letters stand for blanks, all others for the character itself. -/
theorem escapeImage_eq_iff {c d : Char} (letter : d ∉ ['n', 't']) (blank : d ∉ ['\n', '\t']) :
    Segment.escapeImage c = d ↔ c = d := by
  simp only [List.mem_cons, List.not_mem_nil, or_false, not_or] at letter blank
  unfold Segment.escapeImage
  split
  · rename_i break_
    rw [beq_iff_eq.mp break_]
    exact iff_of_false (Ne.symm blank.1) (Ne.symm letter.1)
  split
  · rename_i tab
    rw [beq_iff_eq.mp tab]
    exact iff_of_false (Ne.symm blank.2) (Ne.symm letter.2)
  · rfl

theorem getLast?_written (segment : Segment) :
    ((segment.written language).getLast? == some '$') = segment.isDollar := by
  cases segment with
  | plain c =>
    rw [Segment.written]
    split <;> simp [Segment.isDollar]
  | escape c =>
    have image := escapeImage_eq_iff (c := c) (d := '$') (by decide) (by decide)
    rw [Segment.written]
    split <;> simp [Segment.isDollar, image]
  | opening => rfl
  | path names =>
    rw [Segment.written, List.getLast?_concat]
    rfl

theorem head?_written (segment : Segment) :
    ((segment.written language).head? == some '{') = segment.isBrace language := by
  cases segment with
  | plain c =>
    rw [Segment.written]
    split
    · rename_i tick
      have other : c ≠ '{' := by
        rintro rfl
        simp at tick
      simp [Segment.isBrace, other]
    · simp [Segment.isBrace]
  | escape c =>
    have image := escapeImage_eq_iff (c := c) (d := '{') (by decide) (by decide)
    rw [Segment.written]
    split <;> simp_all [Segment.isBrace]
  | opening => rfl
  | path names => rfl

theorem written_ne_nil (language : Language) (segment : Segment) : segment.written language ≠ [] := by
  cases segment <;> simp only [Segment.written] <;> (try split) <;> simp

/-- A sign that opens nothing in front of a brace, at the start of a literal. -/
def startsColliding (language : Language) : List Segment → Bool
  | first :: second :: _ => first.isDollar && second.isBrace language
  | _ => false

theorem collides_cons (segment : Segment) (all : List Segment) :
    Collides language (segment :: all) ↔
      startsColliding language (segment :: all) = true ∨ Collides language all := by
  constructor
  · rintro ⟨first, second, inside, dollar, brace⟩
    rcases List.infix_cons_iff.mp inside with starts | behind
    · obtain ⟨others, shape⟩ := starts
      obtain ⟨rfl, rfl⟩ := List.cons.inj shape
      exact .inl (by simp [startsColliding, dollar, brace])
    · exact .inr ⟨first, second, behind, dollar, brace⟩
  · rintro (starts | ⟨first, second, behind, both⟩)
    · cases all with
      | nil => cases starts
      | cons second more =>
        simp only [startsColliding, Bool.and_eq_true] at starts
        exact ⟨segment, second, ⟨[], more, rfl⟩, starts⟩
    · exact ⟨first, second, behind.trans (List.suffix_cons ..).isInfix, both⟩

theorem openings_writtenAll_cons {segment : Segment} (named : ∀ names, segment = .path names → '$' ∉ names)
    (all : List Segment) (place : Nat) :
    openings place (writtenAll language (segment :: all)) =
      (if segment.isPlaceholder then [place] else [])
        ++ ((if startsColliding language (segment :: all) then
            [place + (segment.written language).length - 1] else [])
          ++ openings (place + (segment.written language).length) (writtenAll language all)) := by
  have collision : ((segment.written language).getLast? == some '$'
      && (writtenAll language all).head? == some '{') = startsColliding language (segment :: all) := by
    cases all with
    | nil => simp [writtenAll, startsColliding]
    | cons second more =>
      obtain ⟨c, others, shape⟩ := List.exists_cons_of_ne_nil (written_ne_nil language second)
      have first : (writtenAll language (second :: more)).head? = (second.written language).head? := by
        rw [writtenAll_cons, shape]
        rfl
      rw [first, getLast?_written, head?_written]
      rfl
  rw [writtenAll_cons, openings_append, openings_written named, collision]

theorem le_of_mem_placeholders {n : Nat} {all : List Segment} (member : n ∈ placeholders language place all) :
    place ≤ n := by
  induction all generalizing place with
  | nil => cases member
  | cons segment rest ih =>
    rcases List.mem_append.mp member with own | behind
    · split at own
      · exact Nat.le_of_eq (List.mem_singleton.mp own).symm
      · cases own
    · exact Nat.le_trans (Nat.le_add_right ..) (ih behind)

/-- Every placeholder of a literal opens one in what is written. -/
theorem placeholders_sublist {all : List Segment} (named : ∀ names, .path names ∈ all → '$' ∉ names)
    (place : Nat) : (placeholders language place all).Sublist (openings place (writtenAll language all)) := by
  induction all generalizing place with
  | nil => exact List.nil_sublist _
  | cons segment rest ih =>
    rw [openings_writtenAll_cons fun names same => named names (same ▸ List.mem_cons_self), placeholders]
    exact (List.Sublist.refl _).append
      ((ih (fun names member => named names (List.mem_cons_of_mem segment member)) _).trans
        (List.sublist_append_right ..))

/-- Nothing else opens one, unless a dollar sign comes in front of a brace. -/
theorem openings_eq_placeholders_iff {all : List Segment} (named : ∀ names, .path names ∈ all → '$' ∉ names)
    (place : Nat) :
    openings place (writtenAll language all) = placeholders language place all ↔ ¬Collides language all := by
  induction all generalizing place with
  | nil =>
    refine iff_of_true rfl ?_
    rintro ⟨first, second, inside, -⟩
    simp at inside
  | cons segment rest ih =>
    have behind := ih (fun names member => named names (List.mem_cons_of_mem segment member))
      (place + (segment.written language).length)
    rw [openings_writtenAll_cons fun names same => named names (same ▸ List.mem_cons_self), placeholders,
      List.append_cancel_left_eq, collides_cons, not_or]
    cases starts : startsColliding language (segment :: rest) with
    | false => simpa using behind
    | true =>
      simp only [if_true, not_true_eq_false, false_and, iff_false]
      intro same
      -- The place of the sign lies before everything that is written for the rest.
      have first : place + (segment.written language).length - 1
          ∈ placeholders language (place + (segment.written language).length) rest := by
        rw [← same]
        exact List.mem_append_left _ (List.mem_singleton_self _)
      have later := le_of_mem_placeholders first
      have long := List.length_pos_iff.mpr (written_ne_nil language segment)
      omega

/-- A dollar sign in front of a brace is a placeholder. -/
theorem not_plain_pair : ¬[.plain '$', .plain '{'] <:+: segments language body := by
  fun_induction segments language body with
  | case1 => simp
  | case2 c rest ih => simpa [List.infix_cons_iff] using ih
  | case3 rest ih => simpa [List.infix_cons_iff] using ih
  | case4 c rest _ _ _ ih => simpa [List.infix_cons_iff] using ih
  | case5 c rest _ opens _ ih =>
    rw [List.infix_cons_iff, not_or]
    refine ⟨?_, ih⟩
    rintro ⟨others, shape⟩
    have ⟨dollar, behind⟩ := List.cons.inj shape
    have brace : rest = '{' :: others.flatMap Segment.source := by
      rw [← segments_source language rest, ← behind]
      rfl
    exact opens _ (Segment.plain.inj dollar).symm brace

theorem escape_of_collides (collides : Collides language (segments language body)) :
    .escape '$' ∈ segments language body ∨ language = .groovy ∧ .escape '{' ∈ segments language body := by
  obtain ⟨first, second, together, dollar, brace⟩ := collides
  have member : first ∈ segments language body ∧ second ∈ segments language body :=
    ⟨together.subset (by simp), together.subset (by simp)⟩
  cases first with
  | escape c =>
    obtain rfl := beq_iff_eq.mp dollar
    exact .inl member.1
  | plain c =>
    obtain rfl := beq_iff_eq.mp dollar
    cases second with
    | escape d =>
      simp only [Segment.isBrace, Bool.and_eq_true, beq_iff_eq] at brace
      obtain ⟨spoken, rfl⟩ := brace
      exact .inr ⟨spoken, member.2⟩
    | plain d =>
      obtain rfl := beq_iff_eq.mp brace
      exact absurd together not_plain_pair
    | opening => cases brace
    | path names => cases brace
  | opening => cases dollar
  | path names => cases dollar

end Openings

section Literals
open Lowering

/-- The literals of a language in which placeholders may stand. -/
def holder : Language → List Char → Kind
  | .javaScript, body => .template body
  | .groovy, body => .quoted body '"'

/-- Whether such a literal is taken for one with placeholders. -/
def takenToHold : Language → List Char → Bool
  | .javaScript, _ => true
  | .groovy, body => interpolates body

theorem interpolates_cons (c : Char) (found : interpolates rest = true) :
    interpolates (c :: rest) = true := by
  by_cases sign : c = '$'
  · subst sign
    cases rest with
    | nil => cases found
    | cons d more => simp [interpolates, found]
  · rw [interpolates]
    · exact found
    · exact fun _ _ dollar => absurd dollar sign

/-- The look through a string finds its placeholders. -/
theorem interpolates_of_placeholder {segment : Segment} (member : segment ∈ segments .groovy body)
    (holds : segment.isPlaceholder) : interpolates body = true := by
  fun_induction segments .groovy body with
  | case1 => cases member
  | case2 c rest ih =>
    rcases List.mem_cons.mp member with rfl | behind
    · cases holds
    · exact interpolates_cons _ (interpolates_cons _ (ih behind))
  | case3 rest => simp [interpolates]
  | case4 c rest _ _ path =>
    simp only [beq_self_eq_true, Bool.true_and, Bool.and_eq_true, beq_iff_eq] at path
    obtain ⟨rfl, start⟩ := path
    cases rest with
    | nil => cases start
    | cons d more =>
      have start : isPathStart d = true := start
      simp [interpolates, start]
  | case5 c rest _ _ _ ih =>
    rcases List.mem_cons.mp member with rfl | behind
    · cases holds
    · exact interpolates_cons _ (ih behind)

/-- Back ticks are neither lost nor added. -/
theorem tick_mem_writtenAll_iff :
    Char.ofNat 96 ∈ writtenAll language (segments language body) ↔ Char.ofNat 96 ∈ body := by
  have each (segment : Segment) :
      Char.ofNat 96 ∈ segment.written language ↔ Char.ofNat 96 ∈ segment.source := by
    cases segment with
    | plain c =>
      rw [Segment.written]
      split <;> simp [Segment.source]
    | escape c =>
      have image := escapeImage_eq_iff (c := c) (d := Char.ofNat 96) (by decide) (by decide)
      rw [Segment.written]
      split
      · simpa [Segment.source, eq_comm] using image
      · rfl
    | opening => rfl
    | path names => simp [Segment.written, Segment.source]
  conv_rhs => rw [← segments_source language body]
  simp only [writtenAll, List.mem_flatMap, each]

/-- A template of JavaScript or a string of Groovy with dollar signs is cut into segments without loss,
and a string with a placeholder is always taken for one that may hold some. What is taken so is written as
one template; only where the bounds of a counting loop are copied, a string of Groovy is left a string.
The placeholders of the source open one in the template, at the places they are written to and in the same
order. No other opens exactly if no dollar sign that opens nothing comes to stand in front of a brace, and
that takes an escape of one of the two signs. -/
theorem placeholders_kept_iff (language : Language) (body : List Char) :
    (segments language body).flatMap Segment.source = body ∧
      ((segments language body).any Segment.isPlaceholder → takenToHold language body) ∧
      (takenToHold language body → ∃ inner,
        (∀ state before line rest, step language state ⟨before, ⟨holder language body, line⟩, rest⟩ =
          .ok (state.emit (String.ofList (Literal.template inner)), 0)) ∧
        (plainText (holder language body) = String.ofList (Literal.template inner) ↔
          language = .javaScript) ∧
        (Char.ofNat 96 ∈ inner ↔ Char.ofNat 96 ∈ body) ∧
        (placeholders language 0 (segments language body)).Sublist (openings 0 inner) ∧
        (openings 0 inner = placeholders language 0 (segments language body) ↔
          ¬Collides language (segments language body))) ∧
      (Collides language (segments language body) →
        .escape '$' ∈ segments language body ∨
          language = .groovy ∧ .escape '{' ∈ segments language body) := by
  have named : ∀ names, .path names ∈ segments language body → '$' ∉ names := fun names => dollar_not_mem_path
  refine ⟨segments_source language body, fun some_ => ?found, fun _ => ?_, escape_of_collides⟩
  case found =>
    obtain ⟨segment, member, holds⟩ := List.any_eq_true.mp some_
    cases language with
    | javaScript => rfl
    | groovy => exact interpolates_of_placeholder member holds
  refine ⟨writtenAll language (segments language body), fun state before line rest => ?step, ?copied,
    tick_mem_writtenAll_iff, placeholders_sublist named 0, openings_eq_placeholders_iff named 0⟩
  case step =>
    cases language with
    | javaScript => rw [writtenAll_javaScript]; rfl
    | groovy =>
      have taken : interpolates body = true := ‹_›
      simp [step, holder, withDollars, taken, writtenAll_groovy]
  case copied =>
    cases language with
    | javaScript => rw [writtenAll_javaScript]; exact iff_of_true rfl rfl
    | groovy =>
      refine iff_of_false (fun same => ?_) (by simp)
      have first := (List.cons.inj (String.ofList_injective same)).1
      cases first

/-- An escaped dollar sign in front of a brace, in either language: the escape is lost. -/
theorem placeholders_kept_iff_escaped :
    (∃ inner, plainText (holder .javaScript "\\$\x7b1\x7d".toList) = String.ofList (Literal.template inner) ∧
        openings 0 inner ≠ placeholders .javaScript 0 (segments .javaScript "\\$\x7b1\x7d".toList)) ∧
      ∃ inner, (∀ state before line rest,
          step .groovy state ⟨before, ⟨holder .groovy "\\$\x7b1\x7d $\x7b2\x7d".toList, line⟩, rest⟩ =
            .ok (state.emit (String.ofList (Literal.template inner)), 0)) ∧
        openings 0 inner ≠ placeholders .groovy 0 (segments .groovy "\\$\x7b1\x7d $\x7b2\x7d".toList) := by
  obtain ⟨-, -, template, -⟩ := placeholders_kept_iff .javaScript "\\$\x7b1\x7d".toList
  obtain ⟨-, -, dollars, -⟩ := placeholders_kept_iff .groovy "\\$\x7b1\x7d $\x7b2\x7d".toList
  obtain ⟨inner, -, copied, -, -, kept⟩ := template rfl
  obtain ⟨other, written, -, -, -, keptToo⟩ := dollars (by decide)
  refine ⟨⟨inner, copied.mpr rfl, ?_⟩, ⟨other, written, ?_⟩⟩
  · rw [Ne, kept, not_not]
    have together : [.escape '$', .plain '{'] <:+: segments .javaScript "\\$\x7b1\x7d".toList :=
      ⟨[], [.plain '1', .plain '}'], by simp [segments]⟩
    exact ⟨.escape '$', .plain '{', together, rfl, rfl⟩
  · rw [Ne, keptToo, not_not]
    have together : [.escape '$', .plain '{'] <:+: segments .groovy "\\$\x7b1\x7d $\x7b2\x7d".toList :=
      ⟨[], [.plain '1', .plain '}', .plain ' ', .opening, .plain '2', .plain '}'], by simp [segments]⟩
    exact ⟨.escape '$', .plain '{', together, rfl, rfl⟩

end Literals

end ApiProbe.Script
