import ApiProbe.Proofs.Text.Trimming
import ApiProbe.Proofs.Variable.Expansion

/-!
Keys that a token can name. A key that may be stored need not be one of them: a token ends with the
first brace, is trimmed, stands for a generated value behind a dollar sign, and is plain text behind a
backslash. All other keys are found by their tokens, in whatever scope they are stored.
-/
namespace ApiProbe

namespace Substitution
variable {chars inner : List Char}

/-- The text of a token for a key. -/
def tokenOf (key : String) : List Char := ['{', '{'] ++ key.toList ++ ['}', '}']

/-- Characters of a token are no braces, and there is at least one. -/
theorem token?_inner {after : List Char} (found : token? chars = some (inner, after)) :
    inner ≠ [] ∧ ∀ c ∈ inner, isBrace c = false := by
  unfold token? at found
  split at found
  · dsimp only at found
    split at found
    · split at found
      · cases found
      · rename_i some_
        cases found
        refine ⟨fun nothing => some_ (by rw [nothing]; rfl), fun c member => ?_⟩
        simpa using List.mem_takeWhile_imp member
    · cases found
  · cases found

theorem inner_of_mem (member : .token inner ∈ pieces chars) :
    inner ≠ [] ∧ ∀ c ∈ inner, isBrace c = false := by
  fun_induction pieces chars with
  | case1 chars own after found ih =>
    rcases List.mem_cons.mp member with same | later
    · cases same
      exact token?_inner found
    · exact ih later
  | case2 => cases member
  | case3 c rest _ ih => exact ih (by simpa using member)

/-- A token ends with braces. -/
theorem brace_mem_of_token (member : .token inner ∈ pieces chars) : '}' ∈ chars := by
  rw [← pieces_source chars]
  exact List.mem_flatMap.mpr ⟨_, member, by simp [Piece.source]⟩

theorem shield_cons_of_ne {c : Char} (plain : c ≠ '\\') (rest : List Char) :
    shield (c :: rest) = c :: shield rest := by
  rw [shield] <;> exact fun _ same => absurd same plain

/-- Nothing is escaped in a text without braces; a backslash at its end escapes the braces behind
it. -/
theorem shield_braceless (braceless : ∀ c ∈ chars, isBrace c = false) :
    shield (chars ++ ['}', '}']) =
      if chars.getLast? = some '\\' then chars.dropLast ++ [closeMark] else chars ++ ['}', '}'] := by
  induction chars with
  | nil => rfl
  | cons c rest ih =>
    obtain ⟨own, others⟩ := List.forall_mem_cons.mp braceless
    cases rest with
    | nil =>
      by_cases back : c = '\\'
      · subst back
        rfl
      · rw [List.cons_append, shield_cons_of_ne back]
        simp [back, shield]
    | cons d more =>
      have visible : isBrace d = false := others d List.mem_cons_self
      have step : shield (c :: (d :: more ++ ['}', '}'])) = c :: shield (d :: more ++ ['}', '}']) := by
        rw [List.cons_append, shield]
        · rintro _ rfl same
          rw [(List.cons.inj same).1] at visible
          cases visible
        · rintro _ rfl same
          rw [(List.cons.inj same).1] at visible
          cases visible
      rw [List.cons_append, step, ih others]
      simp only [List.getLast?_cons_cons, List.dropLast_cons_cons]
      split <;> rfl

theorem shield_tokenOf {key : String} (braceless : ∀ c ∈ key.toList, isBrace c = false) :
    shield (tokenOf key) = ['{', '{'] ++
      if key.toList.getLast? = some '\\' then key.toList.dropLast ++ [closeMark]
      else key.toList ++ ['}', '}'] := by
  rw [← shield_braceless braceless]
  rfl

/-- A token around characters that are no braces is one piece. -/
theorem pieces_token (some_ : inner ≠ []) (braceless : ∀ c ∈ inner, isBrace c = false) :
    pieces (['{', '{'] ++ inner ++ ['}', '}']) = [.token inner] := by
  have inside : ∀ c ∈ inner, (!isBrace c) = true := fun c member => by simp [braceless c member]
  have closes : ∀ c, ['}', '}'].head? = some c → (!isBrace c) = false := by simp [isBrace]
  have span := Text.span_of_boundary (fun c => !isBrace c) inside closes
  have found : token? (['{', '{'] ++ inner ++ ['}', '}']) = some (inner, []) := by
    simp only [token?, List.cons_append, List.nil_append, span]
    simp [some_]
  rw [pieces]
  split
  · rename_i own after same
    cases found.symm.trans same
    rw [pieces]
    rfl
  · rename_i none_
    rw [found] at none_
    cases none_

section Steps
variable {step other : Supply → Piece → Except Abort Outcome}

theorem joinAll_congr {row : List Piece}
    (same : ∀ supply, ∀ piece ∈ row, step supply piece = other supply piece) (supply : Supply) :
    joinAll step supply row = joinAll other supply row := by
  induction row generalizing supply with
  | nil => rfl
  | cons piece rest ih =>
    rw [joinAll, joinAll, same supply piece List.mem_cons_self]
    simp only [ih fun supply piece member => same supply piece (List.mem_cons_of_mem _ member)]

end Steps

/-- True of a text with a token that has a variable of this name looked up. -/
def LooksUp (key : String) (text : List Char) : Prop :=
  ∃ inner, .token inner ∈ pieces (shield text) ∧ nameOf inner = key ∧
    Text.trimChars inner ≠ [] ∧ (Text.trimChars inner).head? ≠ some '$'

/-- Sources without a value for any name but one are as good as each other for a text that does not
look that name up. -/
theorem run_congr {first second : Source} {key text : String}
    (one : ∀ name, name ≠ key → first name = none) (two : ∀ name, name ≠ key → second name = none)
    (unasked : ¬LooksUp key text.toList) (depth : Nat) (supply : Supply) :
    run first depth supply text = run second depth supply text := by
  have same (visiting : List String)
      (deeper deeper' : Option (Supply → List String → List Char → Except Abort Outcome))
      (supply : Supply) (piece : Piece) (member : piece ∈ pieces (shield text.toList)) :
      expandPiece first depth visiting deeper supply piece
        = expandPiece second depth visiting deeper' supply piece := by
    cases piece with
    | plain c => rfl
    | token inner =>
      by_cases named : nameOf inner = key
      · by_cases visible : Text.trimChars inner = []
        · simp [expandPiece, visible]
        · have generated : (Text.trimChars inner).head? = some '$' :=
            Decidable.by_contra fun ordinary => unasked ⟨inner, member, named, visible, ordinary⟩
          simp [expandPiece, generated]
      · have absent := (one _ named).trans (two _ named).symm
        have none_ := two _ named
        simp only [nameOf] at absent none_
        simp [expandPiece, absent, none_]
  unfold run
  split
  · cases depth with
    | zero => rw [expand, expand, joinAll_congr (same [] none none)]
    | succ levels => rw [expand, expand, joinAll_congr (same [] _ _)]
  · rfl

end Substitution

namespace Key
open Substitution

/-- A key whose token names it: nothing in it ends or escapes the token, nothing of it is trimmed, and
it stands for no generated value. -/
structure Referable (key : String) : Prop where
  braceless : ∀ c ∈ key.toList, isBrace c = false
  trimmed : Text.trimChars key.toList = key.toList
  ordinary : key.toList.head? ≠ some '$'
  unescaped : key.toList.getLast? ≠ some '\\'

theorem ne_nil_of_check {key : String} (valid : check key = .ok ()) : key.toList ≠ [] := by
  intro nothing
  rw [check, Text.isBlankText, nothing] at valid
  cases valid

/-- A key that its own token looks up is referable. -/
theorem referable_of_looksUp {key : String} (asked : LooksUp key (tokenOf key)) : Referable key := by
  obtain ⟨inner, member, rfl, -, ordinary⟩ := asked
  have chars : (nameOf inner).toList = Text.trimChars inner := String.toList_ofList
  have kept : ∀ c ∈ (nameOf inner).toList, c ∈ inner := by
    intro c inside
    rw [chars] at inside
    exact Text.mem_of_mem_trimChars inside
  have braceless : ∀ c ∈ (nameOf inner).toList, isBrace c = false := fun c inside =>
    (inner_of_mem member).2 c (kept c inside)
  refine ⟨braceless, ?_, by rwa [chars], fun escaped => ?_⟩
  · rw [chars, Text.trimChars_trimChars]
  · have closes := brace_mem_of_token member
    rw [shield_tokenOf braceless, if_pos escaped] at closes
    have inside : '}' ∈ (nameOf inner).toList.dropLast := by simpa [closeMark] using closes
    have ends := braceless '}' (List.dropLast_sublist _ |>.subset inside)
    cases ends

end Key

namespace Substitution

/-- The token of a referable key is replaced by a value that does not refer further. -/
theorem run_tokenOf {source : Source} {key value : String} (some_ : key.toList ≠ [])
    (referable : Key.Referable key) (defined : source key = some value)
    (flat : mayRefer value.toList = false)
    (unmarked : ∀ c ∈ value.toList, c ≠ openMark ∧ c ≠ closeMark) (depth : Nat) (supply : Supply) :
    run source depth supply (String.ofList (tokenOf key)) = .ok ⟨value.toList, [], supply⟩ := by
  obtain ⟨braceless, trimmed, ordinary, unescaped⟩ := referable
  have row : pieces (shield (tokenOf key)) = [.token key.toList] := by
    rw [shield_tokenOf braceless, if_neg unescaped]
    exact pieces_token some_ braceless
  have replaced (deeper : Option (Supply → List String → List Char → Except Abort Outcome)) :
      expandPiece source depth [] deeper supply (.token key.toList)
        = .ok ⟨value.toList, [], supply⟩ := by
    simp [expandPiece, trimmed, some_, ordinary, defined, flat]
  have refers : mayRefer (tokenOf key) = true := rfl
  rw [run, String.toList_ofList, if_pos refers]
  cases depth <;>
    simp [expand, row, joinAll, replaced, bind, Except.bind, pure, Except.pure, unshield_eq unmarked]

end Substitution

namespace Store
open Substitution

/-- Whatever value without tokens is stored under the key, in any scope of an otherwise empty store,
the token of the key is replaced by it. -/
def Refers (key : String) : Prop :=
  ∀ (limit depth : Nat) (now : Instant) (value : String) (kind : Option Kind) (scope : Scope)
    (source : ChangeSource) (supply : Supply),
    mayRefer value.toList = false → (∀ c ∈ value.toList, c ≠ openMark ∧ c ≠ closeMark) →
      ∃ stored, (Store.empty limit depth now).write key value kind scope source = .ok (none, stored) ∧
        stored.substitute supply (String.ofList (tokenOf key)) = .ok ⟨value.toList, [], supply⟩

theorem enabled?_put_empty (limit depth : Nat) (now : Instant) {variable_ : Variable}
    (on : variable_.enabled = true) (source : ChangeSource) (name : String) (scope : Scope) :
    ((Store.empty limit depth now).put variable_ source).enabled? name scope =
      if name = variable_.key ∧ scope = variable_.scope then some variable_ else none := by
  obtain ⟨key, value, kind, own, enabled, description⟩ := variable_
  obtain rfl : enabled = true := on
  by_cases here : scope = own
  · subst here
    by_cases same : name = key
    · subst same
      cases scope <;>
        simp [enabled?, raw?, table, put, empty, PerScope.all, PerScope.get, PerScope.set,
          Table.insert, Table.find?]
    · have apart : (name == key) = false := beq_eq_false_iff_ne.mpr same
      cases scope <;>
        simp [enabled?, raw?, table, put, empty, PerScope.all, PerScope.get, PerScope.set,
          Table.insert, Table.find?, List.lookup_cons, same, apart]
  · have other := PerScope.get_set_of_ne (Store.empty limit depth now).scopes
      (((Store.empty limit depth now).table own).insert key ⟨key, value, kind, own, true, description⟩)
      here
    have nothing : (Store.empty limit depth now).scopes.get scope = [] := PerScope.get_all [] scope
    rw [nothing] at other
    have absent : ((Store.empty limit depth now).put ⟨key, value, kind, own, true, description⟩
        source).raw? name scope = none := congrArg (Table.find? · name) other
    rw [enabled?, absent, if_neg fun both => here both.2]
    rfl

/-- A store with one variable has a value for no other name. -/
theorem get?_put_empty (limit depth : Nat) (now : Instant) {variable_ : Variable}
    (on : variable_.enabled = true) (source : ChangeSource) (name : String) :
    ((Store.empty limit depth now).put variable_ source).get? name none =
      if name = variable_.key then some variable_.value else none := by
  have looked : ((Store.empty limit depth now).put variable_ source).enabled? name
      = fun scope => if name = variable_.key ∧ scope = variable_.scope then some variable_ else none :=
    funext (enabled?_put_empty limit depth now on source name)
  rw [get?, find?, looked]
  by_cases same : name = variable_.key
  · cases own : variable_.scope <;> simp [same, Scope.precedence]
  · simp [same, Scope.precedence]

theorem write_empty {key : String} (valid : Key.check key = .ok ()) (limit depth : Nat)
    (now : Instant) (value : String) (kind : Option Kind) (scope : Scope) (source : ChangeSource) :
    (Store.empty limit depth now).write key value kind scope source =
      .ok (none, (Store.empty limit depth now).put (written none key value kind scope) source) := by
  have absent : (Store.empty limit depth now).raw? key scope = none := by
    cases scope <;> rfl
  rw [write, valid, absent]
  rfl

/-- The token of a referable key is replaced by the value of its variable. -/
theorem refers_of_referable {key : String} (valid : Key.check key = .ok ())
    (referable : Key.Referable key) : Refers key := by
  intro limit depth now value kind scope source supply flat unmarked
  refine ⟨_, write_empty valid limit depth now value kind scope source, ?_⟩
  refine run_tokenOf (Key.ne_nil_of_check valid) referable ?_ flat unmarked _ supply
  rw [get?_put_empty limit depth now rfl source key]
  exact if_pos rfl

/-- Tokens find just the referable ones among the keys under which a variable can be stored. -/
theorem refers_iff_referable {key : String} (valid : Key.check key = .ok ()) :
    Refers key ↔ Key.Referable key := by
  refine ⟨fun refers => ?_, refers_of_referable valid⟩
  -- Two values would have to come out of one and the same run, as nothing asks for the key.
  by_contra unnamed
  have unasked : ¬LooksUp key (String.ofList (tokenOf key)).toList := by
    rw [String.toList_ofList]
    exact fun asked => unnamed (Key.referable_of_looksUp asked)
  have supply : Supply := ⟨⟨0⟩, 0⟩
  obtain ⟨first, stored, one⟩ := refers 1 1 ⟨0⟩ "0" none .global .manual supply rfl
    (by simp [openMark, closeMark])
  obtain ⟨second, stored', two⟩ := refers 1 1 ⟨0⟩ "1" none .global .manual supply rfl
    (by simp [openMark, closeMark])
  rw [write_empty valid] at stored stored'
  cases stored
  cases stored'
  have alone (value name : String) (other : name ≠ key) :
      ((Store.empty 1 1 ⟨0⟩).put (written none key value none .global) .manual).get? name none
        = none := by
    exact (get?_put_empty 1 1 ⟨0⟩ rfl .manual name).trans (if_neg other)
  have same := run_congr (alone "0") (alone "1") unasked 1 supply
  have apart := (one.symm.trans same).trans two
  cases apart

/-- Inner blanks, single backslashes and the like do not matter. -/
theorem refers_inner_backslash : Key.check "a\\b c" = .ok () ∧ Refers "a\\b c" := by
  have valid : Key.check "a\\b c" = .ok () := by decide
  have referable : Key.Referable "a\\b c" := by
    refine ⟨by simp [isBrace], by decide, by decide, by decide⟩
  exact ⟨valid, (refers_iff_referable valid).mpr referable⟩

/-- A key with a blank in front of it can be stored, and its token finds nothing. -/
theorem padded_key_unnamed : Key.check " a" = .ok () ∧ ¬Refers " a" := by
  have valid : Key.check " a" = .ok () := by decide
  refine ⟨valid, fun refers => ?_⟩
  obtain ⟨stored, written, found⟩ :=
    refers 1 1 ⟨0⟩ "1" none .global .manual ⟨⟨0⟩, 0⟩ rfl (by simp [openMark, closeMark])
  rw [write_empty valid] at written
  cases written
  have result : (((Store.empty 1 1 ⟨0⟩).put (Store.written none " a" "1" none .global) .manual).substitute
      ⟨⟨0⟩, 0⟩ (String.ofList (tokenOf " a"))).toOption.map Outcome.text = some (tokenOf " a") := by
    decide +kernel
  rw [found] at result
  cases result

end Store
end ApiProbe
