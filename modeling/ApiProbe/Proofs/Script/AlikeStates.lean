import ApiProbe.Proofs.Script.AlikeOutput

/-!
States of the lowering whose outputs are written alike, with the same brackets open. Each operation on
states keeps this, as long as what it writes can stand behind the last piece.
-/
namespace ApiProbe.Script.Lowering
variable {strict : Prop} {top top' : String → Prop}

/-- Pieces that are no comment up to the end of its line. -/
def Fresh (piece : String) : Prop := isLineMark piece.toList = false

/-- Pieces behind which anything can stand. -/
def Firm (piece : String) : Prop := Fresh piece ∧ piece ≠ "/"

section Pieces
variable {piece text : String}

theorem Firm.precedes (firm : Firm piece) (text : String) : Precedes strict piece text :=
  ⟨fun mark => absurd mark (Bool.eq_false_iff.mp firm.1), fun _ slash => absurd slash firm.2⟩

theorem Fresh.precedes (fresh : Fresh piece) (starts : startsApart text = true) :
    Precedes strict piece text :=
  ⟨fun mark => absurd mark (Bool.eq_false_iff.mp fresh), fun _ _ => starts⟩

theorem precedes_lineEnd (piece : String) : Precedes strict piece "\n" :=
  ⟨fun _ => rfl, fun _ _ => by decide⟩

theorem firm_of_head {text : String} (apart : ∀ c ∈ text.toList.head?, c ≠ '/') : Firm text := by
  constructor
  · unfold Fresh isLineMark
    cases chars : text.toList with
    | nil => rfl
    | cons c rest =>
      have other : c ≠ '/' := apart c (by rw [chars]; rfl)
      simp [List.isPrefixOf, Ne.symm other]
  · rintro rfl
    exact apart '/' rfl rfl

theorem firm_of_startsApart (starts : startsApart text = true) : Firm text :=
  firm_of_head fun c first => (head?_of_startsApart starts c first).1

end Pieces

/-- An output whose pieces can stand together, also with something more behind the last one that has a
meaning. `top` holds of the last piece. -/
structure Sturdy (strict : Prop) (top : String → Prop) (output : Output) : Prop where
  chained : Chained strict output.pieces
  tops : ∀ piece ∈ output.pieces.head?, top piece
  ends : ∀ piece ∈ output.done.head?, Fresh piece

namespace Sturdy
variable {output : Output} {text : String}

theorem mono (sturdy : Sturdy strict top output) (more : ∀ piece, top piece → top' piece) :
    Sturdy strict top' output :=
  ⟨sturdy.chained, fun piece first => more piece (sturdy.tops piece first), sturdy.ends⟩

theorem emit (sturdy : Sturdy strict top output)
    (takes : ∀ piece, top piece → Precedes strict piece text) (fresh : Fresh text)
    (is : top' text) : Sturdy strict top' (output.emit text) where
  chained := chained_cons.mpr
    ⟨fun piece first => takes piece (sturdy.tops piece first), sturdy.chained⟩
  tops := by
    rintro _ ⟨⟩
    exact is
  ends := by
    rintro _ ⟨⟩
    exact fresh

theorem pad (sturdy : Sturdy strict top output)
    (takes : ∀ piece, top piece → Precedes strict piece text) (is : top' text) :
    Sturdy strict top' (output.pad text) where
  chained := chained_cons.mpr
    ⟨fun piece first => takes piece (sturdy.tops piece first), sturdy.chained⟩
  tops := by
    rintro _ ⟨⟩
    exact is
  ends := sturdy.ends

/-- Behind the last piece that has a meaning there is room for a mark. -/
theorem attach (sturdy : Sturdy strict top output) (starts : startsApart text = true)
    (is : top text) : Sturdy strict top (output.attach text) where
  chained := by
    obtain ⟨loose, done, -⟩ := List.isChain_append.mp sturdy.chained
    have own : Chained strict (text :: output.done) := chained_cons.mpr
      ⟨fun piece first => (sturdy.ends piece first).precedes starts, done⟩
    refine List.isChain_append.mpr ⟨loose, own, ?_⟩
    rintro piece - _ ⟨⟩
    exact (firm_of_startsApart starts).precedes piece
  tops := by
    intro piece first
    cases gap : output.loose with
    | nil =>
      rw [Output.pieces, Output.attach, gap] at first
      cases first
      exact is
    | cons last rest =>
      refine sturdy.tops piece ?_
      rw [Output.pieces, gap]
      rwa [Output.pieces, Output.attach, gap] at first
  ends := by
    rintro _ ⟨⟩
    exact (firm_of_startsApart starts).1

end Sturdy

/-- What may close a frame. Nothing is written for the parenthesis of a loop. -/
def closings : FrameKind → List String
  | .block | .object | .map => ["\x7d"]
  | .closure => ["\x7d", "\x7d)"]
  | .function => ["\x7d;"]
  | .paren => [")", "", ").keys()"]
  | .bracket => ["]"]
  | .command => [")"]

theorem plain_closing (kind : FrameKind) : ∀ close ∈ closings kind,
    isPlain close = true ∧ (startsApart close = true ∨ close = "" ∧ kind = .paren) := by
  cases kind <;> decide

/-- States with the same brackets open, and outputs written alike. `top` holds of the last pieces. -/
structure SameState (strict : Prop) (top : String → Prop) (state state' : State) : Prop where
  done : Written strict state.output.done state'.output.done
  loose : Written strict state.output.loose state'.output.loose
  sturdy : Sturdy strict top state.output
  sturdy' : Sturdy strict top state'.output
  frames : state.frames = state'.frames
  callables : state.callables = state'.callables
  lastClosed : state.lastClosed = state'.lastClosed
  closings : ∀ frame ∈ state.frames, frame.close ∈ closings frame.kind

namespace SameState
variable {state state' : State} {text text' : String}

theorem written (same : SameState strict top state state') :
    Written strict state.output.pieces state'.output.pieces :=
  same.loose.append same.done

theorem mono (same : SameState strict top state state') (more : ∀ piece, top piece → top' piece) :
    SameState strict top' state state' :=
  { same with sturdy := same.sturdy.mono more, sturdy' := same.sturdy'.mono more }

theorem fresh (same : SameState strict Firm state state') : SameState strict Fresh state state' :=
  same.mono fun _ firm => firm.1

theorem emit (same : SameState strict Fresh state state') (twins : Twins strict text text') :
    SameState strict Firm (state.emit text) (state'.emit text') :=
  have firm := firm_of_startsApart twins.starts.1
  have firm' := firm_of_startsApart twins.starts.2
  { same with
    done := .text twins same.written
    loose := .nil
    sturdy := same.sturdy.emit (fun _ fresh => fresh.precedes twins.starts.1) firm.1 firm
    sturdy' := same.sturdy'.emit (fun _ fresh => fresh.precedes twins.starts.2) firm'.1 firm' }

theorem emit_plain (same : SameState strict Fresh state state') (plain : isPlain text = true)
    (starts : startsApart text = true) :
    SameState strict Firm (state.emit text) (state'.emit text) :=
  same.emit (.of_isPlain plain starts)

theorem emit_shared (same : SameState strict top state state') (own : IsShared text)
    (takes : ∀ piece, top piece → Precedes strict piece text) (fresh : Fresh text)
    (is : top' text) : SameState strict top' (state.emit text) (state'.emit text) :=
  { same with
    done := .shared own same.written
    loose := .nil
    sturdy := same.sturdy.emit takes fresh is
    sturdy' := same.sturdy'.emit takes fresh is }

theorem pad (same : SameState strict top state state') (own : IsShared text)
    (takes : ∀ piece, top piece → Precedes strict piece text) (is : top' text) :
    SameState strict top' (state.pad text) (state'.pad text) :=
  { same with
    loose := .shared own same.loose
    sturdy := same.sturdy.pad takes is
    sturdy' := same.sturdy'.pad takes is }

theorem lineEnd (same : SameState strict top state state') (is : top' "\n") :
    SameState strict top' (state.pad "\n") (state'.pad "\n") :=
  same.pad (.inl (by decide)) (fun piece _ => precedes_lineEnd piece) is

theorem push (same : SameState strict top state state') {kind : FrameKind} {close : String}
    (closes : close ∈ Lowering.closings kind) (line : Nat) :
    SameState strict top (state.push kind close line) (state'.push kind close line) :=
  { same with
    frames := by rw [State.push, State.push, same.frames]
    closings := List.forall_mem_cons.mpr ⟨closes, same.closings⟩ }

theorem addCallable (same : SameState strict top state state') (name : Option String) :
    SameState strict top (state.addCallable name) (state'.addCallable name) := by
  cases name with
  | none => exact same
  | some name => exact { same with callables := congrArg (name :: ·) same.callables }

/-- A mark behind the last piece that has a meaning. -/
theorem attach (same : SameState strict top state state') (text : String)
    (plain : isPlain text = true) (starts : startsApart text = true) (is : top text) :
    SameState strict top { state with output := state.output.attach text }
      { state' with output := state'.output.attach text } :=
  { same with
    done := .text (.of_isPlain plain starts) same.done
    sturdy := same.sturdy.attach starts is
    sturdy' := same.sturdy'.attach starts is }

theorem closeCommands (same : SameState strict top state state') (is : top ")") :
    SameState strict top state.closeCommands state'.closeCommands := by
  obtain ⟨output, frames, callables, lastClosed⟩ := state
  obtain ⟨output', _, _, _⟩ := state'
  obtain rfl := same.frames
  obtain rfl := same.callables
  obtain rfl := same.lastClosed
  unfold State.closeCommands
  simp only
  induction frames generalizing output output' with
  | nil => exact same
  | cons frame rest ih =>
    obtain ⟨own, others⟩ := List.forall_mem_cons.mp same.closings
    rw [State.closeCommandsIn, State.closeCommandsIn]
    split
    · rename_i command
      rw [beq_iff_eq.mp command] at own
      have close : frame.close = ")" := List.mem_singleton.mp own
      rw [close]
      exact ih _ _ { same.attach ")" (by decide) (by decide) is with
        frames := rfl, closings := others }
    · exact same

/-- The line ends of the tokens left out are the same. -/
theorem skip (same : SameState strict top state state') {passed passed' : List Token}
    (alike : Alike passed passed') (is : top "\n") :
    SameState strict top (skip state passed) (skip state' passed') := by
  have pads (state : State) (n : Nat) :
      (List.range n).foldl (fun state _ => state.pad "\n") state = (State.pad · "\n")^[n] state := by
    induction n with
    | zero => rfl
    | succ n ih => rw [List.range_succ, List.foldl_append, ih, Function.iterate_succ_apply']; rfl
  have skips (state : State) (tokens : List Token) :
      Lowering.skip state tokens = (State.pad · "\n")^[skippedBreaks tokens] state := by
    induction tokens generalizing state with
    | nil => rfl
    | cons token rest ih =>
      rw [Lowering.skip, List.foldl_cons, pads]
      refine (ih _).trans ?_
      rw [← Function.iterate_add_apply, ← List.singleton_append, skippedBreaks_append, Nat.add_comm]
      rfl
  rw [skips, skips, alike.skippedBreaks]
  generalize skippedBreaks passed' = n
  induction n with
  | zero => exact same
  | succ n ih =>
    rw [Function.iterate_succ_apply', Function.iterate_succ_apply']
    exact ih.lineEnd is

/-- A call that is reopened for one more argument. -/
theorem reopen (same : SameState strict top state state') {before before' : List String}
    (is : beforeClosing? state.output.pieces = some before)
    (is' : beforeClosing? state'.output.pieces = some before')
    (written : Written strict before before') :
    SameState strict Fresh { state with output := ⟨before, []⟩ }
      { state' with output := ⟨before', []⟩ } := by
  have sturdy {pieces before : List String} (chained : Chained strict pieces)
      (is : beforeClosing? pieces = some before) : Sturdy strict Fresh ⟨before, []⟩ := by
    obtain ⟨takes, own⟩ := chained.beforeClosing? is
    have tops : ∀ piece ∈ before.head?, Fresh piece := by
      refine fun piece first => Bool.eq_false_iff.mpr fun mark => ?_
      exact absurd ((takes piece first).line mark) (by decide)
    exact ⟨own, tops, tops⟩
  exact { same with
    done := written
    loose := .nil
    sturdy := sturdy same.sturdy.chained is
    sturdy' := sturdy same.sturdy'.chained is' }

end SameState

end ApiProbe.Script.Lowering
