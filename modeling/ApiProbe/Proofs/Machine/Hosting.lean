import ApiProbe.Machine.Callback
import ApiProbe.Machine.Probe
import ApiProbe.Proofs.Machine.Keeping

/-!
What a script finds around itself keeps the invariants. Values that are set and removed go by the
world; an extracted value is kept only after the world was asked.
-/
namespace ApiProbe.Machine

variable {σ α β : Type} {setup : Setup σ} {holds : State σ → Prop}

namespace Run

/-- Functions that may not be there, but keep an invariant if they are. -/
def Offers (holds : State σ → Prop) (offer : Option (Run σ α)) : Prop :=
  ∀ run ∈ offer, run.Keeps holds

namespace Offers

theorem none : Offers holds (Option.none : Option (Run σ α)) := fun _ member => by cases member

theorem some {run : Run σ α} (kept : run.Keeps holds) : Offers holds (Option.some run) := by
  intro other member
  cases member
  exact kept

theorem or {first second : Option (Run σ α)} (one : Offers holds first)
    (two : Offers holds second) : Offers holds (first.or second) := by
  cases first with
  | none => exact two
  | some run => exact one

theorem map {γ : Type} (offer : Option γ) {f : γ → Run σ α} (kept : ∀ item, (f item).Keeps holds) :
    Offers holds (offer.map f) := by
  cases offer with
  | none => exact .none
  | some item => exact .some (kept item)

end Offers
end Run

namespace Probe
open Run

theorem response_keeps (setup : Setup σ) : Keeps holds (response setup) := by
  unfold response
  split
  · exact .pure _
  · exact fail_keeps _

theorem write_keeps (invariant : Invariant setup holds) (key : String) (value : Value)
    (scope : Scope) : Keeps holds (write setup key value scope) := by
  refine .inspect fun state valid => ?_
  split
  · rename_i written
    exact invariant.write state _ _ _ _ valid written
  · exact fail_keeps _ state valid

theorem erase_keeps (invariant : Invariant setup holds) (key : String) (scope : Scope) :
    Keeps holds (erase setup key scope) := by
  refine .inspect fun state valid => ?_
  split
  · rename_i erased
    exact invariant.erase state _ _ _ _ valid erased
  · exact fail_keeps _ state valid

theorem keep_leaves (invariant : Invariant setup holds) (name : String) (document : Json)
    {scope : Scope} {state : State σ} (opened : setup.world.canWrite state.vars scope = true)
    (valid : holds state) : holds ((keep setup name document scope).left state) := by
  have begun (rest : State σ → Run σ Unit) : left (get >>= rest) state = left (rest state) state :=
    rfl
  unfold keep
  rw [begun]
  split
  · rename_i written
    exact invariant.keep state _ _ _ _ valid opened written
  · exact fail_keeps _ state valid

theorem parse_keeps (complaint text : String) : Keeps holds (parse complaint text : Run σ Json) := by
  unfold parse
  split
  · exact .pure _
  · exact fail_keeps _

theorem extracted_keeps (outcome : Except Extraction.Trouble α) :
    Keeps holds (extracted outcome : Run σ α) := by
  unfold extracted
  split
  · exact .pure _
  · exact fail_keeps _
  · exact .throw _

theorem jsonPath_keeps (target : Value) (path : String) :
    Keeps holds (jsonPath target path : Run σ Value) := by
  unfold jsonPath
  split
  · exact (parse_keeps _ _).bind fun _ => (extracted_keeps _).bind fun _ => .pure _
  · exact .bind (.pure _) fun _ => (extracted_keeps _).bind fun _ => .pure _

/-- The value is written only after the check, or not at all for lack of a name. -/
theorem extractJson_keeps (invariant : Invariant setup holds) (path : String)
    (name : Option String) : Keeps holds (extractJson setup path name) := by
  refine (response_keeps setup).bind fun response => ?_
  cases name with
  | none =>
    refine Keeps.get.bind fun state => ?_
    simp only [Option.isSome_none, Bool.false_and, Bool.false_eq_true, ↓reduceIte]
    split
    · exact .pure _
    · refine (extracted_keeps _).bind fun found => ?_
      cases found <;> exact .pure _
  | some name =>
    refine .inspect fun state valid => ?_
    simp only [Option.isSome_some, Bool.true_and]
    cases opened : setup.world.canWrite state.vars setup.world.extractionScope with
    | false =>
      simp only [Bool.not_false, ↓reduceIte]
      exact fail_keeps _ state valid
    | true =>
      simp only [Bool.not_true, Bool.false_eq_true, ↓reduceIte]
      -- an extraction leaves the state alone, so what was checked still holds at the write
      rcases Extraction.fromJson response.body path with (error | _) | _ | document
      · cases error <;> exact valid
      · exact valid
      · exact valid
      · change holds ((keep setup name document _ >>= fun _ => Pure.pure _).left state)
        rw [left_bind_pure]
        exact keep_leaves invariant name document opened valid

theorem check_keeps (e : Expectation Value) (kind : Check) :
    Keeps holds (check e kind : Run σ Value) :=
  (ofExcept_keeps _).bind fun _ => .pure _

theorem property?_keeps (name : String) (object : Object Value) :
    Offers holds (property? setup name object) := by
  have ofResponse (read : Http.Response → Value) :
      Offers holds (some do Pure.pure (read (← response setup))) :=
    .some ((response_keeps setup).bind fun _ => .pure _)
  unfold property?
  cases object with
  | probe | request =>
    simp only
    split <;> first | exact .some (.pure _) | exact ofResponse _ | exact .none
  | response =>
    simp only
    split <;> first | exact ofResponse _ | exact .none
  | expectation e =>
    simp only
    split_ifs
    · exact .some (.pure _)
    · exact .some (.pure _)
    · exact .some (.pure _)
    · exact .map _ (check_keeps e)
  | vars | console | json => exact .none

theorem console?_keeps (invariant : Invariant setup holds) (level : String) (args : List Value) :
    Offers holds (console? setup level args) := by
  unfold console?
  split
  · exact .map _ fun _ => (print_keeps invariant _).bind fun _ => .pure _
  · exact .none

theorem json?_keeps (name : String) (args : List Value) :
    Offers holds (json? name args : Option (Run σ Value)) := by
  unfold json?
  split
  · exact .some ((parse_keeps _ _).bind fun _ => .pure _)
  · exact .some (.pure _)
  · exact .some (.pure _)
  · exact .none

theorem variableCall?_keeps (invariant : Invariant setup holds) (reads : Option Scope)
    (writes : Scope) (name : String) (args : List Value) :
    Offers holds (variableCall? setup reads writes name args) := by
  unfold variableCall?
  simp only
  split
  · exact .some (.bind (.bind .get fun _ => .pure _) fun _ => .pure _)
  · exact .some (.bind (.bind .get fun _ => .pure _) fun _ => .pure _)
  · exact .some (write_keeps invariant _ _ _)
  · exact .some (erase_keeps invariant _ _)
  · exact .none

theorem function?_keeps (invariant : Invariant setup holds) (name : String) (args : List Value) :
    Offers holds (function? setup name args) := by
  unfold function?
  split
  · exact .some (.pure _)
  · exact .some (.pure _)
  · exact .some (jsonPath_keeps _ _)
  · exact .some (extractJson_keeps invariant _ _)
  · exact .some (extractJson_keeps invariant _ _)
  · exact .none

theorem print?_keeps (invariant : Invariant setup holds) (name : String) (args : List Value) :
    Offers holds (print? setup name args) := by
  unfold print?
  simp only
  split <;> first
    | exact .some ((print_keeps invariant _).bind fun _ => .pure _)
    | exact .none

theorem method?_keeps (invariant : Invariant setup holds) (name : String) (object : Object Value)
    (args : List Value) : Offers holds (method? setup name object args) := by
  unfold method?
  cases object with
  | probe => exact function?_keeps invariant name args
  | request =>
    simp only
    split <;> first | exact .some (.pure _) | exact .none
  | response =>
    simp only
    split
    · exact .some ((response_keeps setup).bind fun _ => .pure _)
    · exact .some ((response_keeps setup).bind fun _ => (parse_keeps _ _).bind fun _ => .pure _)
    · exact .some ((response_keeps setup).bind fun _ => .pure _)
    · exact .none
  | vars reads writes => exact variableCall?_keeps invariant reads writes name args
  | console => exact console?_keeps invariant name args
  | json => exact json?_keeps name args
  | expectation e => exact .map _ (check_keeps e)

theorem call?_keeps (invariant : Invariant setup holds) (name : String) (args : List Value) :
    Offers holds (call? setup name args) := by
  have asFunction := function?_keeps invariant name args
  have asPrint := print?_keeps invariant name args
  unfold call?
  simp only
  split
  · exact .or (.or (method?_keeps invariant name _ _) asFunction) asPrint
  · exact .or (.or .none asFunction) asPrint

end Probe

namespace Callback
open Run

/-- A closure whose calls keep an invariant. -/
def Keeps (holds : State σ → Prop) (f : Callback σ) : Prop :=
  ∀ self args, (f.call self args).Keeps holds

variable {f : Callback σ} (kept : f.Keeps holds)
include kept

omit kept in
private theorem give_keeps {run : Run σ Value} (inside : run.Keeps holds) :
    Offers holds (some do Pure.pure (Reply.just (← run))) :=
  .some (inside.bind fun _ => .pure _)

theorem on_keeps (item : Value) : (f.on item).Keeps holds := kept none [item]

theorem withPlace_keeps (item : Value × Nat) : (f.withPlace item).Keeps holds := by
  unfold withPlace
  split <;> exact kept _ _

theorem withKey_keeps (member : String × Value) : (f.withKey member).Keeps holds := by
  unfold withKey
  split <;> exact kept _ _

theorem isTruthyOn_keeps (item : Value) : (f.isTruthyOn item).Keeps holds :=
  (on_keeps kept item).bind fun _ => .pure _

theorem isTrueOn_keeps (item : Value × Nat) : (f.isTrueOn item).Keeps holds := by
  refine (withPlace_keeps kept item).bind fun value => ?_
  split <;> exact .pure _

theorem verdict_keeps (a b : Value) : (f.verdict a b).Keeps holds := by
  refine (kept none [a, b]).relabel fun state => ?_
  unfold left verdict
  cases f.call none [a, b] state with
  | ok value after => rfl
  | error signal after => cases signal <;> rfl

theorem isAhead_keeps (a b : Value) : (f.isAhead a b).Keeps holds := by
  refine (verdict_keeps kept a b).bind fun value => ?_
  split <;> exact .pure _

theorem insert_keeps (item : Value) (list : List Value) : (f.insert item list).Keeps holds := by
  induction list with
  | nil => exact .pure _
  | cons other rest ih =>
    refine (isAhead_keeps kept item other).bind fun ahead => ?_
    cases ahead
    · exact .pure _
    · exact ih.bind fun _ => .pure _

theorem sort_keeps (items done : List Value) : (f.sort done items).Keeps holds := by
  induction items generalizing done with
  | nil => exact .pure _
  | cons item rest ih => exact (insert_keeps kept item done).bind ih

theorem combine_keeps (value item : Value) (place : Nat) :
    (f.combine value item place).Keeps holds := by
  unfold combine
  split <;> exact kept _ _

theorem reduce_keeps (value : Value) (items : List (Value × Nat)) :
    (f.reduce value items).Keeps holds := by
  unfold reduce
  exact .foldlM (fun value item => combine_keeps kept value item.1 item.2) items value

theorem dedup_keeps (last : Value) (items : List Value) : (f.dedup last items).Keeps holds := by
  induction items generalizing last with
  | nil => exact .pure _
  | cons item rest ih =>
    refine (verdict_keeps kept last item).bind fun equal => ?_
    split
    · exact ih last
    · exact (ih item).bind fun _ => .pure _

theorem partition_keeps (items : List (Value × Nat)) : (f.partition items).Keeps holds := by
  induction items with
  | nil => exact .pure _
  | cons item rest ih => exact (isTrueOn_keeps kept item).bind fun _ => ih.bind fun _ => .pure _

theorem firstResult_keeps (items : List (Value × Nat)) : (f.firstResult items).Keeps holds := by
  induction items with
  | nil => exact .pure _
  | cons item rest ih =>
    refine (withPlace_keeps kept item).bind fun value => ?_
    split
    · exact ih
    · exact .pure _

theorem list?_keeps (name : String) (items : List Value) : Offers holds (list? name items f) := by
  have onItems := on_keeps kept
  have onPlaces := withPlace_keeps kept
  have truthy := isTruthyOn_keeps kept
  have holding := isTrueOn_keeps kept
  unfold list?
  simp only
  split
  -- "each" to "every": items alone
  · exact give_keeps ((Keeps.forM (fun item => (onItems item).map _) items).bind fun _ => .pure _)
  · exact give_keeps ((Keeps.forM (fun item => (onItems item).map _) items).bind fun _ => .pure _)
  · exact give_keeps ((Keeps.mapM onItems items).bind fun _ => .pure _)
  · exact give_keeps ((Keeps.findM? truthy items).bind fun _ => .pure _)
  · exact give_keeps ((Keeps.filterM truthy items).bind fun _ => .pure _)
  · exact give_keeps ((Keeps.anyM truthy items).bind fun _ => .pure _)
  · exact give_keeps ((Keeps.allM truthy items).bind fun _ => .pure _)
  -- "map" to "for_each": items with their places
  · exact give_keeps ((Keeps.mapM onPlaces _).bind fun _ => .pure _)
  · exact give_keeps ((partition_keeps kept _).bind fun _ => .pure _)
  · exact give_keeps ((Keeps.anyM holding _).bind fun _ => .pure _)
  · exact give_keeps ((Keeps.allM holding _).bind fun _ => .pure _)
  · exact give_keeps (firstResult_keeps kept _)
  · exact give_keeps ((Keeps.findM? holding _).bind fun _ => .pure _)
  · exact give_keeps ((Keeps.forM (fun item => (onPlaces item).map _) _).bind fun _ => .pure _)
  · exact give_keeps (reduce_keeps kept _ _)
  · exact give_keeps (reduce_keeps kept _ _)
  -- functions that change the list
  · refine .some ?_
    split
    · exact (dedup_keeps kept _ _).bind fun _ => .pure _
    · exact .pure _
  · exact .some ((partition_keeps kept _).bind fun _ => .pure _)
  · exact .some ((partition_keeps kept _).bind fun _ => .pure _)
  · exact .some ((sort_keeps kept _ _).bind fun _ => .pure _)
  · exact .some ((sort_keeps kept _ _).bind fun _ => .pure _)
  · exact give_keeps ((sort_keeps kept _ _).bind fun _ => .pure _)
  · exact give_keeps ((sort_keeps kept _ _).bind fun _ => .pure _)
  · exact .none

theorem listFrom?_keeps (name : String) (items : List Value) (n : Int) :
    Offers holds (listFrom? name items f n) := by
  unfold listFrom?
  simp only
  split
  · exact give_keeps ((Keeps.findM? (isTrueOn_keeps kept) _).bind fun _ => .pure _)
  · exact give_keeps (firstResult_keeps kept _)
  · exact give_keeps ((Keeps.findM? (isTrueOn_keeps kept) _).bind fun _ => .pure _)
  · exact .none

theorem chosen_keeps (members : List (String × Value)) (wanted : Bool) :
    (record?.chosen members f wanted).Keeps holds := by
  refine .filterM (fun member => ?_) members
  refine (withKey_keeps kept member).bind fun value => ?_
  split <;> exact .pure _

theorem record?_keeps (name : String) (members : List (String × Value)) :
    Offers holds (record? name members f) := by
  unfold record?
  split
  · exact .some ((Keeps.forM (fun member => (on_keeps kept _).map _) members).bind fun _ => .pure _)
  · exact .some ((Keeps.forM (fun member => (on_keeps kept _).map _) members).bind fun _ => .pure _)
  · exact .some ((chosen_keeps kept members true).bind fun _ => .pure _)
  · exact .some ((chosen_keeps kept members true).bind fun _ => .pure _)
  · exact .some ((chosen_keeps kept members false).bind fun _ => .pure _)
  · exact .none

theorem test_keeps (invariant : Invariant setup holds) (name : String) :
    (test name f).Keeps holds := by
  intro state valid
  simp only [left, test]
  cases outcome : f.call none [] state with
  | ok value after => exact invariant.report after _ ((kept none []).after_ok valid outcome)
  | error signal after =>
    have later := (kept none []).after_error valid outcome
    cases signal with
    | failure failure =>
      simp only
      split
      · rename_i told
        split at told
        · cases told
        · cases told
          exact invariant.report _ _ later
      · rename_i told
        split at told <;> cases told
        exact later
    | _ => exact later

omit kept in
/-- Whatever closures the arguments hold, calling them through a function adds nothing. -/
theorem call?_keeps (invariant : Invariant setup holds) {prepare : Value → Option (Callback σ)}
    (prepared : ∀ value, ∀ f ∈ prepare value, f.Keeps holds) (name : String) (args : List Value) :
    Offers holds (call? prepare name args) := by
  have through (value : Value) {g : Callback σ → Option (Run σ Reply)}
      (offers : ∀ f : Callback σ, f.Keeps holds → Offers holds (g f)) :
      Offers holds ((prepare value).bind g) := by
    cases found : prepare value with
    | none => exact .none
    | some f => exact offers f (prepared value f found)
  have asTest (title : String) (value : Value) :
      Offers holds ((prepare value).map (test title)) := by
    cases found : prepare value with
    | none => exact .none
    | some f => exact .some (test_keeps (prepared value f found) invariant title)
  unfold call?
  split
  · exact through _ fun f kept => list?_keeps kept name _
  · exact through _ fun f kept => record?_keeps kept name _
  · refine through _ fun f kept => ?_
    split
    · exact give_keeps (reduce_keeps kept _ _)
    · exact give_keeps (reduce_keeps kept _ _)
    · exact listFrom?_keeps kept name _ _
    · exact .none
  · split
    · exact asTest _ _
    · exact .none
  · split
    · exact asTest _ _
    · exact .none
  · exact .none

end Callback
end ApiProbe.Machine
