import ApiProbe.JsonPath.Query
import ApiProbe.Proofs.JsonPath.Continuation

/-!
Paths compose. From many values a path finds what it finds from each of them, in a row, and a path of
two parts finds what the second part finds from each value that the first one leads to. The order in
which values are visited does not matter, because there is only one way to break off.
-/
namespace ApiProbe.JsonPath
variable {α β γ : Type}

/-- A result that, if it is missing, is missing because of a position beyond 64 bits. -/
def OnlyOverflows (result : Except Abort α) : Prop :=
  ∀ abort, result = .error abort → abort = .positionOverflow

namespace OnlyOverflows
variable {first : Except Abort α} {second : Except Abort β}

theorem ok (value : α) : OnlyOverflows (.ok value) := by
  intro abort broken
  cases broken

theorem overflow : OnlyOverflows (.error .positionOverflow : Except Abort α) := by
  intro abort broken
  cases broken
  rfl

theorem bind {next : α → Except Abort β} (start : OnlyOverflows first)
    (rest : ∀ value, OnlyOverflows (next value)) : OnlyOverflows (first >>= next) := by
  cases first with
  | ok value => exact rest value
  | error abort =>
    obtain rfl := start abort rfl
    exact overflow

theorem map (start : OnlyOverflows first) (f : α → β) : OnlyOverflows (first.map f) := by
  cases first with
  | ok value => exact ok (f value)
  | error abort =>
    obtain rfl := start abort rfl
    exact overflow

/-- Two computations that do not need each other may be run in either order. -/
theorem swap (left : OnlyOverflows first) (right : OnlyOverflows second)
    (next : α → β → Except Abort γ) :
    (first >>= fun a => second >>= fun b => next a b) =
      second >>= fun b => first >>= fun a => next a b := by
  cases first with
  | ok a => rfl
  | error abort =>
    obtain rfl := left abort rfl
    cases second with
    | ok b => rfl
    | error other =>
      obtain rfl := right other rfl
      rfl

end OnlyOverflows

theorem Slice.upward_overflows (stop step : Int) (fuel : Nat) (place : Int) :
    OnlyOverflows (upward stop step fuel place) := by
  induction fuel generalizing place with
  | zero => exact .ok []
  | succ fuel ih =>
    unfold upward
    split
    · split
      · exact (ih (place + step)).map _
      · exact .overflow
    · exact .ok []

theorem Slice.select_overflows (run : Slice) (node : Json) : OnlyOverflows (run.select node) := by
  unfold select
  split
  · apply OnlyOverflows.map
    unfold positions
    extract_lets size
    split
    · exact upward_overflows _ _ _ _
    · exact .ok _
  · exact .ok []

theorem gather_overflows {select : Json → Except Abort (List Json)}
    (each : ∀ node, OnlyOverflows (select node)) (nodes : List Json) :
    OnlyOverflows (gather select nodes) := by
  induction nodes with
  | nil => exact .ok []
  | cons node rest ih => exact (each node).bind fun _ => ih.bind fun _ => .ok _

theorem keep_overflows {passes : Json → Except Abort Bool}
    (each : ∀ node, OnlyOverflows (passes node)) (nodes : List Json) :
    OnlyOverflows (keep passes nodes) := by
  induction nodes with
  | nil => exact .ok []
  | cons node rest ih => exact (each node).bind fun _ => ih.bind fun _ => .ok _

mutual

theorem Selector.select_overflows (selector : Selector) (node : Json) :
    OnlyOverflows (selector.select node) := by
  cases selector with
  | pick one => exact .ok _
  | union picks => exact .ok _
  | slice run => exact run.select_overflows node
  | filter path test =>
    exact keep_overflows (fun child => (follow_overflows path [child]).map _) node.children

theorem Segment.select_overflows (segment : Segment) (node : Json) :
    OnlyOverflows (segment.select node) := by
  cases segment with
  | child selector => exact selector.select_overflows node
  | descendant selector => exact gather_overflows selector.select_overflows node.subtree

theorem follow_overflows (path : List Segment) (nodes : List Json) :
    OnlyOverflows (follow path nodes) := by
  cases path with
  | nil => exact .ok nodes
  | cons segment rest =>
    exact (gather_overflows segment.select_overflows nodes).bind (follow_overflows rest)

end

section
variable (select : Json → Except Abort (List Json))

theorem gather_append (first second : List Json) :
    gather select (first ++ second) = (do
      let found ← gather select first
      let others ← gather select second
      pure (found ++ others)) := by
  induction first with
  | nil => exact (bind_pure (gather select second)).symm
  | cons node rest ih =>
    simp only [List.cons_append, gather, ih, bind_assoc, pure_bind, List.append_assoc]

/-- Gathering is running the selection on every value and joining what is found. -/
theorem gather_eq_mapM (nodes : List Json) :
    gather select nodes = (do
      let parts ← nodes.mapM select
      pure parts.flatten) := by
  induction nodes with
  | nil => rfl
  | cons node rest ih =>
    simp only [gather, ih, List.mapM_cons, bind_assoc, pure_bind, List.flatten_cons]

end

/-- Gathering twice is gathering once with both selections in a row. -/
theorem gather_bind_gather {select next : Json → Except Abort (List Json)}
    (once : ∀ node, OnlyOverflows (select node)) (again : ∀ node, OnlyOverflows (next node))
    (nodes : List Json) :
    gather select nodes >>= gather next = gather (fun node => select node >>= gather next) nodes := by
  induction nodes with
  | nil => rfl
  | cons node rest ih =>
    calc gather select (node :: rest) >>= gather next
      _ = select node >>= fun found => gather select rest >>= fun others =>
            gather next found >>= fun here => gather next others >>= fun there =>
              pure (here ++ there) := by
        simp only [gather, bind_assoc, pure_bind, gather_append]
      _ = select node >>= fun found => gather next found >>= fun here =>
            gather select rest >>= fun others => gather next others >>= fun there =>
              pure (here ++ there) := by
        congr 1
        funext found
        exact (gather_overflows once rest).swap (gather_overflows again found) _
      _ = gather (fun node => select node >>= gather next) (node :: rest) := by
        simp only [gather, ← ih, bind_assoc]

/-- From many values a path finds what it finds from each. -/
theorem follow_eq_gather (path : List Segment) (nodes : List Json) :
    follow path nodes = gather (fun node => follow path [node]) nodes := by
  induction path generalizing nodes with
  | nil =>
    induction nodes with
    | nil => rfl
    | cons node rest ih =>
      simp only [follow] at ih ⊢
      rw [gather, ← ih]
      rfl
  | cons segment rest ih =>
    have tails : follow rest = gather fun node => follow rest [node] := funext ih
    calc follow (segment :: rest) nodes
      _ = gather segment.select nodes >>= gather fun node => follow rest [node] := by
        rw [follow, ← tails]
      _ = gather (fun node => segment.select node >>= gather fun node => follow rest [node]) nodes :=
        gather_bind_gather segment.select_overflows (fun node => follow_overflows rest [node]) nodes
      _ = gather (fun node => follow (segment :: rest) [node]) nodes := by
        simp only [follow, gather_singleton, ← tails]

theorem follow_append (first second : List Segment) (nodes : List Json) :
    follow (first ++ second) nodes = follow first nodes >>= follow second := by
  induction first generalizing nodes with
  | nil => rfl
  | cons segment rest ih =>
    rw [List.cons_append, follow, follow, bind_assoc]
    congr 1
    funext found
    exact ih found

/-- A path of two parts finds what the second part finds from each value that the first one leads
to. -/
theorem query_eq_bind_mapM (first second : JsonPath) (document : Json) :
    query (first ++ second) document = (do
      let found ← first.query document
      let parts ← found.mapM second.query
      pure parts.flatten) := by
  rw [query, follow_append]
  congr 1
  funext found
  rw [follow_eq_gather, gather_eq_mapM]
  rfl

/-- A path that goes on finds what the continuation, taken as a path of its own, finds in each match
of the path, one match after the other. -/
theorem query_append {path suffix : String} {first second : JsonPath}
    (readable : read path = .ok first)
    (start : suffix.toList.head? = some '.' ∨ suffix.toList.head? = some '[')
    (continued : read ("$" ++ suffix) = .ok second) (document : Json) :
    ∃ whole, read (path ++ suffix) = .ok whole ∧
      whole.query document = (do
        let found ← first.query document
        let parts ← found.mapM second.query
        pure parts.flatten) := by
  have opened : ∃ c rest, suffix.toList = c :: rest ∧ isNameEnd c = true := by
    cases chars : suffix.toList with
    | nil => simp [chars] at start
    | cons c rest =>
      simp only [chars, List.head?_cons, Option.some.injEq] at start
      exact ⟨c, rest, rfl, by rcases start with rfl | rfl <;> rfl⟩
  obtain ⟨c, rest, chars, ends⟩ := opened
  exact ⟨first ++ second, read_append readable chars ends continued,
    query_eq_bind_mapM first second document⟩

/-- A filter in front of a union, with a blank between them. -/
theorem query_append_filter :
    let document : Json := .obj [("a", .arr [.obj [("b", .arr [.int 1, .int 2])], .null,
      .obj [("b", .arr [.int 3])]])]
    let first : JsonPath := [.descendant (.pick (.name "a")),
      .child (.filter [.child (.pick (.name "b"))] none)]
    let second : JsonPath := [.child (.pick (.name "b")), .child (.union [.index (-1), .index 0])]
    read "$..a[?(@.b)] " = .ok first ∧ read "$['b'][-1, 0]" = .ok second ∧
      ∃ whole, read "$..a[?(@.b)] ['b'][-1, 0]" = .ok whole ∧
        whole.query document = .ok [.int 2, .int 1, .int 3, .int 3] := by
  intro document first second
  have readable : read "$..a[?(@.b)] " = .ok first := by cbv
  have continued : read ("$" ++ "['b'][-1, 0]") = .ok second := by cbv
  refine ⟨readable, continued, ?_⟩
  obtain ⟨whole, composed, found⟩ :=
    query_append readable (.inr (by decide)) continued document
  exact ⟨whole, composed, found.trans (by rfl)⟩

end ApiProbe.JsonPath
