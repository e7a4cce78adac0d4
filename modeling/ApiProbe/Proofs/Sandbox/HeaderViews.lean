import ApiProbe.Proofs.Table.Order
import ApiProbe.Sandbox

/-!
The two ways in which a script reads a header: from the object of all headers, or by a search for its name.
The object has the last header that is spelled like the name, and the search finds the first one whose name
differs in case at most. So a script sees one value just if these two headers have the same value.
-/
namespace ApiProbe

namespace Http
variable {headers : List Header} {name : String} {header : Header}

/-- The first header of a name, in whatever case. -/
def IsFirst (headers : List Header) (name : String) (header : Header) : Prop :=
  ∃ before after, headers = before ++ header :: after ∧ header.name.toLower = name.toLower ∧
    ∀ other ∈ before, other.name.toLower ≠ name.toLower

/-- The last header that is spelled like a name. -/
def IsLast (headers : List Header) (name : String) (header : Header) : Prop :=
  ∃ before after, headers = before ++ header :: after ∧ header.name = name ∧
    ∀ other ∈ after, other.name ≠ name

theorem isFirst_iff : IsFirst headers name header ↔
    headers.find? (fun other => other.name.toLower == name.toLower) = some header := by
  rw [List.find?_eq_some_iff_append]
  simp only [IsFirst, beq_iff_eq, Bool.not_eq_true', beq_eq_false_iff_ne]
  constructor
  · rintro ⟨before, after, split, same, others⟩
    exact ⟨same, before, after, split, others⟩
  · rintro ⟨same, before, after, split, others⟩
    exact ⟨before, after, split, same, others⟩

theorem IsFirst.findHeader_eq (first : IsFirst headers name header) :
    findHeader headers name = some header.value := by
  rw [findHeader, isFirst_iff.mp first, Option.map_some]

section Occurs
variable (occurs : name ∈ headers.map Header.name)
include occurs

theorem exists_isFirst : ∃ header, IsFirst headers name header := by
  obtain ⟨own, member, same⟩ := List.mem_map.mp occurs
  have found : (headers.find? fun other => other.name.toLower == name.toLower).isSome := by
    rw [List.find?_isSome]
    exact ⟨own, member, by simp [same]⟩
  obtain ⟨header, found⟩ := Option.isSome_iff_exists.mp found
  exact ⟨header, isFirst_iff.mpr found⟩

theorem exists_isLast : ∃ header, IsLast headers name header := by
  -- The last header of a spelling is the first one from behind.
  have behind : name ∈ (headers.map Header.name).reverse := List.mem_reverse.mpr occurs
  rw [← List.map_reverse] at behind
  obtain ⟨own, member, same⟩ := List.mem_map.mp behind
  have found : (headers.reverse.find? fun other => other.name == name).isSome := by
    rw [List.find?_isSome]
    exact ⟨own, member, by simp [same]⟩
  obtain ⟨header, found⟩ := Option.isSome_iff_exists.mp found
  obtain ⟨spelled, after, before, split, others⟩ := List.find?_eq_some_iff_append.mp found
  refine ⟨header, before.reverse, after.reverse, ?_, beq_iff_eq.mp spelled, fun other member => ?_⟩
  · rw [← List.reverse_reverse headers, split]
    simp
  · simpa using others other (List.mem_reverse.mp member)

end Occurs
end Http

namespace Machine
open Plain (Position)
variable {σ : Type} {setup : Setup σ} {headers : List Http.Header} {name : String} {fuel : Nat}

/-- What the object of headers has under a name. -/
def headerMember (headers : List Http.Header) (name : String) : Value :=
  (Table.find? (Table.ofPairs (headers.map fun header => (header.name, Value.str header.value))) name).getD
    .unit

/-- What the search for a header gives. -/
def headerCalled (headers : List Http.Header) (name : String) : Value :=
  .ofText? (Http.findHeader headers name)

theorem headerMember_of_isLast {header : Http.Header} (last : Http.IsLast headers name header) :
    headerMember headers name = .str header.value := by
  obtain ⟨before, after, rfl, rfl, others⟩ := last
  have absent : ∀ pair ∈ after.map fun other => (other.name, Value.str other.value), pair.1 ≠ header.name := by
    intro pair member
    obtain ⟨other, inside, rfl⟩ := List.mem_map.mp member
    exact others other inside
  rw [headerMember, List.map_append, List.map_cons, Table.find?_ofPairs_last absent, Option.getD_some]

theorem headerCalled_of_isFirst {header : Http.Header} (first : Http.IsFirst headers name header) :
    headerCalled headers name = .str header.value := by
  rw [headerCalled, first.findHeader_eq, Value.ofText?]

/-- What has headers that a script can read. -/
inductive Message
  | request | response
  deriving Repr, DecidableEq

namespace Message

/-- The name of a message in the script's own object. -/
def key : Message → String
  | .request => "request"
  | .response => "response"

def object : Message → Object Value
  | .request => .request
  | .response => .response

/-- The headers of a message, if there is such a message. -/
def headers? (world : World σ) : Message → Option (List Http.Header)
  | .request => some world.request.headers
  | .response => world.response.map Http.Response.headers

end Message

/-- A step to the member of a name, behind a point or in brackets. -/
inductive MemberStep (name : String) : Step → Prop
  | point (optional : Bool) (place : Position) : MemberStep name (.property name optional place)
  | brackets (optional : Bool) (place : Position) : MemberStep name (.index (.str name) optional place)

section Walk
variable {message : Message}

theorem property_message (given : message.headers? setup.world = some headers) (place : Position) :
    property setup (.host .probe) message.key place = pure (.host message.object) := by
  cases message with
  | request => rfl
  | response =>
    obtain ⟨response, there, -⟩ := Option.map_eq_some_iff.mp given
    simp only [property, Message.key, Probe.property?, Probe.response, there]
    rfl

theorem property_headers (given : message.headers? setup.world = some headers) (place : Position) :
    property setup (.host message.object) "headers" place = pure (Probe.headers headers) := by
  cases message with
  | request =>
    cases given
    rfl
  | response =>
    obtain ⟨response, there, rfl⟩ := Option.map_eq_some_iff.mp given
    simp only [property, Message.object, Probe.property?, Probe.response, there]
    rfl

theorem walk_memberStep {step : Step} (reads : MemberStep name step) :
    walk setup (fuel + 2) (Probe.headers headers) [step] .read = pure (headerMember headers name, none) := by
  cases reads with
  | point optional place =>
    simp only [Probe.headers, walk, Step.isOptional, Value.isUnit, Bool.and_false, Bool.false_eq_true, if_false,
      property, pure_bind, headerMember]
  | brackets optional place =>
    have found : (Run.located place (Run.ofExcept (item (Probe.headers headers) (.str name))) : Run σ Value) =
        pure (headerMember headers name) := rfl
    simp only [walk, Step.isOptional, found, pure_bind]
    simp [Probe.headers, Value.isUnit]

/-- A property that an object just has is one step of a chain. -/
theorem walk_host {object : Object Value} {key : String} {place : Position} {value : Value}
    (known : property setup (.host object) key place = pure value) (optional : Bool) (rest : List Step) :
    walk setup (fuel + 1) (.host object) (.property key optional place :: rest) .read = (do
      let (found, _) ← walk setup fuel value rest .read
      pure (found, none)) := by
  simp only [walk, Step.isOptional, Value.isUnit, Bool.and_false, Bool.false_eq_true, if_false, known, pure_bind]

/-- Reading from the object of headers counts nothing and looks at no size. -/
theorem walk_object (given : message.headers? setup.world = some headers) {step : Step}
    (reads : MemberStep name step) (optional further : Bool) (place behind : Position) :
    walk setup (fuel + 4) (.host .probe)
        [.property message.key optional place, .property "headers" further behind, step] .read =
      pure (headerMember headers name, none) := by
  rw [walk_host (property_message given place), walk_host (property_headers given behind),
    walk_memberStep reads]
  rfl

/-- A search for a header counts as an operation, and what it gives must not be too large. -/
def searched (setup : Setup σ) (place : Position) (value : Value) : Run σ Visit := do
  Run.tick setup place
  Run.checkSize setup place value
  pure (value, none)

theorem invoke_header (given : message.headers? setup.world = some headers) (place : Position) :
    invoke setup (fuel + 1) "header" [.host message.object, .str name] place =
      searched setup place (headerCalled headers name) := by
  obtain ⟨found, reads, value⟩ : ∃ found, Probe.call? setup "header" [.host message.object, .str name] =
      some found ∧ found = pure (headerCalled headers name) := by
    cases message with
    | request =>
      cases given
      exact ⟨_, rfl, rfl⟩
    | response =>
      obtain ⟨response, there, rfl⟩ := Option.map_eq_some_iff.mp given
      refine ⟨_, rfl, ?_⟩
      simp only [Probe.response, there, pure_bind]
      rfl
  have reply : Run.located place (pure (.just (headerCalled headers name)) : Run σ Reply) =
      pure (.just (headerCalled headers name)) := rfl
  have noCallback (prepare : Value → Option (Callback σ)) :
      Callback.call? prepare "header" [.host message.object, .str name] = none := by
    cases message <;> rfl
  rw [invoke]
  · simp only [noCallback, reads, value, pure_bind, reply]
    rfl
  all_goals simp

theorem walk_search (given : message.headers? setup.world = some headers) (optional further : Bool)
    (place behind : Position) :
    walk setup (fuel + 4) (.host .probe)
        [.property message.key optional place, .method "header" [.str name] further behind] .read =
      searched setup behind (headerCalled headers name) := by
  have called : method setup (fuel + 2) (.host message.object) "header" [.str name] behind =
      searched setup behind (headerCalled headers name) := by
    rw [method]
    · exact invoke_header given behind
    all_goals simp
  rw [walk_host (property_message given place)]
  simp only [walk, Step.isOptional, Value.isUnit, Bool.and_false, Bool.false_eq_true, if_false, called,
    pure_bind, searched, bind_assoc]

/-- A script reads a header of a message from the object of all headers, behind a point or in brackets, or
searches for it by its name. Of a name that occurs both give the same value if and only if the first header
of that name in whatever case has the value of the last one that is spelled so. -/
theorem header_views_agree_iff (given : message.headers? setup.world = some headers)
    (occurs : name ∈ headers.map Http.Header.name) :
    (∀ fuel step, MemberStep name step → ∀ optional further place behind,
      walk setup (fuel + 4) (.host .probe)
          [.property message.key optional place, .property "headers" further behind, step] .read =
        pure (headerMember headers name, none)) ∧
    (∀ fuel optional further place behind,
      walk setup (fuel + 4) (.host .probe)
          [.property message.key optional place, .method "header" [.str name] further behind] .read =
        searched setup behind (headerCalled headers name)) ∧
    (headerMember headers name = headerCalled headers name ↔
      ∃ first last, Http.IsFirst headers name first ∧ Http.IsLast headers name last ∧
        first.value = last.value) := by
  refine ⟨fun _ _ reads => walk_object given reads, fun _ => walk_search given, ?_, ?_⟩
  · intro same
    obtain ⟨first, isFirst⟩ := Http.exists_isFirst occurs
    obtain ⟨last, isLast⟩ := Http.exists_isLast occurs
    rw [headerMember_of_isLast isLast, headerCalled_of_isFirst isFirst, Value.str.injEq] at same
    exact ⟨first, last, isFirst, isLast, same.symm⟩
  · rintro ⟨first, last, isFirst, isLast, same⟩
    rw [headerMember_of_isLast isLast, headerCalled_of_isFirst isFirst, same]

end Walk

/-- Of a header that is sent twice the object has the second value and the search gives the first one. -/
theorem header_views_agree_iff_repeated :
    let headers : List Http.Header := [⟨"X-Id", "1"⟩, ⟨"X-Id", "2"⟩]
    let setup := Sandbox.setup .default (Sandbox.world .default ⟨.get, "http://localhost/", headers, none⟩ none)
    let place : Position := ⟨1, 1⟩
    "X-Id" ∈ headers.map Http.Header.name ∧
      walk setup 4 (.host .probe) [.property "request" false place, .property "headers" false place,
        .index (.str "X-Id") false place] .read = pure (.str "2", none) ∧
      walk setup 4 (.host .probe) [.property "request" false place, .method "header" [.str "X-Id"] false place]
        .read = searched setup place (.str "1") ∧
      headerMember headers "X-Id" ≠ headerCalled headers "X-Id" := by
  intro headers setup place
  have occurs : "X-Id" ∈ headers.map Http.Header.name := List.mem_cons_self
  have last : headerMember headers "X-Id" = .str "2" :=
    headerMember_of_isLast ⟨[⟨"X-Id", "1"⟩], [], rfl, rfl, nofun⟩
  have first : headerCalled headers "X-Id" = .str "1" :=
    headerCalled_of_isFirst ⟨[], [⟨"X-Id", "2"⟩], rfl, rfl, nofun⟩
  have given : Message.request.headers? setup.world = some headers := rfl
  obtain ⟨inObject, bySearch, -⟩ := header_views_agree_iff given occurs
  have seen := inObject 0 _ (.brackets false place) false false place place
  have found := bySearch 0 false false place place
  rw [last] at seen
  rw [first] at found
  refine ⟨occurs, seen, found, ?_⟩
  rw [last, first]
  simp

end Machine
end ApiProbe
