import ApiProbe.Variable.Substitution
import Mathlib.Data.List.MinMax

/-!
Full expansion: every token replaced by the expansion of its value, to whatever depth. The rank of a
name is the number of levels that its value takes; a substitution with as many levels finds no cycle
and no depth to complain of, and its text is the full expansion.
-/
namespace ApiProbe.Substitution

/-- The name that stands between the braces of a token. -/
def nameOf (inner : List Char) : String := String.ofList (Text.trimChars inner)

def Piece.name? : Piece → Option String
  | .plain _ => none
  | .token inner => some (nameOf inner)

/-- The names that a text refers to. -/
def names (text : List Char) : List String := (pieces text).filterMap Piece.name?

/-- The pieces of a text with every token replaced by the expansion of its value. -/
inductive Expands (source : Source) : List Piece → List Char → Prop
  | nil : Expands source [] []
  | plain {rest : List Piece} {text : List Char} (c : Char) (expands : Expands source rest text) :
      Expands source (.plain c :: rest) (c :: text)
  | token {inner : List Char} {value : String} {rest : List Piece} {expansion text : List Char}
      (defined : source (nameOf inner) = some value)
      (inside : Expands source (pieces value.toList) expansion) (expands : Expands source rest text) :
      Expands source (.token inner :: rest) (expansion ++ text)

/-- Levels of reference below a name: none if its value cannot refer, and otherwise one more than
the highest rank among the names of the value. Names on a cycle have no rank. -/
inductive Ranked (source : Source) : String → Nat → Prop
  | flat {name value : String} (defined : source name = some value)
      (plain : mayRefer value.toList = false) : Ranked source name 0
  | nested {name value : String} (ranks : String → Nat) (defined : source name = some value)
      (refers : mayRefer value.toList = true)
      (ranked : ∀ other ∈ names value.toList, Ranked source other (ranks other)) :
      Ranked source name (1 + ((names value.toList).map ranks).foldr max 0)

/-- A token that names a variable, which is no generated value. -/
structure NamesVariable (source : Source) (inner : List Char) : Prop where
  visible : Text.trimChars inner ≠ []
  ordinary : (Text.trimChars inner).head? ≠ some '$'
  defined : (source (nameOf inner)).isSome = true

/-- A text without escapes and stand-ins, all tokens of which name variables. -/
structure Readable (source : Source) (text : List Char) : Prop where
  opening : Key.occursIn ['\\', '{', '{'] text = false
  closing : Key.occursIn ['\\', '}', '}'] text = false
  unmarked : ∀ c ∈ text, c ≠ openMark ∧ c ≠ closeMark
  tokens : ∀ inner, .token inner ∈ pieces text → NamesVariable source inner

theorem shield_eq {text : List Char} (opening : Key.occursIn ['\\', '{', '{'] text = false)
    (closing : Key.occursIn ['\\', '}', '}'] text = false) : shield text = text := by
  fun_induction shield text with
  | case1 => simp [Key.occursIn] at opening
  | case2 => simp [Key.occursIn] at closing
  | case3 c rest _ _ ih =>
    simp only [Key.occursIn, Bool.or_eq_false_iff] at opening closing
    rw [ih opening.2 closing.2]
  | case4 => rfl

theorem unshield_eq {text : List Char} (unmarked : ∀ c ∈ text, c ≠ openMark ∧ c ≠ closeMark) :
    unshield text = text := by
  induction text with
  | nil => rfl
  | cons c rest ih =>
    obtain ⟨opening, closing⟩ := unmarked c List.mem_cons_self
    have kept : unshield (c :: rest) = [c] ++ unshield rest := by
      simp [unshield, opening, closing]
    rw [kept, ih fun other member => unmarked other (List.mem_cons_of_mem c member)]
    rfl

theorem token?_source {chars inner after : List Char} (found : token? chars = some (inner, after)) :
    chars = (Piece.token inner).source ++ after := by
  unfold token? at found
  split at found
  · rename_i rest
    dsimp only at found
    split at found
    · rename_i tail dropped
      split at found
      · simp at found
      · simp only [Option.some.injEq, Prod.mk.injEq] at found
        obtain ⟨rfl, rfl⟩ := found
        have whole := List.takeWhile_append_dropWhile (l := rest) (p := fun c => !isBrace c)
        rw [dropped] at whole
        simpa [Piece.source] using whole.symm
    · simp at found
  · simp at found

/-- Cutting a text loses nothing of it. -/
theorem pieces_source (text : List Char) : (pieces text).flatMap Piece.source = text := by
  fun_induction pieces text with
  | case1 chars inner after found ih =>
    rw [List.flatMap_cons, ih, token?_source found]
  | case2 => rfl
  | case3 c rest _ ih => simp [ih, Piece.source]

theorem mem_of_plain_mem {text : List Char} {c : Char} (member : .plain c ∈ pieces text) :
    c ∈ text := by
  rw [← pieces_source text]
  exact List.mem_flatMap.mpr ⟨.plain c, member, List.mem_singleton.mpr rfl⟩

theorem token?_of_plain {text : List Char} (plain : mayRefer text = false) :
    token? text = none := by
  unfold token?
  split
  · simp [mayRefer, Key.occursIn] at plain
  · rfl

theorem pieces_plain {text : List Char} (plain : mayRefer text = false) :
    pieces text = text.map Piece.plain := by
  induction text with
  | nil => rw [pieces]; rfl
  | cons c rest ih =>
    have later : mayRefer rest = false := by
      simp only [mayRefer, Key.occursIn, Bool.or_eq_false_iff] at plain
      exact plain.2
    rw [pieces]
    split
    · rename_i found
      rw [token?_of_plain plain] at found
      cases found
    · change Piece.plain c :: pieces rest = _
      rw [ih later, List.map_cons]

theorem expands_plain (source : Source) (text : List Char) :
    Expands source (text.map Piece.plain) text := by
  induction text with
  | nil => exact .nil
  | cons c rest ih => exact .plain c ih

/-- A text has one expansion at most. -/
theorem Expands.unique {source : Source} {rest : List Piece} {first second : List Char}
    (one : Expands source rest first) (two : Expands source rest second) : first = second := by
  induction one generalizing second with
  | nil => cases two; rfl
  | plain c _ ih =>
    cases two with
    | plain _ other => rw [ih other]
  | token defined _ _ insideIh ih =>
    cases two with
    | token same inside other =>
      cases defined.symm.trans same
      rw [insideIh inside, ih other]

theorem Ranked.unique {source : Source} {name : String} {low high : Nat}
    (one : Ranked source name low) (two : Ranked source name high) : low = high := by
  induction one generalizing high with
  | flat defined plain =>
    cases two with
    | flat => rfl
    | nested _ same refers _ =>
      cases defined.symm.trans same
      simp [plain] at refers
  | nested ranks defined refers _ ih =>
    cases two with
    | flat same plain =>
      cases defined.symm.trans same
      simp [plain] at refers
    | nested others same _ ranked =>
      cases defined.symm.trans same
      rw [List.map_congr_left fun other member => ih other member (ranked other member)]

/-- A name in a value ranks below the name that has the value. -/
theorem Ranked.lower {source : Source} {name value : String} {rank : Nat}
    (ranked : Ranked source name rank) (defined : source name = some value)
    (refers : mayRefer value.toList = true) {other : String} (member : other ∈ names value.toList) :
    ∃ below < rank, Ranked source other below := by
  cases ranked with
  | flat same plain =>
    cases defined.symm.trans same
    simp [plain] at refers
  | nested ranks same _ ranked =>
    cases defined.symm.trans same
    have bound := List.le_max_of_le' 0 (List.mem_map_of_mem (f := ranks) member) (Nat.le_refl _)
    exact ⟨ranks other, by omega, ranked other member⟩

theorem Ranked.pos {source : Source} {name value : String} {rank : Nat}
    (ranked : Ranked source name rank) (defined : source name = some value)
    (refers : mayRefer value.toList = true) : 0 < rank := by
  cases ranked with
  | flat same plain =>
    cases defined.symm.trans same
    simp [plain] at refers
  | nested => omega

/-- Values without stand-ins expand to a text without them. -/
theorem Expands.unmarked {source : Source} {rest : List Piece} {text : List Char}
    (expands : Expands source rest text)
    (values : ∀ name value, source name = some value → Readable source value.toList)
    (own : ∀ c, .plain c ∈ rest → c ≠ openMark ∧ c ≠ closeMark) :
    ∀ c ∈ text, c ≠ openMark ∧ c ≠ closeMark := by
  induction expands with
  | nil => simp
  | plain first _ ih =>
    intro c member
    rcases List.mem_cons.mp member with rfl | member
    · exact own c List.mem_cons_self
    · exact ih (fun other inside => own other (List.mem_cons_of_mem _ inside)) c member
  | token defined inside _ insideIh ih =>
    intro c member
    rcases List.mem_append.mp member with member | member
    · exact insideIh (fun other inner =>
        (values _ _ defined).unmarked other (mem_of_plain_mem inner)) c member
    · exact ih (fun other inside => own other (List.mem_cons_of_mem _ inside)) c member

/-- What a nested expansion has to do for a name with a value. -/
def Nested (source : Source) (visiting : List String)
    (nested : Option (Supply → List String → List Char → Except Abort Outcome)) (name : String) :
    Prop :=
  ∀ value, source name = some value → mayRefer value.toList = true →
    ∃ expandValue expansion, nested = some expandValue ∧
      Expands source (pieces value.toList) expansion ∧
      ∀ supply, expandValue supply (name :: visiting) value.toList = .ok ⟨expansion, [], supply⟩

theorem expandPiece_plain (source : Source) (depth : Nat) (visiting : List String)
    (nested : Option (Supply → List String → List Char → Except Abort Outcome)) (supply : Supply)
    (c : Char) : expandPiece source depth visiting nested supply (.plain c) = .ok ⟨[c], [], supply⟩ :=
  rfl

/-- A token that names a fresh variable expands to the expansion of its value. -/
theorem expandPiece_token {source : Source} (depth : Nat) {visiting : List String}
    {nested : Option (Supply → List String → List Char → Except Abort Outcome)} {inner : List Char}
    {value : String} (token : NamesVariable source inner)
    (defined : source (nameOf inner) = some value) (fresh : nameOf inner ∉ visiting)
    (deeper : Nested source visiting nested (nameOf inner)) :
    ∃ expansion, Expands source (pieces value.toList) expansion ∧
      ∀ supply, expandPiece source depth visiting nested supply (.token inner) =
        .ok ⟨expansion, [], supply⟩ := by
  obtain ⟨visible, ordinary, -⟩ := token
  unfold nameOf at defined fresh deeper
  cases refers : mayRefer value.toList with
  | false =>
    refine ⟨value.toList, ?_, fun supply => ?_⟩
    · rw [pieces_plain refers]
      exact expands_plain source value.toList
    · simp [expandPiece, visible, ordinary, fresh, defined, refers]
  | true =>
    obtain ⟨expandValue, expansion, available, expands, result⟩ := deeper value defined refers
    refine ⟨expansion, expands, fun supply => ?_⟩
    simp [expandPiece, visible, ordinary, fresh, defined, refers, available, result]

/-- Pieces that expand one by one expand in a row. -/
theorem joinAll_expands {source : Source} {step : Supply → Piece → Except Abort Outcome}
    (plain : ∀ supply c, step supply (.plain c) = .ok ⟨[c], [], supply⟩) {rest : List Piece}
    (tokens : ∀ inner, .token inner ∈ rest → ∃ value expansion,
      source (nameOf inner) = some value ∧ Expands source (pieces value.toList) expansion ∧
        ∀ supply, step supply (.token inner) = .ok ⟨expansion, [], supply⟩) :
    ∃ text, Expands source rest text ∧
      ∀ supply, joinAll step supply rest = .ok ⟨text, [], supply⟩ := by
  induction rest with
  | nil => exact ⟨[], .nil, fun _ => rfl⟩
  | cons piece rest ih =>
    obtain ⟨text, expands, joined⟩ :=
      ih fun inner member => tokens inner (List.mem_cons_of_mem piece member)
    cases piece with
    | plain c =>
      refine ⟨c :: text, .plain c expands, fun supply => ?_⟩
      simp [joinAll, plain, joined, bind, Except.bind, pure, Except.pure]
    | token inner =>
      obtain ⟨value, expansion, defined, inside, result⟩ := tokens inner List.mem_cons_self
      refine ⟨expansion ++ text, .token defined inside expands, fun supply => ?_⟩
      simp [joinAll, result, joined, bind, Except.bind, pure, Except.pure]

theorem mem_names {text inner : List Char} (member : .token inner ∈ pieces text) :
    nameOf inner ∈ names text :=
  List.mem_filterMap.mpr ⟨.token inner, member, rfl⟩

/-- Every name in the text ranks below the names that are being expanded. -/
def Below (source : Source) (visiting : List String) (text : List Char) : Prop :=
  ∀ holder ∈ visiting, ∀ name ∈ names text, ∀ high low,
    Ranked source holder high → Ranked source name low → low < high

theorem Below.fresh {source : Source} {visiting : List String} {text : List Char} {name : String}
    {rank : Nat} (below : Below source visiting text) (member : name ∈ names text)
    (ranked : Ranked source name rank) : name ∉ visiting :=
  fun present => Nat.lt_irrefl rank (below name present name member rank rank ranked ranked)

theorem Below.inside {source : Source} {visiting : List String} {text : List Char}
    {name value : String} {rank : Nat} (below : Below source visiting text)
    (member : name ∈ names text) (ranked : Ranked source name rank)
    (defined : source name = some value) (refers : mayRefer value.toList = true) :
    Below source (name :: visiting) value.toList := by
  intro holder present other inner high low holds lower
  obtain ⟨actual, bound, same⟩ := ranked.lower defined refers inner
  cases lower.unique same
  rcases List.mem_cons.mp present with rfl | present
  · cases holds.unique ranked
    exact bound
  · exact Nat.lt_trans bound (below holder present name member high rank holds ranked)

section
variable {source : Source}
  (values : ∀ name value, source name = some value → Readable source value.toList)

include values

/-- One pass over a text, if the values of its names can be expanded. -/
theorem pass_expands {depth : Nat} {visiting : List String} {text : List Char}
    {nested : Option (Supply → List String → List Char → Except Abort Outcome)}
    (readable : Readable source text) (fresh : ∀ name ∈ names text, name ∉ visiting)
    (deeper : ∀ name ∈ names text, Nested source visiting nested name) :
    ∃ expansion, Expands source (pieces text) expansion ∧ ∀ supply,
      (do
        let outcome ← joinAll (expandPiece source depth visiting nested) supply (pieces (shield text))
        pure { outcome with text := unshield outcome.text }) =
      (.ok ⟨expansion, [], supply⟩ : Except Abort Outcome) := by
  have tokens (inner : List Char) (member : .token inner ∈ pieces text) :
      ∃ value expansion, source (nameOf inner) = some value ∧
        Expands source (pieces value.toList) expansion ∧
        ∀ supply, expandPiece source depth visiting nested supply (.token inner) =
          .ok ⟨expansion, [], supply⟩ := by
    have token := readable.tokens inner member
    obtain ⟨value, defined⟩ := Option.isSome_iff_exists.mp token.defined
    obtain ⟨expansion, inside, result⟩ := expandPiece_token depth token defined
      (fresh _ (mem_names member)) (deeper _ (mem_names member))
    exact ⟨value, expansion, defined, inside, result⟩
  obtain ⟨expansion, expands, joined⟩ :=
    joinAll_expands (expandPiece_plain source depth visiting nested) tokens
  have clean := expands.unmarked values fun c member => readable.unmarked c (mem_of_plain_mem member)
  refine ⟨expansion, expands, fun supply => ?_⟩
  rw [shield_eq readable.opening readable.closing, joined]
  simp [bind, Except.bind, pure, Except.pure, unshield_eq clean]

/-- As many levels as the names of a text have ranks are enough for its full expansion. -/
theorem expand_expands (depth levels : Nat) {visiting : List String} {text : List Char}
    (readable : Readable source text)
    (ranked : ∀ name ∈ names text, ∃ rank ≤ levels, Ranked source name rank)
    (below : Below source visiting text) :
    ∃ expansion, Expands source (pieces text) expansion ∧
      ∀ supply, expand source depth levels supply visiting text = .ok ⟨expansion, [], supply⟩ := by
  have fresh : ∀ name ∈ names text, name ∉ visiting := by
    intro name member
    obtain ⟨rank, _, holds⟩ := ranked name member
    exact below.fresh member holds
  induction levels generalizing visiting text with
  | zero =>
    refine pass_expands values readable fresh fun name member value defined refers => ?_
    obtain ⟨rank, bound, holds⟩ := ranked name member
    have positive := holds.pos defined refers
    omega
  | succ levels ih =>
    refine pass_expands values readable fresh fun name member value defined refers => ?_
    obtain ⟨rank, bound, holds⟩ := ranked name member
    have inside := below.inside member holds defined refers
    have lower : ∀ other ∈ names value.toList, ∃ rank ≤ levels, Ranked source other rank := by
      intro other inner
      obtain ⟨below, less, same⟩ := holds.lower defined refers inner
      exact ⟨below, by omega, same⟩
    obtain ⟨expansion, expands, result⟩ := ih (values _ _ defined) lower inside fun other inner => by
      obtain ⟨_, _, same⟩ := lower other inner
      exact inside.fresh inner same
    exact ⟨_, expansion, rfl, expands, result⟩

end

/-- Where references are acyclic and shallow enough, substitution gives the full expansion, which is
one text, and no warning. -/
theorem run_eq_expansion {source : Source} {depth : Nat} {text : String}
    (readable : Readable source text.toList)
    (values : ∀ name value, source name = some value → Readable source value.toList)
    (ranked : ∀ name ∈ names text.toList, ∃ rank ≤ depth, Ranked source name rank)
    (supply : Supply) :
    ∃ expansion, (∀ other, Expands source (pieces text.toList) other ↔ other = expansion) ∧
      run source depth supply text = .ok ⟨expansion, [], supply⟩ := by
  have only {expansion : List Char} (expands : Expands source (pieces text.toList) expansion)
      (other : List Char) : Expands source (pieces text.toList) other ↔ other = expansion :=
    ⟨fun another => another.unique expands, fun same => same ▸ expands⟩
  cases refers : mayRefer text.toList with
  | false =>
    refine ⟨text.toList, only ?_, by simp [run, refers]⟩
    rw [pieces_plain refers]
    exact expands_plain source text.toList
  | true =>
    have initial : Below source [] text.toList := by simp [Below]
    obtain ⟨expansion, expands, result⟩ := expand_expands values depth depth readable ranked initial
    exact ⟨expansion, only expands, by simp [run, refers, result]⟩

/-- A name that refers twice to another one. -/
def twice : Source := fun name =>
  if name = "pair" then some "<{{one}}|{{ one }}>" else if name = "one" then some "1" else none

private theorem twice_pair : pieces "<{{one}}|{{ one }}>".toList =
    [.plain '<', .token "one".toList, .plain '|', .token " one ".toList, .plain '>'] := by cbv

private theorem twice_one : pieces "1".toList = [.plain '1'] := by cbv

private theorem twice_text :
    pieces "a={{pair}}".toList = [.plain 'a', .plain '=', .token "pair".toList] := by cbv

private theorem twice_readable {text : List Char} {row : List Piece} (same : pieces text = row)
    (unescaped : (Key.occursIn ['\\', '{', '{'] text || Key.occursIn ['\\', '}', '}'] text) = false)
    (unmarked : text.all (fun c => c != openMark && c != closeMark) = true)
    (known : ∀ piece ∈ row, ∀ name ∈ piece.name?, name = "pair" ∨ name = "one")
    (named : ∀ inner, .token inner ∈ row →
      Text.trimChars inner ≠ [] ∧ (Text.trimChars inner).head? ≠ some '$') :
    Readable twice text := by
  rw [Bool.or_eq_false_iff] at unescaped
  have clean : ∀ c ∈ text, c ≠ openMark ∧ c ≠ closeMark := by simpa using unmarked
  refine ⟨unescaped.1, unescaped.2, clean, fun inner member => ?_⟩
  rw [same] at member
  refine ⟨(named inner member).1, (named inner member).2, ?_⟩
  rcases known _ member _ rfl with name | name <;> rw [name] <;> rfl

private theorem twice_values (name value : String) (defined : twice name = some value) :
    Readable twice value.toList := by
  unfold twice at defined
  split at defined
  · cases defined
    exact twice_readable twice_pair (by decide) (by decide) (by decide) (by simp; decide)
  · split at defined
    · cases defined
      exact twice_readable twice_one (by decide) (by decide) (by decide) (by simp)
    · cases defined

private theorem twice_ranked : Ranked twice "pair" 1 := by
  have inside : names "<{{one}}|{{ one }}>".toList = ["one", "one"] := by rw [names, twice_pair]; rfl
  have toPair : twice "pair" = some "<{{one}}|{{ one }}>" := rfl
  have ranked : ∀ other ∈ names "<{{one}}|{{ one }}>".toList, Ranked twice other 0 := by
    rw [inside]
    intro other member
    obtain rfl : other = "one" := by simpa using member
    exact .flat rfl (by decide)
  have nested := Ranked.nested (fun _ => 0) toPair (by decide) ranked
  rwa [inside] at nested

/-- The second reference to a name is no cycle, and one level of reference needs no more depth. -/
theorem run_twice :
    ((∀ name value, twice name = some value → Readable twice value.toList) ∧
      Readable twice "a={{pair}}".toList ∧
      ∀ name ∈ names "a={{pair}}".toList, ∃ rank ≤ 1, Ranked twice name rank) ∧
    ∀ supply, run twice 1 supply "a={{pair}}" = .ok ⟨"a=<1|1>".toList, [], supply⟩ := by
  have readable : Readable twice "a={{pair}}".toList :=
    twice_readable twice_text (by decide) (by decide) (by decide) (by simp; decide)
  have ranked : ∀ name ∈ names "a={{pair}}".toList, ∃ rank ≤ 1, Ranked twice name rank := by
    intro name member
    have only : names "a={{pair}}".toList = ["pair"] := by rw [names, twice_text]; rfl
    rw [only, List.mem_singleton] at member
    subst member
    exact ⟨1, Nat.le_refl 1, twice_ranked⟩
  refine ⟨⟨twice_values, readable, ranked⟩, fun supply => ?_⟩
  obtain ⟨expansion, only, result⟩ := run_eq_expansion readable twice_values ranked supply
  have toPair : twice (nameOf "pair".toList) = some "<{{one}}|{{ one }}>" := rfl
  have toOne : twice (nameOf "one".toList) = some "1" := rfl
  have toOneAgain : twice (nameOf " one ".toList) = some "1" := rfl
  have one : Expands twice (pieces "1".toList) ['1'] := by
    rw [twice_one]
    exact .plain '1' .nil
  have pair : Expands twice (pieces "<{{one}}|{{ one }}>".toList) "<1|1>".toList := by
    rw [twice_pair]
    exact .plain '<' (.token toOne one (.plain '|' (.token toOneAgain one (.plain '>' .nil))))
  have text : Expands twice (pieces "a={{pair}}".toList) "a=<1|1>".toList := by
    rw [twice_text]
    exact .plain 'a' (.plain '=' (.token toPair pair .nil))
  rw [(only _).mp text, result]

end ApiProbe.Substitution
