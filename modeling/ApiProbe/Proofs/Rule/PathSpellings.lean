import ApiProbe.Proofs.Json.RoundTrip
import ApiProbe.Proofs.JsonPath.Composition
import ApiProbe.Proofs.Rule.WrittenDirectives
import ApiProbe.Rule.Batch

/-!
Capture directives for JSON paths, which may be written with a dollar or with an at sign in front. Both
are taken for paths into JSON, but only the dollar is the sign of the root: behind an at sign a path is
followed from the member of that name. So the rules of the two spellings find the same just if the path
finds the same text below that member as from the root.
-/
namespace ApiProbe

namespace JsonPath
open Text

/-- What a path finds from a member of a document on; nothing if there is no such member. -/
def selectBelow (path : JsonPath) (key : String) (document : Json) : Except Abort (Option Json) :=
  match document.member? key with
  | some value => path.select value
  | none => .ok none

/-- A path whose first step is a name looks below the member of that name. -/
theorem select_name_cons (path : JsonPath) (key : String) (document : Json) :
    JsonPath.select (.child (.pick (.name key)) :: path) document = path.selectBelow key document := by
  have first : JsonPath.query [.child (.pick (.name key))] document =
      .ok (document.member? key).toList := by
    rw [query, follow, gather_singleton]
    rfl
  have whole := query_eq_bind_mapM [.child (.pick (.name key))] path document
  rw [first] at whole
  rw [select, selectBelow, ← List.singleton_append, whole]
  cases document.member? key with
  | none => rfl
  | some value =>
    simp only [Option.toList, List.mapM_cons, List.mapM_nil, bind, Except.bind, pure, Except.pure, select]
    cases path.query value <;> simp [Except.map]

/-- An at sign in the place of the root is the name of a member. -/
theorem read_at {tail : String} {path : JsonPath} (readable : read ("$." ++ tail) = .ok path) :
    read ("@." ++ tail) = .ok (.child (.pick (.name "@")) :: path) := by
  have sign : read "@" = .ok [.child (.pick (.name "@"))] := by cbv
  have start : ("." ++ tail).toList = '.' :: tail.toList := by
    rw [String.toList_append]
    rfl
  have continued : read ("$" ++ ("." ++ tail)) = .ok path := by
    rwa [← String.append_assoc]
  have whole := read_append sign start rfl continued
  rwa [← String.append_assoc] at whole

/-- Blanks around a path do not count. -/
theorem read_trim (path : String) : read (trim path) = read path := by
  rw [read, read, toList_trim, trimChars_trimChars]

end JsonPath

namespace Rule
open Extraction (Trouble)

/-- What a search in a document comes to, if text is asked for. -/
def textOf (found : Except Abort (Option Json)) : Except Trouble (Option String) :=
  match found with
  | .ok value => .ok (value.map Json.display)
  | .error abort => .error (.aborted abort)

/-- What a rule for a JSON path finds in a body. -/
theorem find_jsonPath (rule : Rule) (method : rule.method = .jsonPath) (source : rule.source = .body)
    {path : JsonPath} (readable : JsonPath.read rule.pattern = .ok path) (response : Http.Response) :
    rule.find response =
      match Json.read response.body with
      | .ok document => textOf (path.select document)
      | .error error => .error (.refused (.badJson error)) := by
  have search : rule.find response =
      (Extraction.fromJson response.body rule.pattern).map (·.map Json.display) := by
    rw [find, method, source]
    rfl
  rw [search, Extraction.fromJson, readable]
  cases Json.read response.body with
  | error error => rfl
  | ok document =>
    cases found : path.select document <;>
      simp [Extraction.refuse, bind, Except.bind, pure, Except.pure, Except.map, throw, throwThe,
        MonadExceptOf.throw, textOf, found]

/-- A comment line that asks for a variable to be captured from a path. -/
def captureLine (name path : String) : String := "# @capture " ++ name ++ " = " ++ path

section Line
variable {sign : Char} {name tail : List Char}

/-- A path that starts with a sign is only trimmed behind it. -/
theorem trimChars_signed (root : sign = '$' ∨ sign = '@') (tail : List Char) :
    Text.trimChars (sign :: '.' :: tail) = sign :: '.' :: Text.trimRight tail := by
  have visible : Text.isBlank sign = false := by
    rcases root with rfl | rfl <;> decide
  rw [Text.trimChars, Text.trimLeft_cons_visible visible]
  exact Text.trimRight_append_visible (by decide) [sign] tail

/-- Both signs tell of a JSON path, and the sign stays part of the pattern. -/
theorem classify_signed (root : sign = '$' ∨ sign = '@') (tail : List Char) :
    classify (Text.trimChars (sign :: '.' :: tail)) = (.jsonPath, Text.trimChars (sign :: '.' :: tail)) := by
  have noHeader : afterStart? "headers.".toList (sign :: '.' :: Text.trimRight tail) = none := by
    rcases root with rfl | rfl <;> rfl
  have noRegex : afterStart? "regex:".toList (sign :: '.' :: Text.trimRight tail) = none := by
    rcases root with rfl | rfl <;> rfl
  have start : ((sign :: '.' :: Text.trimRight tail).head? == some '$' ||
      ['@', '.'].isPrefixOf (sign :: '.' :: Text.trimRight tail)) = true := by
    rcases root with rfl | rfl <;> simp
  rw [classify, Text.trimChars_trimChars, trimChars_signed root, noHeader, noRegex, start]
  rfl

/-- The pattern of a path that starts with a sign is the path without outer blanks. -/
theorem directive?_signed (named : isIdentifier name = true) (root : sign = '$' ∨ sign = '@')
    (oneLine : '\n' ∉ sign :: '.' :: tail) :
    directive? ("# @capture ".toList ++ name ++ " = ".toList ++ sign :: '.' :: tail) =
      some ⟨String.ofList name, .jsonPath, String.ofList (Text.trimChars (sign :: '.' :: tail))⟩ := by
  have line : "# @capture ".toList ++ name ++ " = ".toList ++ sign :: '.' :: tail =
      Spacing.single.line .hash name (sign :: '.' :: tail) := by
    simp [Spacing.line, Spacing.single, CommentMark.chars]
  have some_ : Text.trimChars (sign :: '.' :: tail) ≠ [] := by
    rw [trimChars_signed root]
    exact List.cons_ne_nil _ _
  rw [line]
  exact directive?_line Spacing.single .hash named (fun member => oneLine (Text.mem_of_mem_trimChars member))
    (classify_signed root tail) some_

end Line

/-- A comment line that asks for a JSON path is one directive. -/
theorem directives_captureLine {name path : String} {sign : Char} {tail : List Char}
    (named : isIdentifier name.toList = true) (root : sign = '$' ∨ sign = '@')
    (signed : path.toList = sign :: '.' :: tail) (oneLine : '\n' ∉ path.toList) :
    directives (captureLine name path) = [⟨name, .jsonPath, Text.trim path⟩] := by
  obtain ⟨-, parts⟩ := isIdentifierPart_of_isIdentifier named
  have whole : (captureLine name path).toList =
      "# @capture ".toList ++ name.toList ++ " = ".toList ++ path.toList := by
    rw [captureLine, String.toList_append, String.toList_append, String.toList_append]
  have single : '\n' ∉ (captureLine name path).toList := by
    have unnamed : '\n' ∉ name.toList := by
      intro member
      exact absurd (parts _ member) (by decide)
    rw [whole]
    simp [unnamed, oneLine]
  have lines : Text.lines (captureLine name path).toList = [(captureLine name path).toList] :=
    Text.lines_of_not_mem (by simp [whole]) single
  rw [directives, lines, List.filterMap_cons, List.filterMap_nil, whole, signed,
    directive?_signed named root (signed ▸ oneLine), String.ofList_toList, ← signed]
  rfl

section Spellings
variable {name tail : String} {path : JsonPath}

/-- A directive is one line, so its path has no line feed. The rules that the two spellings of a path
ask for find the same in a response just if the path finds the same text below the member that is called
by an at sign as from the root of the body; without such a member the rule of the at sign finds
nothing. -/
theorem at_sign_agrees_iff (named : isIdentifier name.toList = true) (oneLine : '\n' ∉ tail.toList)
    (readable : JsonPath.read ("$." ++ tail) = .ok path) (supply : Supply) (scope : Scope)
    (response : Http.Response) :
    ∃ dollar at_ : Directive,
      directives (captureLine name ("$." ++ tail)) = [dollar] ∧
      directives (captureLine name ("@." ++ tail)) = [at_] ∧
      ((at_.toRule supply scope).1.find response = (dollar.toRule supply scope).1.find response ↔
        ∀ document, Json.read response.body = .ok document →
          textOf (path.selectBelow "@" document) = textOf (path.select document)) ∧
      (∀ document, Json.read response.body = .ok document → document.member? "@" = none →
        (at_.toRule supply scope).1.find response = .ok none) := by
  have dollarChars : ("$." ++ tail).toList = '$' :: '.' :: tail.toList := String.toList_append
  have atChars : ("@." ++ tail).toList = '@' :: '.' :: tail.toList := String.toList_append
  have dollarLine : '\n' ∉ ("$." ++ tail).toList := by simp [dollarChars, oneLine]
  have atLine : '\n' ∉ ("@." ++ tail).toList := by simp [atChars, oneLine]
  let dollar : Directive := ⟨name, .jsonPath, Text.trim ("$." ++ tail)⟩
  let at_ : Directive := ⟨name, .jsonPath, Text.trim ("@." ++ tail)⟩
  have dollarFinds := find_jsonPath (dollar.toRule supply scope).1 rfl rfl
    ((JsonPath.read_trim _).trans readable) response
  have atFinds := find_jsonPath (at_.toRule supply scope).1 rfl rfl
    ((JsonPath.read_trim _).trans (JsonPath.read_at readable)) response
  refine ⟨dollar, at_, directives_captureLine named (.inl rfl) dollarChars dollarLine,
    directives_captureLine named (.inr rfl) atChars atLine, ?agree, ?miss⟩
  case agree =>
    rw [dollarFinds, atFinds]
    cases Json.read response.body with
    | error error => simp
    | ok document => simp [JsonPath.select_name_cons]
  case miss =>
    intro document body missing
    have below : path.selectBelow "@" document = .ok none := by
      rw [JsonPath.selectBelow, missing]
    simp only [atFinds, body, JsonPath.select_name_cons, below]
    rfl

/-- The token of a body is found by the rule of the dollar and missed by that of the at sign. -/
theorem at_sign_misses_token :
    let response : Http.Response := ⟨200, "OK", [], "\x7b\"token\":\"abc\"\x7d", 0, 15⟩
    ∃ dollar at_ : Directive,
      directives (captureLine "token" ("$." ++ "token")) = [dollar] ∧
      directives (captureLine "token" ("@." ++ "token")) = [at_] ∧
      (at_.toRule ⟨⟨0⟩, 0⟩ .environment).1.find response = .ok none ∧
      (dollar.toRule ⟨⟨0⟩, 0⟩ .environment).1.find response ≠ .ok none := by
  intro response
  have readable : JsonPath.read ("$." ++ "token") = .ok [.child (.pick (.name "token"))] := by cbv
  have named : isIdentifier "token".toList = true := by decide
  have body : Json.read response.body = .ok (.obj [("token", .str "abc")]) := by
    refine Json.read_eq_ok ?_ (by decide +kernel)
    simp [Json.Readable, Json.ReadableMembers, Json.maxDepth]
  obtain ⟨dollar, at_, dollarLine, atLine, agrees, missed⟩ :=
    at_sign_agrees_iff named (by decide) readable ⟨⟨0⟩, 0⟩ .environment response
  have nothing := missed _ body (by decide)
  refine ⟨dollar, at_, dollarLine, atLine, nothing, fun found => ?_⟩
  have alike := agrees.mp (nothing.trans found.symm) _ body
  cases alike

end Spellings
end Rule
end ApiProbe
