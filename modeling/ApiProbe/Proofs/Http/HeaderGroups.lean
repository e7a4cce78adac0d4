import ApiProbe.Http.Message
import ApiProbe.Proofs.Table.Order

/-!
Headers filed under their names in small letters. Header by header the document holds just the values that
have come so far, in order, so that a search for a header finds the first of those that are filed under its
name.
-/
namespace ApiProbe.Http
variable {headers before : List Header} {table : Table Json} {key : String}

/-- The values of the headers whose name, in small letters, is a key. -/
def valuesUnder (headers : List Header) (key : String) : List String :=
  (headers.filter fun header => header.name.toLower == key).map Header.value

theorem valuesUnder_concat (before : List Header) (header : Header) (key : String) :
    valuesUnder (before ++ [header]) key =
      valuesUnder before key ++ if header.name.toLower = key then [header.value] else [] := by
  rw [valuesUnder, List.filter_append, List.map_append, ← valuesUnder]
  by_cases same : header.name.toLower = key <;> simp [same]

theorem valuesUnder_ne_nil_iff :
    valuesUnder headers key ≠ [] ↔ ∃ header ∈ headers, header.name.toLower = key := by
  simp [valuesUnder, List.filter_eq_nil_iff]

/-- A search finds the first value under the name in small letters. -/
theorem findHeader_eq_head? (headers : List Header) (name : String) :
    findHeader headers name = (valuesUnder headers name.toLower).head? := by
  rw [findHeader, valuesUnder, List.head?_map, List.head?_filter]

/-- How values are filed: one as a text, more as the list of them. -/
def filed : List String → Option Json
  | [] => none
  | [value] => some (.str value)
  | values => some (.arr (values.map .str))

theorem filed_eq_none_iff {values : List String} : filed values = none ↔ values = [] := by
  match values with
  | [] => simp [filed]
  | [_] => simp [filed]
  | _ :: _ :: _ => simp [filed]

theorem addValue_filed (value : String) (values : List String) :
    some (addValue value (filed values)) = filed (values ++ [value]) := by
  match values with
  | [] => rfl
  | [_] => rfl
  | first :: second :: rest => simp [filed, addValue]

/-- The first of the values that are filed. -/
def firstText? : Json → Option String
  | .str value => some value
  | .arr (.str value :: _) => some value
  | _ => none

theorem bind_filed (values : List String) : (filed values).bind firstText? = values.head? := by
  match values with
  | [] => rfl
  | [_] => rfl
  | _ :: _ :: _ => rfl

/-- A table holds the values of headers under their names, and nothing else. -/
structure Files (headers : List Header) (table : Table Json) : Prop where
  ordered : table.Ordered
  find?_eq : ∀ key, table.find? key = filed (valuesUnder headers key)

/-- Files one more header. -/
def file (table : Table Json) (header : Header) : Table Json :=
  table.insert header.name.toLower (addValue header.value (table.find? header.name.toLower))

theorem headersJson_eq (headers : List Header) : headersJson headers = .obj (headers.foldl file []) := rfl

namespace Files

theorem nothing : Files [] [] := ⟨Table.ordered_nil, fun _ => rfl⟩

theorem step (files : Files before table) (header : Header) :
    Files (before ++ [header]) (file table header) where
  ordered := Table.ordered_insert _ _ files.ordered
  find?_eq key := by
    rw [valuesUnder_concat, file]
    by_cases same : header.name.toLower = key
    · rw [if_pos same, same, Table.find?_insert_self, files.find?_eq, addValue_filed]
    · rw [if_neg same, List.append_nil, Table.find?_insert_of_ne _ _ (Ne.symm same), files.find?_eq]

theorem run (files : Files before table) (headers : List Header) :
    Files (before ++ headers) (headers.foldl file table) := by
  induction headers generalizing before table with
  | nil => rwa [List.append_nil]
  | cons header rest ih =>
    rw [List.foldl_cons, ← List.singleton_append, ← List.append_assoc]
    exact ih (files.step header)

theorem mem_keys_iff (files : Files headers table) :
    key ∈ table.keys ↔ ∃ header ∈ headers, header.name.toLower = key := by
  rw [Table.mem_keys_iff files.ordered, ← valuesUnder_ne_nil_iff, Ne, ← filed_eq_none_iff, ← files.find?_eq,
    ← Ne, Option.ne_none_iff_exists']

theorem extractHeader_eq (files : Files headers table) (name : String) :
    extractHeader headers name = (table.find? (Text.trim name).toLower).bind firstText? := by
  rw [extractHeader, findHeader_eq_head?, files.find?_eq, bind_filed]

end Files

/-- The document of headers is an object with the names in small letters for keys, in their order. Under a key
stands the value of the one header of that name, in whatever case, or the list of the values of all of them
in order; and the value that is found for a name without outer blanks is the first one under its key. -/
theorem headers_grouped (headers : List Header) :
    ∃ members : Table Json, headersJson headers = .obj members ∧ members.Ordered ∧
      (∀ key, key ∈ members.keys ↔ ∃ header ∈ headers, header.name.toLower = key) ∧
      (∀ key, members.find? key = filed (valuesUnder headers key)) ∧
      ∀ name, Text.trim name = name →
        extractHeader headers name = (members.find? name.toLower).bind firstText? := by
  have files : Files headers (headers.foldl file []) := Files.nothing.run headers
  refine ⟨_, headersJson_eq headers, files.ordered, fun _ => files.mem_keys_iff, files.find?_eq, ?_⟩
  intro name trimmed
  rw [files.extractHeader_eq, trimmed]

/-- Two cookies around another header are filed as a list under one name, and the first of them is found. -/
theorem headers_grouped_cookies :
    let headers : List Header := [⟨"Set-Cookie", "a=1"⟩, ⟨"ETag", "x"⟩, ⟨"set-cookie", "b=2"⟩]
    Text.trim "SET-COOKIE" = "SET-COOKIE" ∧ ∃ members : Table Json, headersJson headers = .obj members ∧
      members.find? "set-cookie" = some (.arr [.str "a=1", .str "b=2"]) ∧
      extractHeader headers "SET-COOKIE" = some "a=1" := by
  intro headers
  obtain ⟨members, shape, -, -, find?_eq, found⟩ := headers_grouped headers
  have values : valuesUnder headers "set-cookie" = ["a=1", "b=2"] := by decide +kernel
  have cookies : members.find? "set-cookie" = some (.arr [.str "a=1", .str "b=2"]) := by
    rw [find?_eq, values]
    rfl
  have trimmed : Text.trim "SET-COOKIE" = "SET-COOKIE" := by decide
  have lower : "SET-COOKIE".toLower = "set-cookie" := by decide +kernel
  have first := found "SET-COOKIE" trimmed
  rw [lower, cookies] at first
  exact ⟨trimmed, members, shape, cookies, first⟩

end ApiProbe.Http
