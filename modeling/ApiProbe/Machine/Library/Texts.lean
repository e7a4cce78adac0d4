import ApiProbe.Machine.Library.Basic
import ApiProbe.Text.Casing
import ApiProbe.Text.Search
import ApiProbe.Text.Numeral
import ApiProbe.Text.Base64
import ApiProbe.Regex.Replacement

/-!
Functions of texts. Places are counted in characters. A few of them change the text that they are
called on and give nothing back.
-/
namespace ApiProbe.Machine.Library

def str (chars : List Char) : Value := .str (String.ofList chars)

/-- What a text can be asked for, as a function or as a property. -/
def ofText? (name : String) (text : String) : Option Value :=
  match name with
  | "len" => some (.int text.length)
  | "bytes" => some (.int text.utf8ByteSize)
  | "is_empty" => some (.bool text.isEmpty)
  | _ => none

/-- A pattern of a script, or the complaint about it. -/
def compile (pattern : String) : Except Fault Regex :=
  match Regex.compile pattern with
  | .ok regex => .ok regex
  | .error error => .error (.say s!"Invalid pattern '{pattern}': {error.message}")

def decodeBase64 (text : String) : Result :=
  match Text.Base64.decodeBytes (Text.bytesOf (Text.trim text)) with
  | .error fault => .error (.say s!"atob: {fault.message}")
  | .ok bytes =>
    match Text.decode bytes with
    | .ok decoded => .ok (.str decoded)
    | .error error => .error (.say s!"atob: {error.message}")

/-- An integer that takes up a whole text. -/
def wholeInteger (base : Int) (text : String) : Result :=
  if base < 2 || base > 36 then .error (.arithmetic s!"Invalid radix: '{base}'")
  else
    match Text.wholeInteger base.toNat (Text.trimChars text.toList) with
    | .ok n => .ok (.int n)
    | .error fault =>
      .error (.arithmetic s!"Error parsing integer number '{text}': {fault.message}")

def wholeFloat (text : String) : Result :=
  let chars := Text.trimChars text.toList
  match Decimal.readFloat? chars with
  | some x => .ok (.float x)
  | none =>
    let reason :=
      if chars.isEmpty then "cannot parse float from empty string" else "invalid float literal"
    .error (.arithmetic s!"Error parsing floating-point number '{text}': {reason}")

/-- Functions of one text. -/
def textCall? (name text : String) : Answer :=
  match name with
  | "size" => .value (.int text.length)
  | "trim" => .value (.str (Text.trim text))
  | "trimStart" => .value (.str (Text.trimStart text))
  | "trimEnd" => .value (.str (Text.trimEnd text))
  | "toUpperCase" | "to_upper" => .value (.str (Text.upper text))
  | "toLowerCase" | "to_lower" => .value (.str (Text.lower text))
  | "make_upper" => .change (.str (Text.upper text))
  | "make_lower" => .change (.str (Text.lower text))
  | "clear" => .change (.str "")
  | "chars" | "to_chars" => .value (.list (text.toList.map .char))
  | "split" => .value (.list ((Text.words Text.isBlank text.toList).map str))
  | "pop" =>
    match text.toList.getLast? with
    | some last => .both (.char last) (str text.toList.dropLast)
    | none => .value .unit
  | "btoa" => .value (.str (Text.Base64.encode text))
  | "atob" => .ofResult (decodeBase64 text)
  | "parseInt" => .value (((Text.leadingInteger? 10 text).map Value.int).getD .unit)
  | "parseFloat" => .value (((Text.leadingFloat? text).map Value.float).getD .unit)
  | "parse_int" => .ofResult (wholeInteger 10 text)
  | "parse_float" => .ofResult (wholeFloat text)
  | _ => (ofText? name text).bind Answer.value

/-- The place of a text in another one from a place on, or minus one. -/
def indexFrom (text part : List Char) (start : Int) : Int :=
  let first := if start < 0 then max (start + text.length) 0 else start
  if start > 0 && start ≥ text.length then -1
  else
    match Text.indexOf? part (text.drop first.toNat) with
    | some index => first + index
    | none => -1

/-- Functions of two texts, of which the second may be a single character. -/
def pairCall? (name text part : String) : Answer :=
  let chars := text.toList
  match name with
  | "includes" | "contains" => .value (.bool (Text.indexOf? part.toList chars).isSome)
  | "startsWith" | "starts_with" => .value (.bool (text.startsWith part))
  | "endsWith" | "ends_with" => .value (.bool (part.toList.isSuffixOf chars))
  | "indexOf" | "index_of" =>
    .value (.int (((Text.indexOf? part.toList chars).map Int.ofNat).getD (-1)))
  | "split" => .value (.list ((Text.cutAll part.toList chars).map str))
  | "split_rev" => .value (.list ((Text.cutAllRight part.toList chars).map str))
  | "remove" => .change (str (Text.replaceAll part.toList [] chars))
  | "append" => .change (.str (text ++ part))
  | "matches" => .ofResult ((compile part).map fun regex => .bool (regex.matches_ text))
  | _ => none

/-- Functions of a text and two more. -/
def tripleCall? (name text a b : String) : Answer :=
  match name with
  | "replace" => .value (str (Text.replaceFirst a.toList b.toList text.toList))
  | "replaceAll" => .value (str (Text.replaceAll a.toList b.toList text.toList))
  | "replaceRegex" => .ofResult ((compile a).map fun regex => .str (regex.replace text b false))
  | "replaceRegexAll" => .ofResult ((compile a).map fun regex => .str (regex.replace text b true))
  | _ => none

/-- Functions of a text and a place or a number. -/
def placeCall? (name text : String) (n : Int) : Answer :=
  let chars := text.toList
  let (first, _) := stretch chars.length n 0
  match name with
  | "substring" => .value (str (Text.substring chars n Decimal.int64Max))
  | "sub_string" => .value (str (chars.drop first))
  | "crop" => .change (str (chars.drop first))
  | "truncate" => .change (str (chars.take n.toNat))
  | "pop" =>
    let kept := chars.length - n.toNat
    .both (str (chars.drop kept)) (str (chars.take kept))
  | "get" => .value (((indexIn? chars.length n).bind fun i => (chars[i]?).map Value.char).getD .unit)
  | "split" => .value (.list [str (chars.take first), str (chars.drop first)])
  | "parseInt" => .value (((Text.leadingInteger? n text).map Value.int).getD .unit)
  | "parse_int" => .ofResult (wholeInteger n text)
  | _ => none

/-- Functions of a text and a stretch of it. -/
def stretchCall? (name text : String) (first length : Nat) : Answer :=
  let part := (text.toList.drop first).take length
  match name with
  | "sub_string" => .value (str part)
  | "crop" => .change (str part)
  | _ => none

/-- Fills a text up to a length with copies of another one. -/
def padText (text : String) (length : Int) (filler : String) : String :=
  let missing := length.toNat - text.length
  if filler.isEmpty then text
  else String.ofList (text.toList ++ ((List.replicate missing filler.toList).flatten).take missing)

/-- Functions of two texts and a place or a number. -/
def countedCall? (name text part : String) (n : Int) : Answer :=
  let chars := text.toList
  match name with
  | "index_of" => .value (.int (indexFrom chars part.toList n))
  | "split" => .value (.list ((Text.cutSome part.toList (n.toNat - 1) chars).map str))
  | "split_rev" => .value (.list ((Text.cutSomeRight part.toList (n.toNat - 1) chars).map str))
  | _ => none

/-- Replaces all occurrences in the text itself. -/
def replaceCall? (name text a b : String) : Answer :=
  if name == "replace" then .change (str (Text.replaceAll a.toList b.toList text.toList)) else none

/-- The other case of a character, unless that is more than one. -/
def caseOf (c : Char) : List Char → Value
  | [other] => .char other
  | _ => .char c

def charCall? (name : String) (c : Char) : Answer :=
  match name with
  | "to_upper" => .value (caseOf c (Text.upperChars c))
  | "to_lower" => .value (caseOf c (Text.lowerChars c))
  | "make_upper" => .change (caseOf c (Text.upperChars c))
  | "make_lower" => .change (caseOf c (Text.lowerChars c))
  | "to_int" => .value (.int c.toNat)
  | _ => none

def texts? (name : String) (args : List Value) : Answer :=
  match args with
  | [.str text] => textCall? name text
  | [.str text, .str part] => pairCall? name text part
  | [.str text, .char c] =>
    if ["contains", "index_of", "split", "split_rev", "remove", "append"].contains name then
      pairCall? name text (String.singleton c)
    else none
  | [.str text, .str a, .str b] => tripleCall? name text a b
  | [.str text, .int n] => placeCall? name text n
  | [.str text, .range first last closed] =>
    let (start, length) := rangeStretch text.length first last closed
    stretchCall? name text start length
  | [.str text, .int a, .int b] =>
    if name == "substring" then .value (str (Text.substring text.toList a b))
    else
      let (start, length) := stretch text.length a b
      stretchCall? name text start length
  | [.str text, .int n, .str filler] =>
    if name == "pad" then .change (.str (padText text n filler)) else none
  | [.str text, .int n, .char c] =>
    match name, indexIn? text.length n with
    | "pad", _ => .change (.str (padText text n (String.singleton c)))
    | "set", some index => .change (str (text.toList.set index c))
    | "set", none => .change (.str text)
    | _, _ => none
  | [.str text, .str part, .int n] => countedCall? name text part n
  | [.str text, .char c, .int n] => countedCall? name text (String.singleton c) n
  | [.str text, .char a, .char b] => replaceCall? name text (String.singleton a) (String.singleton b)
  | [.str text, .char a, .str b] => replaceCall? name text (String.singleton a) b
  | [.str text, .str a, .char b] => replaceCall? name text a (String.singleton b)
  | [.char c] => charCall? name c
  | _ => none

end ApiProbe.Machine.Library
