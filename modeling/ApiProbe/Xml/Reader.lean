import ApiProbe.Xml.Tree
import ApiProbe.Xml.Entity

/-!
Reading XML documents: one root element with, around it, declarations, comments, processing
instructions and a document type, all of which are skipped. An error names the line up to which the
document was read.
-/
namespace ApiProbe.Xml

/-- Constructs that run up to a closing mark. -/
inductive Construct
  | instruction | comment | documentType | attributeValue | cdata
  deriving Repr, DecidableEq

def Construct.name : Construct → String
  | .instruction => "processing instruction"
  | .comment => "comment"
  | .documentType => "DOCTYPE"
  | .attributeValue => "attribute value"
  | .cdata => "CDATA section"

inductive Fault
  | rootMissing
  | contentAfterRoot
  | unterminated (construct : Construct)
  | nameMissing
  | tokenMissing (token : String)
  | unterminatedTag (name : String)
  | valueNotQuoted
  | endTagMissing (name : String)
  | wrongEndTag (expected found : String)
  deriving Repr, DecidableEq

def Fault.reason : Fault → String
  | .rootMissing => "expected root element"
  | .contentAfterRoot => "unexpected content after root element"
  | .unterminated construct => s!"unterminated {construct.name}"
  | .nameMissing => "expected a name"
  | .tokenMissing token => s!"expected '{token}'"
  | .unterminatedTag name => s!"unterminated tag <{name}>"
  | .valueNotQuoted => "expected quoted attribute value"
  | .endTagMissing name => s!"missing </{name}>"
  | .wrongEndTag expected found => s!"expected </{expected}>, found </{found}>"

structure ReadError where
  fault : Fault
  line : Nat
  deriving Repr, DecidableEq

def ReadError.message (error : ReadError) : String :=
  s!"malformed XML at line {error.line}: {error.fault.reason}"

/-- A fault met while reading, with what was still to be read. -/
structure Stop where
  fault : Fault
  rest : List Char

/-- Skips to behind a closing mark and gives what was skipped. -/
def skipPast (mark : String) (construct : Construct) (chars : List Char) :
    Except Stop (List Char × List Char) :=
  match Text.cutAt? mark.toList chars with
  | some found => .ok found
  | none => .error ⟨.unterminated construct, chars⟩

/-- What follows a document type; brackets may enclose declarations with angle brackets. -/
def afterDocumentType? (depth : Nat) : List Char → Option (List Char)
  | [] => none
  | c :: rest =>
    if c == '[' then afterDocumentType? (depth + 1) rest
    else if c == ']' then afterDocumentType? (depth - 1) rest
    else if c == '>' && depth == 0 then some rest
    else afterDocumentType? depth rest

def startsWith (mark : String) (chars : List Char) : Bool := mark.toList.isPrefixOf chars

/-- Skips blanks and everything that is neither an element nor text. -/
def skipMisc : Nat → List Char → Except Stop (List Char)
  | 0, chars => .ok chars
  | fuel + 1, before => do
    let chars := Text.trimLeft before
    if startsWith "<?" chars then
      skipMisc fuel (← skipPast "?>" .instruction chars).2
    else if startsWith "<!--" chars then
      skipMisc fuel (← skipPast "-->" .comment chars).2
    else if startsWith "<!DOCTYPE" chars || startsWith "<!doctype" chars then
      match afterDocumentType? 0 chars with
      | some rest => skipMisc fuel rest
      | none => throw ⟨.unterminated .documentType, chars⟩
    else pure chars

def isNameEnd (c : Char) : Bool := Text.isBlank c || c == '/' || c == '>' || c == '=' || c == '<'

def readName (chars : List Char) : Except Stop (String × List Char) :=
  let name := chars.takeWhile fun c => !isNameEnd c
  if name.isEmpty then .error ⟨.nameMissing, chars⟩
  else .ok (String.ofList name, chars.drop name.length)

def expect (token : Char) (chars : List Char) : Except Stop (List Char) :=
  match chars with
  | c :: rest =>
    if c == token then .ok rest else .error ⟨.tokenMissing (String.singleton token), chars⟩
  | [] => .error ⟨.tokenMissing (String.singleton token), chars⟩

/-- A value in quotes of either kind. -/
def readQuoted (chars : List Char) : Except Stop (String × List Char) :=
  match chars with
  | q :: rest =>
    if q == '"' || q == '\'' then do
      let (raw, after) ← skipPast (String.singleton q) .attributeValue rest
      pure (String.ofList (decodeReferences raw), after)
    else .error ⟨.valueNotQuoted, chars⟩
  | [] => .error ⟨.valueNotQuoted, chars⟩

/-- Name, equal sign and value. -/
def readAttribute (chars : List Char) : Except Stop ((String × String) × List Char) := do
  let (key, afterKey) ← readName chars
  let afterSign ← expect '=' (Text.trimLeft afterKey)
  let (value, rest) ← readQuoted (Text.trimLeft afterSign)
  pure ((key, value), rest)

/-- The rest of a start tag; the flag is true if it is an end tag at the same time. -/
def readTag (name : String) :
    Nat → List Char → Except Stop (List (String × String) × Bool × List Char)
  | 0, chars => .error ⟨.unterminatedTag name, chars⟩
  | fuel + 1, before =>
    match Text.trimLeft before with
    | '/' :: '>' :: rest => .ok ([], true, rest)
    | '>' :: rest => .ok ([], false, rest)
    | [] => .error ⟨.unterminatedTag name, []⟩
    | chars => do
      let (entry, afterEntry) ← readAttribute chars
      let (attributes, closed, rest) ← readTag name fuel afterEntry
      pure (entry :: attributes, closed, rest)

/-- An end tag behind its slash. -/
def readEnd (parent : String) (chars : List Char) : Except Stop (List Char) := do
  let (name, rest) ← readName chars
  if name != parent then throw ⟨.wrongEndTag parent name, rest⟩
  expect '>' (Text.trimLeft rest)

mutual

/-- An element behind its opening angle bracket. -/
def readElement : Nat → List Char → Except Stop (Element × List Char)
  | 0, chars => .error ⟨.nameMissing, chars⟩
  | fuel + 1, chars => do
    let (name, afterName) ← readName chars
    let (attributes, closed, afterTag) ← readTag name (afterName.length + 1) afterName
    if closed then pure (.mk name attributes [], afterTag)
    else
      let (children, rest) ← readContent name fuel afterTag
      pure (.mk name attributes children, rest)

/-- What an element holds, up to and including its end tag. -/
def readContent (parent : String) : Nat → List Char → Except Stop (List Node × List Char)
  | 0, chars => .error ⟨.endTagMissing parent, chars⟩
  | fuel + 1, chars => do
    if chars.isEmpty then throw ⟨.endTagMissing parent, []⟩
    else if startsWith "</" chars then pure ([], ← readEnd parent (chars.drop 2))
    else if startsWith "<!--" chars then
      readContent parent fuel (← skipPast "-->" .comment chars).2
    else if startsWith "<![CDATA[" chars then
      let (data, afterData) ← skipPast "]]>" .cdata (chars.drop 9)
      let (nodes, rest) ← readContent parent fuel afterData
      pure (.text (String.ofList data) :: nodes, rest)
    else if startsWith "<?" chars then
      readContent parent fuel (← skipPast "?>" .instruction chars).2
    else if startsWith "<" chars then
      let (element, afterElement) ← readElement fuel (chars.drop 1)
      let (nodes, rest) ← readContent parent fuel afterElement
      pure (.element element :: nodes, rest)
    else
      let raw := chars.takeWhile (· != '<')
      let (nodes, rest) ← readContent parent fuel (chars.drop raw.length)
      pure (.text (String.ofList (decodeReferences raw)) :: nodes, rest)

end

def readDocument (chars : List Char) : Except Stop Element := do
  let start ← skipMisc (chars.length + 1) chars
  match start with
  | '<' :: rest =>
    let (root, afterRoot) ← readElement (rest.length + 1) rest
    let remaining ← skipMisc (afterRoot.length + 1) afterRoot
    if remaining.isEmpty then pure root else throw ⟨.contentAfterRoot, remaining⟩
  | _ => throw ⟨.rootMissing, start⟩

/-- Line, counted from one, at which what is left of a document starts. -/
def lineBefore (whole rest : List Char) : Nat :=
  (whole.take (whole.length - rest.length)).count '\n' + 1

/-- Reads a document and gives its root element. -/
def read (document : String) : Except ReadError Element :=
  let chars := document.toList
  match readDocument chars with
  | .ok root => .ok root
  | .error stop => .error ⟨stop.fault, lineBefore chars stop.rest⟩

end ApiProbe.Xml
