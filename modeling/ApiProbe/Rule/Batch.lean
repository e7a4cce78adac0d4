import ApiProbe.Extraction
import ApiProbe.Rule.Basic

/-!
Running rules on a response. Rules are run in order; one that fails is reported and the others go
on.
-/
namespace ApiProbe.Rule

/-- Why a rule gave no value. -/
inductive Failure
  | noMatch
  | extraction (error : ExtractionError)
  deriving Repr, DecidableEq

def Failure.message : Failure → String
  | noMatch => "pattern matched nothing"
  | extraction error => error.message

structure Applied where
  rule : Rule
  result : Except Failure String

/-- A rule that gave no value. -/
structure Failed where
  rule : Rule
  failure : Failure

/-- What became of the rules of a batch, and once more those that failed; both in order. -/
structure Report where
  applied : List Applied
  errors : List Failed

def Applied.isSuccess (entry : Applied) : Bool :=
  match entry.result with
  | .ok _ => true
  | .error _ => false

namespace Report

def empty : Report := ⟨[], []⟩

/-- Enters what became of a rule at the end. -/
def add (report : Report) (entry : Applied) : Report :=
  match entry.result with
  | .ok _ => { report with applied := report.applied ++ [entry] }
  | .error failure => ⟨report.applied ++ [entry], report.errors ++ [⟨entry.rule, failure⟩]⟩

def successCount (report : Report) : Nat := (report.applied.filter Applied.isSuccess).length

def hasErrors (report : Report) : Bool := !report.errors.isEmpty

end Report

/-- What became of a rule, as a document. -/
def Applied.toJson (entry : Applied) : Json :=
  let head := [("ruleId", Json.str entry.rule.id), ("ruleName", .str entry.rule.name),
    ("variableName", .str entry.rule.variable_)]
  match entry.result with
  | .ok value => .obj (head ++ [("value", .str value), ("success", .bool true)])
  | .error failure =>
    .obj (head ++ [("value", .null), ("success", .bool false), ("error", .str failure.message)])

/-- A failure of a batch as a document. -/
def Failed.toJson (entry : Failed) : Json :=
  .obj [("ruleId", .str entry.rule.id), ("ruleName", .str entry.rule.name),
    ("message", .str entry.failure.message)]

def Report.toJson (report : Report) : Json :=
  .obj [("applied", .arr (report.applied.map Applied.toJson)),
    ("errors", .arr (report.errors.map Failed.toJson))]

/-- What a rule finds in a response. -/
def find (rule : Rule) (response : Http.Response) :
    Except Extraction.Trouble (Option String) :=
  match rule.method, rule.source with
  | .jsonPath, .body => do
    pure ((← Extraction.fromJson response.body rule.pattern).map Json.display)
  | .jsonPath, .headers => do
    let headers := Http.headersJson response.headers
    pure ((← Extraction.fromDocument headers rule.pattern).map Json.display)
  | .xmlPath, .body => Extraction.fromXml response.body rule.pattern
  | .xmlPath, .headers => .error (.refused .xmlInHeaders)
  | .header, _ => .ok (Http.extractHeader response.headers rule.pattern)
  | .regex, .body => Extraction.fromPattern response.body rule.pattern rule.wantsGroup
  | .regex, .headers =>
    Extraction.fromPattern (Http.headersText response.headers) rule.pattern rule.wantsGroup

/-- Runs one rule: what it finds is written to its variable. -/
def apply (rule : Rule) (response : Http.Response) (store : Store) :
    Except Abort (Applied × Store) :=
  match rule.find response with
  | .error (.aborted abort) => .error abort
  | .error (.refused error) => .ok (⟨rule, .error (.extraction error)⟩, store)
  | .ok none => .ok (⟨rule, .error .noMatch⟩, store)
  | .ok (some value) =>
    match store.write rule.variable_ value none rule.scope .rule with
    | .ok (_, written) => .ok (⟨rule, .ok value⟩, written)
    | .error error => .ok (⟨rule, .error (.extraction (.variable_ error))⟩, store)

/-- Runs rules one after the other and enters in a report what becomes of them. -/
def applyEach (response : Http.Response) :
    List Rule → Report → Store → Except Abort (Report × Store)
  | [], report, store => .ok (report, store)
  | rule :: rest, report, store => do
    let (entry, written) ← rule.apply response store
    applyEach response rest (report.add entry) written

/-- Runs the enabled ones of a list of rules. -/
def applyAll (rules : List Rule) (response : Http.Response) (store : Store) :
    Except Abort (Report × Store) :=
  applyEach response (rules.filter Rule.enabled) .empty store

end ApiProbe.Rule
