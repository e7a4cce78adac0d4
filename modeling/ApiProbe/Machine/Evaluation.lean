import ApiProbe.Machine.Member
import ApiProbe.Machine.Probe
import ApiProbe.Machine.Callback

/-!
Evaluation of plain scripts. Every function takes fuel, which bounds how deep it recurs and how often
its loops go round; a script that would need more has run out of time long before. A method may
change what it is called on, so steps of a chain give back the changed value, and whatever holds it
takes it up. Functions that a script defines come before those that it finds.
-/
namespace ApiProbe.Machine
open Plain

variable {σ : Type}

def ofLiteral : Literal → Value
  | .unit => .unit
  | .bool value => .bool value
  | .int n => .int n
  | .float x => .float x
  | .char c => .char c
  | .text value => .str value

/-- A step of a chain with its arguments or its key evaluated. -/
inductive Step
  | property (name : String) (optional : Bool) (place : Position)
  | method (name : String) (args : List Value) (optional : Bool) (place : Position)
  /-- A method that the script has a function for. -/
  | defined (f : Function) (args : List Value) (optional : Bool) (place : Position)
  | index (key : Value) (optional : Bool) (place : Position)

def Step.isOptional : Step → Bool
  | .property _ optional _ | .method _ _ optional _ | .defined _ _ optional _ | .index _ optional _ =>
    optional

/-- What is done at the end of a chain. -/
inductive Goal
  | read
  | write (operator : Option String) (value : Value) (place : Position)

/-- A value, and the target as it is now if it was changed. -/
abbrev Visit := Value × Option Value

def boolean (place : Position) : Value → Run σ Bool
  | .bool value => pure value
  | other => Run.failAt place (.mismatch "bool" other.kindName)

/-- Evaluates operands up to the first one that settles the matter. -/
def settle (evaluate : Expr → Run σ Value) (settles : Expr → Value → Run σ Bool) (value : Value) :
    List Expr → Run σ Value
  | [] => pure value
  | operand :: rest => do
    let value ← evaluate operand
    if ← settles operand value then pure value else settle evaluate settles value rest

/-- Whether an operand settles the matter for a connective. -/
def settles (connective : Connective) (operand : Expr) (value : Value) : Run σ Bool := do
  match connective with
  | .both => pure !(← boolean operand.place value)
  | .either => boolean operand.place value
  | .present => pure !value.isUnit

/-- The value of an expression, or the unit where none stands. -/
def valueOf (evaluate : Expr → Run σ Value) : Option Expr → Run σ Value
  | some value => evaluate value
  | none => pure .unit

/-- The values of arguments. A variable in the first place is read when the others have their values. -/
def arguments (setup : Setup σ) (evaluate : Expr → Run σ Value) : List Expr → Run σ (List Value)
  | .variable_ name place :: rest => do
    let others ← rest.mapM evaluate
    pure ((← Run.lookUp setup name place) :: others)
  | .self place :: rest => do
    let others ← rest.mapM evaluate
    pure ((← Run.receiver place) :: others)
  | args => args.mapM evaluate

/-- Whether a loop goes round; it does if it has no condition. -/
def goesOn (evaluate : Expr → Run σ Value) : Option Expr → Run σ Bool
  | some condition => do boolean condition.place (← evaluate condition)
  | none => pure true

mutual

/-- The value of a constant. -/
def constant : Expr → Value
  | .literal value => ofLiteral value
  | .list items _ => .list (constants items)
  | .record members _ => .record (Table.ofPairs (constantMembers members))
  | .template pieces _ => .str (String.join ((constants pieces).map Value.display))
  | _ => .unit

def constants : List Expr → List Value
  | [] => []
  | item :: rest => constant item :: constants rest

def constantMembers : List (String × Expr) → List (String × Value)
  | [] => []
  | (key, value) :: rest => (key, constant value) :: constantMembers rest

end

/-- Whether a number lies in a range. -/
def inRange (first last : Int) (closed : Bool) : Value → Bool
  | .int n => first ≤ n && (n < last || closed && n == last)
  | .float x =>
    let number := Exact.ofFloat x
    let low := number.compare? (.ofInt first)
    let high := number.compare? (.ofInt last)
    (low == some .gt || low == some .eq) && (high == some .lt || closed && high == some .eq)
  | _ => false

/-- How a label is for a value: as the same constant, or as a range that it lies in. -/
inductive Fit
  | same | inside
  deriving DecidableEq

def fit? (value : Value) : Expr → Option Fit
  | .call sign [.literal (.int first), .literal (.int last)] _ =>
    if inRange first last (sign == "..=") value then some .inside else none
  | label => if value.identical (constant label) then some .same else none

/-- The cases for a value, each as often as its labels say so. Ranges only matter where no label is
that very value. -/
def casesFor (value : Value) (cases : List Case) : List Case :=
  let fitting (fit : Fit) : List Case := cases.flatMap fun (.mk labels condition action) =>
    (labels.filter fun label => fit? value label == some fit).map fun _ => .mk labels condition action
  let same := fitting .same
  if same.isEmpty then fitting .inside else same

/-- What is done in the first case whose condition holds. -/
def chosen (evaluate : Expr → Run σ Value) (otherwise : Option Stmt) : List Case → Run σ (Option Stmt)
  | [] => pure otherwise
  | .mk _ none action :: _ => pure (some action)
  | .mk _ (some condition) action :: rest => do
    if ← boolean condition.place (← evaluate condition) then pure (some action)
    else chosen evaluate otherwise rest

/-- What a script gets of a module. There are no modules, nor names of the script itself that would be
found like those of a module. -/
def foreignFault (module name : String) (called : Bool) : Fault :=
  if module == "global" && !called then .variableNotFound ("global::" ++ name)
  else .moduleNotFound module

/-- Whether a record has a closure under a name. -/
def hasClosure (name : String) : Value → Bool
  | .record members =>
    match Table.find? members name with
    | some (.closure ..) => true
    | _ => false
  | _ => false

/-- A function that is looked for by its name when it is called. -/
def pointer : Value → Except Fault Value
  | .str name =>
    if isFunctionName name then .ok (.closure (.named name) [])
    else .error (if isTaken name then .reserved name else .noFunctionName name)
  | other => .error (.mismatch "string" other.kindName)

/-- How many arguments a function takes besides those that it comes with. One that is known by its name
takes as few as the script defines it for. -/
def arity (setup : Setup σ) (f : Function) (captured : List (Slot Value)) : Nat :=
  match f.body with
  | some _ => f.captured.length + f.params.length - captured.length
  | none =>
    let counts := (setup.functions.filter (·.name == f.name)).map (·.params.length)
    (counts.min?.map (· - captured.length)).getD 1

/-- A closure made ready to be called by a function that it was handed to, as if from outside of the
script. -/
def handed (setup : Setup σ)
    (call : Function → List (Slot Value) → Option Value → List Value → Run σ Visit) :
    Value → Option (Callback σ)
  | .closure f captured =>
    some ⟨arity setup f captured, fun self args =>
      Run.fromOutside do pure (← call f captured self args).1⟩
  | _ => none

/-- A property of a value. Members that a record does not have are the unit. -/
def property (setup : Setup σ) (target : Value) (name : String) (place : Position) : Run σ Value :=
  match target with
  | .record members => pure ((Table.find? members name).getD .unit)
  | .host object =>
    match Probe.property? setup name object with
    | some run => Run.located place run
    | none => Run.failAt place (.unknownProperty name target.kindName)
  | _ =>
    match Library.property? name target with
    | some value => pure value
    | none => Run.failAt place (.unknownProperty name target.kindName)

/-- What the end of a chain puts in place of what is there. -/
def incoming (setup : Setup σ) (operator : Option String) (value : Value) (place : Position)
    (current : Run σ Value) : Run σ Value :=
  match operator with
  | none => pure value
  | some sign => do
    let result ← Run.located place (Run.ofExcept (combined sign (← current) value))
    Run.checkSize setup place result
    pure result

/-- Runs the body of a loop once; a value ends the loop. -/
def onePass (body : Run σ Value) : Run σ (Option Value) := fun state =>
  match body state with
  | .ok _ after => .ok none after
  | .error .next after => .ok none after
  | .error (.leave value) after => .ok (some value) after
  | .error signal after => .error signal after

/-- Runs the body of a function: a value that is given back is its value. -/
def returned (body : Run σ Value) : Run σ Value := fun state =>
  match body state with
  | .error (.giveBack value) after => .ok value after
  | outcome => outcome

/-- Notes on a failure that it left a function. -/
def leaving {α : Type} (name : String) (place : Position) (run : Run σ α) : Run σ α := fun state =>
  match run state with
  | .error (.failure failure) after => .error (.failure (failure.leaveCall name place)) after
  | outcome => outcome

/-- Runs a handler on a failure that can be caught. A handler that throws the unit lets the failure
go on. -/
def guarded (body : Run σ Value) (handler : Failure → Run σ Value) : Run σ Value := fun state =>
  match body state with
  | .ok _ after => .ok .unit after
  | .error (.failure failure) after =>
    if failure.fault.isUncatchable then .error (.failure failure) after
    else
      match handler failure after with
      | .ok _ later => .ok .unit later
      | .error (.failure next) later =>
        match next.fault with
        | .thrown .unit => .error (.failure failure) later
        | _ => .error (.failure next) later
      | .error signal later => .error signal later
  | .error signal after => .error signal after

/-- Where a statement is, if it counts as an operation. -/
def stmtPlace? : Stmt → Option Position
  | .expression value => some value.place
  | .assign _ _ _ place | .whileLoop _ _ place | .doLoop _ _ _ place | .forLoop _ _ _ place
  | .throw_ _ place => some place
  | .declare _ (some value) => some value.place
  | _ => none

mutual

def eval (setup : Setup σ) : Nat → Expr → Run σ Value
  | 0, expr => Run.failAt expr.place .terminated
  | fuel + 1, expr => do
    Run.tick setup expr.place
    match expr with
    | .literal value => pure (ofLiteral value)
    | .variable_ name place => Run.lookUp setup name place
    | .self place => Run.receiver place
    | .list items place =>
      let value := Value.list (← items.mapM (eval setup fuel))
      Run.checkSize setup place value
      pure value
    | .record members place =>
      let pairs ← members.mapM fun (key, value) => do pure (key, ← eval setup fuel value)
      let value := Value.record (Table.ofPairs pairs)
      Run.checkSize setup place value
      pure value
    | .template pieces place =>
      let values ← pieces.mapM (eval setup fuel)
      let value := Value.str (String.join (values.map Value.display))
      Run.checkSize setup place value
      pure value
    | .call name args place =>
      match setup.defined? name args.length with
      | some f => ask setup fuel f args place
      | none => call setup fuel name args place
    | .foreign module name called args place =>
      discard (args.mapM (eval setup fuel))
      Run.failAt place (foreignFault module name called)
    | .logic connective operands _ => settle (eval setup fuel) (settles connective) .unit operands
    | .chain root links =>
      let steps ← links.mapM (prepared setup fuel)
      follow setup fuel root steps .read
    | .statement body _ => Run.inBlock (exec setup fuel body)
    | .closure number params captured body _ =>
      let slots ← captured.mapM fun (name, place) => Run.share name place
      pure (.closure ⟨closureName number, captured.map Prod.fst, params, some body⟩ slots)

/-- Evaluates what a step of a chain needs. -/
def prepared (setup : Setup σ) : Nat → Link → Run σ Step
  | 0, _ => Run.fail .terminated
  | fuel + 1, link => do
    match link with
    | .property name optional place => pure (.property name optional place)
    | .method name args optional place =>
      let values ← args.mapM (eval setup fuel)
      match setup.defined? name args.length with
      | some f => pure (.defined f values optional place)
      | none => pure (.method name values optional place)
    | .index key optional place => pure (.index (← eval setup fuel key) optional place)

/-- Goes along a chain from its root, and lets the root take up what was changed. -/
def follow (setup : Setup σ) : Nat → Expr → List Step → Goal → Run σ Value
  | 0, root, _, _ => Run.failAt root.place .terminated
  | fuel + 1, root, steps, goal => do
    match root with
    | .variable_ name place =>
      let (value, changed) ← walk setup fuel (← Run.lookUp setup name place) steps goal
      if let some target := changed then discard (Run.update name target)
      pure value
    | .self place =>
      let (value, changed) ← walk setup fuel (← Run.receiver place) steps goal
      if let some target := changed then Run.setReceiver target
      pure value
    | _ => pure (← walk setup fuel (← eval setup fuel root) steps goal).1

/-- Goes along a chain from a target. -/
def walk (setup : Setup σ) : Nat → Value → List Step → Goal → Run σ Visit
  | 0, _, _, _ => Run.fail .terminated
  | _ + 1, target, [], _ => pure (target, none)
  | fuel + 1, target, step :: rest, goal => do
    if step.isOptional && target.isUnit then pure (.unit, none)
    else
      match step with
      | .property name _ place =>
        match rest, goal with
        | [], .write operator value mark =>
          let value ← incoming setup operator value mark (property setup target name place)
          let changed ← Run.located place (Run.ofExcept (withProperty target name value))
          pure (.unit, some changed)
        | _, _ =>
          let member ← property setup target name place
          let (value, changed) ← walk setup fuel member rest goal
          match target, changed with
          | .record members, some member =>
            pure (value, some (.record (Table.insert name member members)))
          | _, _ => pure (value, none)
      | .method name args _ place =>
        let (value, changed) ← method setup fuel target name args place
        let (value, _) ← walk setup fuel value rest goal
        pure (value, changed)
      | .defined f args _ place =>
        let (value, changed) ←
          if hasClosure f.name target then method setup fuel target f.name args place
          else callDefined setup fuel f (some target) args place
        let (value, _) ← walk setup fuel value rest goal
        pure (value, changed)
      | .index key _ place =>
        let current := Run.located place (Run.ofExcept (item target key))
        match rest, goal with
        | [], .write operator value mark =>
          let value ← incoming setup operator value mark current
          pure (.unit, some (← Run.located place (Run.ofExcept (withItem target key value))))
        | _, _ =>
          let (value, changed) ← walk setup fuel (← current) rest goal
          match changed with
          | some inner =>
            pure (value, some (← Run.located place (Run.ofExcept (withItem target key inner))))
          | none => pure (value, none)

/-- Calls a method of a target: what is made for closures, a closure that the target has as a member,
or else a function that takes the target as its first argument. -/
def method (setup : Setup σ) :
    Nat → Value → String → List Value → Position → Run σ Visit
  | 0, _, _, _, place => Run.failAt place .terminated
  | fuel + 1, target, name, args, place => do
    match target, name, args with
    | .closure f captured, "call", args => callClosure setup fuel f captured none args place
    | .closure f captured, "curry", args => pure (.closure f (captured ++ args.map .own), none)
    | target, "call", .closure f captured :: args =>
      callClosure setup fuel f captured (some target) args place
    | _, "call", other :: _ => Run.failAt place (.mismatch "Fn" other.kindName)
    | .record members, name, args =>
      match Table.find? members name with
      | some (.closure f captured) =>
        callClosure setup fuel f captured (some (.record members)) args place
      | _ => invoke setup fuel name (.record members :: args) place
    | target, name, args => invoke setup fuel name (target :: args) place

/-- Calls a function by its name. If its first argument is a variable, the variable takes up what
the function makes of it; the other arguments then come first. -/
def call (setup : Setup σ) : Nat → String → List Expr → Position → Run σ Value
  | 0, _, _, place => Run.failAt place .terminated
  | fuel + 1, name, args, place => do
    match args with
    | .variable_ receiver mark :: rest =>
      let others ← rest.mapM (eval setup fuel)
      let target ← Run.lookUp setup receiver mark
      let (value, changed) ← invoke setup fuel name (target :: others) place
      if let some target := changed then discard (Run.update receiver target)
      pure value
    | .self mark :: rest =>
      let others ← rest.mapM (eval setup fuel)
      let (value, changed) ← invoke setup fuel name ((← Run.receiver mark) :: others) place
      if let some target := changed then Run.setReceiver target
      pure value
    | args => pure (← invoke setup fuel name (← args.mapM (eval setup fuel)) place).1

/-- Calls a function of the script. -/
def ask (setup : Setup σ) : Nat → Function → List Expr → Position → Run σ Value
  | 0, _, _, place => Run.failAt place .terminated
  | fuel + 1, f, args, place => do
    let values ← arguments setup (eval setup fuel) args
    pure (← callDefined setup fuel f none values place).1

/-- Calls a function of the script with its arguments. -/
def callDefined (setup : Setup σ) :
    Nat → Function → Option Value → List Value → Position → Run σ Visit
  | 0, _, _, _, place => Run.failAt place .terminated
  | fuel + 1, f, self, args, place =>
    if f.isEmpty then pure (.unit, none) else callClosure setup fuel f [] self args place

/-- Calls a function with its arguments. -/
def invoke (setup : Setup σ) : Nat → String → List Value → Position → Run σ Visit
  | 0, _, _, place => Run.failAt place .terminated
  | fuel + 1, name, args, place => do
    Run.tick setup place
    match name, args with
    | "call", .closure f captured :: args => callClosure setup fuel f captured none args place
    | "curry", .closure f captured :: args =>
      pure (.closure f (captured ++ args.map .own), none)
    | "call", other :: _ => Run.failAt place (.mismatch "Fn" other.kindName)
    | "Fn", [value] => do pure (← Run.located place (Run.ofExcept (pointer value)), none)
    | _, _ =>
      let prepare := handed setup fun f captured self args =>
        callClosure setup fuel f captured self args place
      let reply : Run σ Reply :=
        match Callback.call? prepare name args, Probe.call? setup name args with
        | some run, _ => run
        | none, some run => do pure (.just (← run))
        | none, none =>
          match Library.call? name args with
          | some outcome => Run.ofExcept outcome
          | none => Run.fail (.functionNotFound name args)
      let ⟨value, changed⟩ ← Run.located place reply
      if let some target := changed then Run.checkSize setup place target
      Run.checkSize setup place value
      pure (value, changed)

/-- Calls a closure, or the function that it names. What it captured comes before its arguments. -/
def callClosure (setup : Setup σ) :
    Nat → Function → List (Slot Value) → Option Value → List Value → Position → Run σ Visit
  | 0, _, _, _, _, place => Run.failAt place .terminated
  | fuel + 1, f, captured, self, args, place => do
    let names := f.captured ++ f.params
    let slots := captured ++ args.map .own
    match f.body with
    | none => callNamed setup fuel f.name self (← slots.mapM Run.readSlot) place
    | some body =>
      if names.length != slots.length then
        Run.failAt place (.functionNotFound f.name (← slots.mapM Run.readSlot))
      else
        Run.tick setup place
        let level := (← get).frame.level + 1
        if level > setup.maxLevels then Run.failAt place .stackOverflow
        else
          leaving f.name place
            (Run.inFrame ⟨(names.zip slots).reverse, self, level⟩ (returned (exec setup fuel body)))

/-- Calls whatever function has a name, on a receiver if there is one. -/
def callNamed (setup : Setup σ) :
    Nat → String → Option Value → List Value → Position → Run σ Visit
  | 0, _, _, _, place => Run.failAt place .terminated
  | fuel + 1, name, self, args, place =>
    match setup.defined? name args.length with
    | some f => callDefined setup fuel f self args place
    | none => invoke setup fuel name (self.toList ++ args) place

def exec (setup : Setup σ) : Nat → Stmt → Run σ Value
  | 0, _ => Run.fail .terminated
  | fuel + 1, statement => do
    if let some place := stmtPlace? statement then Run.tick setup place
    match statement with
    | .expression value => eval setup fuel value
    | .declare name value =>
      Run.declare name (← valueOf (eval setup fuel) value)
      pure .unit
    | .assign operator target value place =>
      assign setup fuel operator target (← eval setup fuel value) place
    | .block body => block setup fuel body
    | .branch condition yes no =>
      if ← boolean condition.place (← eval setup fuel condition) then block setup fuel yes
      else block setup fuel no
    | .choice value cases otherwise =>
      let value ← eval setup fuel value
      match ← chosen (eval setup fuel) otherwise (casesFor value cases) with
      | some action => Run.inBlock (exec setup fuel action)
      | none => pure .unit
    | .whileLoop condition body place => whileLoop setup fuel condition body place
    | .doLoop body condition stopsOn place => doLoop setup fuel body condition stopsOn place
    | .forLoop name items body place =>
      match Course.of? (← eval setup fuel items) with
      | some course =>
        Run.inBlock do
          Run.declare name .unit
          forLoop setup fuel name course body place
      | none => Run.failAt items.place .notIterable
    | .leave value => throw (.leave (← valueOf (eval setup fuel) value))
    | .next => throw .next
    | .giveBack value => throw (.giveBack (← valueOf (eval setup fuel) value))
    | .throw_ value place => Run.failAt place (.thrown (← valueOf (eval setup fuel) value))
    | .attempt body name handler =>
      guarded (block setup fuel body) fun failure =>
        Run.inBlock do
          if let some name := name then Run.declare name failure.caught
          block setup fuel handler
    | .importModule path place =>
      match ← eval setup fuel path with
      | .str text => Run.failAt place (.moduleNotFound text)
      | other => Run.failAt place (.mismatch "string" other.kindName)
    | .exportName name place =>
      match ← Run.slot? name with
      | some _ => pure .unit
      | none => Run.failAt place (.variableNotFound name)

/-- Gives the target of an assignment its value. -/
def assign (setup : Setup σ) : Nat → Option String → Expr → Value → Position → Run σ Value
  | 0, _, _, _, place => Run.failAt place .terminated
  | fuel + 1, operator, target, value, place => do
    match target with
    | .variable_ name mark =>
      let value ← incoming setup operator value place (Run.lookUp setup name mark)
      Run.store setup name value mark
      pure .unit
    | .self mark =>
      let value ← incoming setup operator value place (Run.receiver mark)
      discard (Run.receiver mark)
      Run.setReceiver value
      pure .unit
    | .chain root links =>
      let steps ← links.mapM (prepared setup fuel)
      discard (follow setup fuel root steps (.write operator value place))
      pure .unit
    | other =>
      discard (eval setup fuel other)
      pure .unit

/-- Runs statements in a block of their own; its value is that of the last one. -/
def block (setup : Setup σ) : Nat → List Stmt → Run σ Value
  | 0, _ => Run.fail .terminated
  | fuel + 1, body => Run.inBlock (body.foldlM (fun _ statement => exec setup fuel statement) .unit)

def whileLoop (setup : Setup σ) : Nat → Option Expr → List Stmt → Position → Run σ Value
  | 0, _, _, place => Run.failAt place .terminated
  | fuel + 1, condition, body, place => do
    Run.tick setup place
    if ← goesOn (eval setup fuel) condition then
      match ← onePass (block setup fuel body) with
      | some value => pure value
      | none => whileLoop setup fuel condition body place
    else pure .unit

def doLoop (setup : Setup σ) : Nat → List Stmt → Expr → Bool → Position → Run σ Value
  | 0, _, _, _, place => Run.failAt place .terminated
  | fuel + 1, body, condition, stopsOn, place => do
    Run.tick setup place
    match ← onePass (block setup fuel body) with
    | some value => pure value
    | none =>
      if (← boolean condition.place (← eval setup fuel condition)) == stopsOn then pure .unit
      else doLoop setup fuel body condition stopsOn place

def forLoop (setup : Setup σ) :
    Nat → String → Course → List Stmt → Position → Run σ Value
  | 0, _, _, _, place => Run.failAt place .terminated
  | fuel + 1, name, course, body, place => do
    match course.next? with
    | none => pure .unit
    | some (value, rest) =>
      Run.tick setup place
      Run.store setup name value place
      match ← onePass (block setup fuel body) with
      | some value => pure value
      | none => forLoop setup fuel name rest body place

end

/-- Runs a whole script. -/
def runScript (setup : Setup σ) (fuel : Nat) (script : List Stmt) : Run σ Value :=
  returned (script.foldlM (fun _ statement => exec setup fuel statement) .unit)

end ApiProbe.Machine
