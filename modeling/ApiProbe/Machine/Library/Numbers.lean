import ApiProbe.Machine.Library.Basic

/-!
Functions of numbers.
-/
namespace ApiProbe.Machine.Library

/-- Digits of an integer to a base; negative ones show their 64 bits. -/
def digitsText (base : Nat) (n : Int) : String :=
  String.ofList (Nat.toDigits base (if n < 0 then (n + Nat.pow 2 64).toNat else n.toNat))

/-- What an integer can be asked for, as a function or as a property. -/
def ofInteger? (name : String) (n : Int) : Option Value :=
  match name with
  | "is_zero" => some (.bool (n == 0))
  | "is_odd" => some (.bool (n % 2 != 0))
  | "is_even" => some (.bool (n % 2 == 0))
  | _ => none

def integerCall? (name : String) (n : Int) : Answer :=
  match name with
  | "abs" =>
    .ofResult (if Decimal.fits64 n.natAbs then .ok (.int n.natAbs)
      else .error (.arithmetic s!"Negation overflow: -{n}"))
  | "sign" => .value (.int n.sign)
  | "to_int" | "parseInt" => .value (.int n)
  | "to_float" | "parseFloat" => .value (.float (floatOfInt n))
  | "to_hex" => .value (.str (digitsText 16 n))
  | "to_octal" => .value (.str (digitsText 8 n))
  | "to_binary" => .value (.str (digitsText 2 n))
  | _ => (ofInteger? name n).bind Answer.value

/-- What a floating-point number can be asked for, as a function or as a property. -/
def ofFloat? (name : String) (x : Float) : Option Value :=
  match name with
  | "is_zero" => some (.bool (x == 0.0))
  | "is_nan" => some (.bool x.isNaN)
  | "is_finite" => some (.bool x.isFinite)
  | "is_infinite" => some (.bool x.isInf)
  | "floor" => some (.float x.floor)
  | "ceiling" => some (.float x.ceil)
  | "round" => some (.float x.round)
  | "int" => some (.float (if x < 0.0 then x.ceil else x.floor))
  | "fraction" => some (.float (x - (if x < 0.0 then x.ceil else x.floor)))
  | _ => none

/-- The integer part, if it has 64 bits; the first number beyond them gives the greatest such
integer. What is not a number gives zero. -/
def integerPart (x : Float) : Result :=
  match (Exact.ofFloat x).truncate? with
  | some n =>
    if Decimal.fits64 n then .ok (.int n)
    else if n == Nat.pow 2 63 then .ok (.int Decimal.int64Max)
    else .error (.arithmetic s!"Integer overflow: to_int({Decimal.plain x})")
  | none =>
    if x.isNaN then .ok (.int 0)
    else .error (.arithmetic s!"Integer overflow: to_int({Decimal.plain x})")

/-- Functions of the real numbers. -/
def realFunction? : String → Option (Float → Float)
  | "sqrt" => some Float.sqrt
  | "exp" => some Float.exp
  | "ln" => some Float.log
  | "log" => some Float.log10
  | "sin" => some Float.sin
  | "cos" => some Float.cos
  | "tan" => some Float.tan
  | "sinh" => some Float.sinh
  | "cosh" => some Float.cosh
  | "tanh" => some Float.tanh
  | "asin" => some Float.asin
  | "acos" => some Float.acos
  | "atan" => some Float.atan
  | "asinh" => some Float.asinh
  | "acosh" => some Float.acosh
  | "atanh" => some Float.atanh
  | "to_radians" => some (· * (3.141592653589793 / 180.0))
  | "to_degrees" => some (· * 57.29577951308232)
  | _ => none

def floatCall? (name : String) (x : Float) : Answer :=
  match name with
  | "abs" => .value (.float x.abs)
  | "sign" =>
    if x.isNaN then .fail (.arithmetic "Sign of NaN is undefined")
    else .value (.int (if x > 0.0 then 1 else if x < 0.0 then -1 else 0))
  | "to_int" => .ofResult (integerPart x)
  | _ =>
    match realFunction? name with
    | some f => .value (.float (f x))
    | none => (ofFloat? name x).bind Answer.value

/-- Functions of two floating-point numbers. -/
def floatPair? (name : String) (x y : Float) : Answer :=
  match name with
  | "log" => .value (.float (x.log / y.log))
  | "hypot" => .value (.float (x * x + y * y).sqrt)
  | "atan" => .value (.float (x.atan2 y))
  | _ => none

/-- The greater or the smaller of two values that can be ordered; the second one if they cannot. -/
def pick (name : String) (a b : Value) : Answer :=
  match operator? (if name == "max" then ">=" else "<=") a b with
  | some (.ok (.bool true)) => .value a
  | _ => .value b

/-- The greater or the smaller of two numbers, an integer as a floating-point number beside one. -/
def extreme? (name : String) : List Value → Answer
  | [.int a, .int b] => pick name (.int a) (.int b)
  | [.float a, .float b] => pick name (.float a) (.float b)
  | [.int a, .float b] => pick name (.float (floatOfInt a)) (.float b)
  | [.float a, .int b] => pick name (.float a) (.float (floatOfInt b))
  | [.str a, .str b] => pick name (.str a) (.str b)
  | [.char a, .char b] => pick name (.char a) (.char b)
  | _ => none

def extremeOnly? (name : String) (args : List Value) : Answer :=
  if name == "max" || name == "min" then extreme? name args else none

def numbers? (name : String) (args : List Value) : Answer :=
  match args with
  | [.int n] => integerCall? name n
  | [.float x] => floatCall? name x
  | [.int a, .int b] =>
    match name with
    | "range" => .value (.range a b false)
    | _ => extremeOnly? name args
  | [.float x, .float y] => (floatPair? name x y).or (extremeOnly? name args)
  | [_, _] => extremeOnly? name args
  | [] =>
    match name with
    | "PI" => .value (.float 3.141592653589793)
    | "E" => .value (.float 2.718281828459045)
    | _ => none
  | _ => none

end ApiProbe.Machine.Library
