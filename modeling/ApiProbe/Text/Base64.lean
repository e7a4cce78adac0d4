import ApiProbe.Text.Utf8

/-!
Base-64 text: six bits to a symbol, in groups of four symbols, the last group filled up with equal
signs. Decoding accepts exactly what encoding produces.
-/
namespace ApiProbe.Text.Base64

def alphabet : List Char :=
  "ABCDEFGHIJKLMNOPQRSTUVWXYZabcdefghijklmnopqrstuvwxyz0123456789+/".toList

def symbol (n : Nat) : Char := (alphabet[n % 64]?).getD '='

def encodeBytes : List UInt8 → List Char
  | a :: b :: c :: rest =>
    let n := (a.toNat * 256 + b.toNat) * 256 + c.toNat
    symbol (n / 262144) :: symbol (n / 4096) :: symbol (n / 64) :: symbol n :: encodeBytes rest
  | [a, b] =>
    let n := (a.toNat * 256 + b.toNat) * 4
    [symbol (n / 4096), symbol (n / 64), symbol n, '=']
  | [a] =>
    let n := a.toNat * 16
    [symbol (n / 64), symbol n, '=', '=']
  | [] => []

def encode (text : String) : String := String.ofList (encodeBytes (bytesOf text))

inductive Fault
  | badByte (index byte : Nat)
  | badLength
  | badLastSymbol (index byte : Nat)
  | badPadding
  deriving Repr, DecidableEq

def Fault.message : Fault → String
  | .badByte index byte => s!"Invalid byte {byte}, offset {index}."
  | .badLength => "Encoded text cannot have a 6-bit remainder."
  | .badLastSymbol index byte => s!"Invalid last symbol {byte}, offset {index}."
  | .badPadding => "Invalid padding"

def pad : Nat := 61

/-- Six bits of a symbol. -/
def value? (byte : Nat) : Option Nat :=
  if 65 ≤ byte && byte ≤ 90 then some (byte - 65)
  else if 97 ≤ byte && byte ≤ 122 then some (byte - 71)
  else if 48 ≤ byte && byte ≤ 57 then some (byte + 4)
  else if byte == 43 then some 62
  else if byte == 47 then some 63
  else none

/-- Reads symbols up to the padding. `padding` is the index of the first padding sign and the
number of them, once there is one. -/
def symbols (index : Nat) (padding : Option (Nat × Nat)) :
    List UInt8 → Except Fault (List Nat × Nat)
  | [] => .ok ([], (padding.map Prod.snd).getD 0)
  | b :: rest =>
    let byte := b.toNat
    match padding with
    | some (first, count) =>
      if byte != pad || index % 4 < 2 then .error (.badByte first pad)
      else symbols (index + 1) (some (first, count + 1)) rest
    | none =>
      if byte == pad then
        if index % 4 < 2 then .error (.badByte index pad)
        else symbols (index + 1) (some (index, 1)) rest
      else
        match value? byte with
        | none => .error (.badByte index byte)
        | some v => (symbols (index + 1) none rest).map fun (vs, count) => (v :: vs, count)

/-- Whole bytes of the symbols, and the value of the bits left over. -/
def pack : List Nat → List UInt8 × Nat
  | a :: b :: c :: d :: rest =>
    let n := ((a * 64 + b) * 64 + c) * 64 + d
    let (bytes, left) := pack rest
    (UInt8.ofNat (n / 65536) :: UInt8.ofNat (n / 256 % 256) :: UInt8.ofNat (n % 256) :: bytes, left)
  | [a, b, c] =>
    let n := (a * 64 + b) * 64 + c
    ([UInt8.ofNat (n / 1024), UInt8.ofNat (n / 4 % 256)], n % 4)
  | [a, b] =>
    let n := a * 64 + b
    ([UInt8.ofNat (n / 16)], n % 16)
  | [a] => ([], a)
  | [] => ([], 0)

/-- A symbol too many in the last group; an unknown last symbol is reported as such. -/
def lengthFault (bytes : List UInt8) : Option Fault :=
  if bytes.length % 4 == 1 then
    match bytes.getLast? with
    | some b =>
      if b.toNat != pad && (value? b.toNat).isNone then
        some (.badByte (bytes.length - 1) b.toNat)
      else some .badLength
    | none => none
  else none

def decodeBytes (bytes : List UInt8) : Except Fault (List UInt8) :=
  match lengthFault bytes with
  | some fault => .error fault
  | none => do
    let (values, padding) ← symbols 0 none bytes
    if (values.length + padding) % 4 != 0 then throw .badPadding
    else
      let (packed, left) := pack values
      if left != 0 then
        let last := ((bytes[values.length - 1]?).map UInt8.toNat).getD 0
        throw (.badLastSymbol (values.length - 1) last)
      else pure packed

end ApiProbe.Text.Base64
