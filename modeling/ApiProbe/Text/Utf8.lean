/-!
Bytes and text. A byte sequence is read as UTF-8 either strictly, with the place and extent of the
first fault, or leniently, with a replacement character for every fault.
-/
namespace ApiProbe.Text

def bytesOf (text : String) : List UInt8 := text.toUTF8.toList

/-- What stands at the start of a byte sequence. -/
inductive Utf8Item
  | char (c : Char) (rest : List UInt8)
  | fault (bytes : Nat) (rest : List UInt8)
  | cutOff

def isContinuation (b : UInt8) : Bool := b.toNat / 64 == 2

def continuationBits (b : UInt8) : Nat := b.toNat % 64

/-- Second bytes that may follow a first byte; the ends exclude long forms, surrogates and codes
that are too large. -/
def secondRange (first : Nat) : Nat × Nat :=
  if first == 0xE0 then (0xA0, 0xBF)
  else if first == 0xED then (0x80, 0x9F)
  else if first == 0xF0 then (0x90, 0xBF)
  else if first == 0xF4 then (0x80, 0x8F)
  else (0x80, 0xBF)

/-- Number of bytes of the character that a first byte starts; zero if none does. -/
def sequenceLength (first : Nat) : Nat :=
  if first < 0x80 then 1
  else if 0xC2 ≤ first && first ≤ 0xDF then 2
  else if 0xE0 ≤ first && first ≤ 0xEF then 3
  else if 0xF0 ≤ first && first ≤ 0xF4 then 4
  else 0

/-- Reads the last bytes of a character; `read` of them have been read. -/
def readTail (read code : Nat) : Nat → List UInt8 → Utf8Item
  | 0, rest => .char (Char.ofNat code) rest
  | _ + 1, [] => .cutOff
  | more + 1, b :: rest =>
    if isContinuation b then readTail (read + 1) (code * 64 + continuationBits b) more rest
    else .fault read (b :: rest)

def readItem (b : UInt8) (rest : List UInt8) : Utf8Item :=
  let first := b.toNat
  match sequenceLength first with
  | 0 => .fault 1 rest
  | 1 => .char (Char.ofNat first) rest
  | n + 2 =>
    match rest with
    | [] => .cutOff
    | second :: after =>
      let (low, high) := secondRange first
      if low ≤ second.toNat && second.toNat ≤ high then
        readTail 2 (first % Nat.pow 2 (5 - n) * 64 + continuationBits second) n after
      else .fault 1 rest

structure Utf8Error where
  validUpTo : Nat
  /-- Bytes of the faulty sequence; none if the input ends inside a character. -/
  bytes : Option Nat
  deriving Repr, DecidableEq

def Utf8Error.message (error : Utf8Error) : String :=
  match error.bytes with
  | some n => s!"invalid utf-8 sequence of {n} bytes from index {error.validUpTo}"
  | none => s!"incomplete utf-8 byte sequence from index {error.validUpTo}"

def decodeFrom : Nat → Nat → List Char → List UInt8 → Except Utf8Error (List Char)
  | 0, _, read, _ => .ok read.reverse
  | _ + 1, _, read, [] => .ok read.reverse
  | fuel + 1, index, read, b :: rest =>
    match readItem b rest with
    | .char c after => decodeFrom fuel (index + c.utf8Size) (c :: read) after
    | .fault bytes _ => .error ⟨index, some bytes⟩
    | .cutOff => .error ⟨index, none⟩

/-- Strict reading. -/
def decode (bytes : List UInt8) : Except Utf8Error String :=
  (decodeFrom (bytes.length + 1) 0 [] bytes).map String.ofList

def replacement : Char := Char.ofNat 0xFFFD

def decodeLossyFrom : Nat → List Char → List UInt8 → List Char
  | 0, read, _ => read.reverse
  | _ + 1, read, [] => read.reverse
  | fuel + 1, read, b :: rest =>
    match readItem b rest with
    | .char c after => decodeLossyFrom fuel (c :: read) after
    | .fault _ after => decodeLossyFrom fuel (replacement :: read) after
    | .cutOff => (replacement :: read).reverse

/-- Lenient reading. -/
def decodeLossy (bytes : List UInt8) : String :=
  String.ofList (decodeLossyFrom (bytes.length + 1) [] bytes)

end ApiProbe.Text
