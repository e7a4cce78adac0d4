import ApiProbe.Text.Classes
import ApiProbe.Text.Blank

/-!
Text in double quotes, for messages and printed values. Quotes and backslashes are escaped, line
ends and tabs have their short escapes, and characters that cannot be seen are written by code.
-/
namespace ApiProbe.Text

/-- Hexadecimal digits of a number, small letters. -/
def hexText (n : Nat) : String := String.ofList (Nat.toDigits 16 n)

/-- Characters without a shape of their own: controls, format marks, combining marks and every
blank but the space. -/
def isUnseen (c : Char) : Bool :=
  let code := c.toNat
  code < 32 || (127 ≤ code && code < 160) || code == 173
    || (c != ' ' && isBlank c)
    || (code ≥ 128 && inSpans markSpans code)
    || (8203 ≤ code && code ≤ 8207) || (8234 ≤ code && code ≤ 8238) || (8288 ≤ code && code ≤ 8303)
    || (57344 ≤ code && code ≤ 63743) || code == 65279 || (65529 ≤ code && code ≤ 65535)

def quoteChar (c : Char) : List Char :=
  match c with
  | '"' => ['\\', '"']
  | '\\' => ['\\', '\\']
  | '\n' => ['\\', 'n']
  | '\r' => ['\\', 'r']
  | '\t' => ['\\', 't']
  | c =>
    if c.toNat == 0 then ['\\', '0']
    else if isUnseen c then ("\\u\x7b" ++ hexText c.toNat ++ "\x7d").toList
    else [c]

def quote (text : String) : String :=
  "\"" ++ String.ofList (text.toList.flatMap quoteChar) ++ "\""

end ApiProbe.Text
