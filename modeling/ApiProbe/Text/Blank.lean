/-!
Blank characters and trimming. A character is blank when it separates words without being seen:
the ASCII spaces and line ends, the no-break space, and the spaces of other scripts.
-/
namespace ApiProbe.Text

def isBlank (c : Char) : Bool :=
  let code := c.toNat
  c == ' ' || (9 ≤ code && code ≤ 13) || code == 133 || code == 160 || code == 5760
    || (8192 ≤ code && code ≤ 8202) || code == 8232 || code == 8233 || code == 8239
    || code == 8287 || code == 12288

/-- Drops the blanks at the start. -/
def trimLeft (chars : List Char) : List Char := chars.dropWhile isBlank

/-- Drops the blanks at the end. -/
def trimRight (chars : List Char) : List Char := (chars.reverse.dropWhile isBlank).reverse

/-- Drops the blanks at both ends. -/
def trimChars (chars : List Char) : List Char := trimRight (trimLeft chars)

def trimStart (text : String) : String := String.ofList (trimLeft text.toList)

def trimEnd (text : String) : String := String.ofList (trimRight text.toList)

def trim (text : String) : String := String.ofList (trimChars text.toList)

/-- True of the empty text and of a text of blanks alone. -/
def isBlankText (text : String) : Bool := text.toList.all isBlank

end ApiProbe.Text
