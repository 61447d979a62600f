/-!
# Blank characters

Settings, host names and typed lines are trimmed of blanks, where a blank is a
character with the Unicode property White_Space.
-/

namespace Lifeline.Text

/-- The Unicode property White_Space: twenty-five code points. -/
def isBlank (c : Char) : Bool :=
  let code := c.toNat
  (0x09 ≤ code && code ≤ 0x0d) || code == 0x20 || code == 0x85 || code == 0xa0 ||
    code == 0x1680 || (0x2000 ≤ code && code ≤ 0x200a) || code == 0x2028 ||
    code == 0x2029 || code == 0x202f || code == 0x205f || code == 0x3000

def trimStart (text : List Char) : List Char := text.dropWhile isBlank

def trimEnd (text : List Char) : List Char := (text.reverse.dropWhile isBlank).reverse

def trim (text : List Char) : List Char := trimEnd (trimStart text)

/-- The text without the blanks around it. -/
def trimmed (text : String) : String := String.ofList (trim text.toList)

end Lifeline.Text
