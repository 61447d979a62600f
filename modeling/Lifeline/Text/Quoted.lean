import Lifeline.Text.Visible

/-!
# Quoted text

Messages that repeat what a user wrote put it in double quotes.  Quotes,
backslashes and the usual control characters get a short escape, every other
character that cannot be seen alone is written as its code point in braces, and
all else stands for itself.
-/

namespace Lifeline.Text

/-- Lower-case hexadecimal digits without leading zeros. -/
def hexDigits (code : Nat) : List Char := Nat.toDigits 16 code

def quotedChar (c : Char) : List Char :=
  match c with
  | '"' => ['\\', '"']
  | '\\' => ['\\', '\\']
  | '\t' => ['\\', 't']
  | '\r' => ['\\', 'r']
  | '\n' => ['\\', 'n']
  | '\x00' => ['\\', '0']
  | c => if isVisible c then [c] else ['\\', 'u', '\x7b'] ++ hexDigits c.toNat ++ ['\x7d']

def quote (text : List Char) : List Char :=
  '"' :: (text.flatMap quotedChar ++ ['"'])

/-- The text in double quotes, with whatever cannot be seen escaped. -/
def quoted (text : String) : String := String.ofList (quote text.toList)

end Lifeline.Text
