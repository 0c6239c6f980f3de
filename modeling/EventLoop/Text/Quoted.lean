import EventLoop.Text.Numeral
import EventLoop.Text.Visible

/-!
# Quoted text

The form in which a message shows a text it complains about: between double quotes, with a backslash
before a quote or a backslash, the letters `0`, `t`, `n` and `r` for their characters, and the code
point in braces for every other character that is not shown as it is.
-/

namespace EventLoop.Text

/-- How a character is written inside quotes. -/
def quotedChar (c : Char) : List Char :=
  match c with
  | '\x00' => ['\\', '0']
  | '\t' => ['\\', 't']
  | '\n' => ['\\', 'n']
  | '\r' => ['\\', 'r']
  | '"' => ['\\', '"']
  | '\\' => ['\\', '\\']
  | c => if isVisible c then [c] else "\\u\x7b".toList ++ Numeral.digits 16 c.toNat ++ ['\x7d']

/-- A text between quotes. -/
def quoted (s : String) : String :=
  String.ofList ('"' :: s.toList.flatMap quotedChar ++ ['"'])

end EventLoop.Text
