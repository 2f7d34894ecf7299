import Gridface.Text.Hex
import Gridface.Text.Hidden

/-!
# Quoted characters

A character between single quotes, as messages show it.
-/

namespace Gridface.Text

/-- The text that stands for `c` between quotes: a backslash form where there is one, the code of
a hidden character in braces, and otherwise the character itself. -/
def quotedBody (c : Char) : String :=
  match c with
  | '\x00' => "\\0"
  | '\t' => "\\t"
  | '\n' => "\\n"
  | '\x0d' => "\\r"
  | '\'' => "\\'"
  | '\\' => "\\\\"
  | c => if isHidden c then "\\u\x7b" ++ hexLower 1 c.toNat ++ "\x7d" else c.toString

/-- The character `c` between single quotes. -/
def quoted (c : Char) : String :=
  "'" ++ quotedBody c ++ "'"

end Gridface.Text
