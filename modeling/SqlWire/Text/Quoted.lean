import SqlWire.Text.Hex
import SqlWire.Text.Visible

/-! # Quoted text for logs

A text in double quotes with every character made visible: the quote, the backslash and the common
controls behind a backslash, other invisible characters by their number.
-/

namespace SqlWire

namespace Quoted

/-- A character as it stands between the quotes. -/
def escape (c : Char) : List Char :=
  if c == '\x00' then ['\\', '0']
  else if c == '\t' then ['\\', 't']
  else if c == '\r' then ['\\', 'r']
  else if c == '\n' then ['\\', 'n']
  else if c == '\\' then ['\\', '\\']
  else if c == '"' then ['\\', '"']
  else if isVisible c then [c]
  else "\\u\x7b".toList ++ Hex.number c.toNat 'a' ++ ['\x7d']

def quote (text : String) : String :=
  String.ofList ('"' :: text.toList.flatMap escape ++ ['"'])

end Quoted

end SqlWire
