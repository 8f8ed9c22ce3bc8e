/-
# Texts shown between double quotes

A text inside a message is shown on one line between double quotes. A quote and a
backslash are written after a backslash, and so are the names `n`, `r`, `t` and `0`
of line feed, carriage return, tab and NUL; every other character that does not show
by itself is written by its number in hexadecimal.

Paths are shown in the same way, but with a backslash before an apostrophe too.

Key definitions: `quoted`, `quotedPath`.
-/
import Soql.Text.Visible

namespace Soql.Text

/-- The number of a character in lower-case hexadecimal digits. -/
def hexDigits (n : Nat) : List Char := Nat.toDigits 16 n

/-- One character as it stands between the quotes. -/
def quoteChar (c : Char) : List Char :=
  if c = '"' then ['\\', '"']
  else if c = '\\' then ['\\', '\\']
  else if c = '\n' then ['\\', 'n']
  else if c = '\r' then ['\\', 'r']
  else if c = '\t' then ['\\', 't']
  else if c.toNat = 0 then ['\\', '0']
  else if isVisible c then [c]
  else ['\\', 'u', '{'] ++ hexDigits c.toNat ++ ['}']

/-- The text between double quotes. -/
def quoted (s : List Char) : List Char := '"' :: s.flatMap quoteChar ++ ['"']

/-- One character of a path as it stands between the quotes. -/
def quotePathChar (c : Char) : List Char := if c = '\'' then ['\\', '\''] else quoteChar c

/-- A path between double quotes. -/
def quotedPath (path : String) : String :=
  String.ofList ('"' :: path.toList.flatMap quotePathChar ++ ['"'])

end Soql.Text
