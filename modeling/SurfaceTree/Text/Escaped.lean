/-
Escaped text: the form in which a text is shown between double quotes to someone who debugs.

Main definitions:

* `Text.hex`, `Text.upperHex` — a number in base sixteen;
* `Text.escape` — quotes, backslashes and all that does not stand alone made visible;
* `Text.quoted` — the escaped text between double quotes.
-/

import SurfaceTree.Text.Unseen

set_option relaxedAutoImplicit false
set_option autoImplicit false

namespace SurfaceTree.Text

/-- The digits of a number in base sixteen, with small letters. -/
def hex (n : Nat) : String := String.ofList (Nat.toDigits 16 n)

/-- The digits of a number in base sixteen, with capital letters. -/
def upperHex (n : Nat) : String := String.ofList ((Nat.toDigits 16 n).map Char.toUpper)

/-- A quote and a backslash get a backslash, four control characters have a sign of their own,
a character that stands alone is left as it is, and any other is written by its number. -/
def escapeChar (c : Char) : String :=
  if c = '"' then "\\\""
  else if c = '\\' then "\\\\"
  else if c = '\t' then "\\t"
  else if c = '\r' then "\\r"
  else if c = '\n' then "\\n"
  else if c = '\x00' then "\\0"
  else if standsAlone c then c.toString
  else "\\u\x7b" ++ hex c.toNat ++ "\x7d"

/-- The text with every character escaped on its own. -/
def escape (s : String) : String := String.join (s.toList.map escapeChar)

/-- The escaped text between double quotes. -/
def quoted (s : String) : String := "\"" ++ escape s ++ "\""

end SurfaceTree.Text
