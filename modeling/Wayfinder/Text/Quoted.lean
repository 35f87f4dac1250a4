import Wayfinder.Text.GlyphTable
import Wayfinder.Text.MarkTable

/-!
# Quoted texts

A text as it is shown inside an error: between double quotes, with the quote and the backslash
escaped by a backslash, the common controls by a letter, and every other character that has no
glyph of its own or is a mark of the one before it by its number in braces.
-/

namespace Wayfinder.Text

/-- The digits of a number in base sixteen, without leading zeros. -/
def hexDigits (n : Nat) : List Char := Nat.toDigits 16 n

/-- A character inside a quoted text. -/
def quotedChar (c : Char) : List Char :=
  if c = '"' then ['\\', '"']
  else if c = '\\' then ['\\', '\\']
  else if c = '\n' then ['\\', 'n']
  else if c = '\r' then ['\\', 'r']
  else if c = '\t' then ['\\', 't']
  else if c = '\x00' then ['\\', '0']
  else if c.toNat < 32 || invisible.has c || isCombining c then
    ['\\', 'u', '\x7b'] ++ hexDigits c.toNat ++ ['\x7d']
  else [c]

/-- A text between double quotes. -/
def quoted (s : String) : String :=
  String.ofList ('"' :: s.toList.flatMap quotedChar ++ ['"'])

end Wayfinder.Text
