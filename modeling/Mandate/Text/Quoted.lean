import Mandate.Text.Printable

/-!
# Quoted texts

A text between quotes in which every character can be seen: the quote, the backslash and the
common controls have short escapes, and every other character that cannot be shown on its own is
written by its code point.
-/

namespace Mandate.Text.Quoted

/-- A code point in braces, as lower-case hexadecimal digits. -/
def codePoint (c : Char) : List Char :=
  '\\' :: 'u' :: '\x7b' :: Nat.toDigits 16 c.toNat ++ ['\x7d']

/-- A character inside a quoted text. -/
def encodeChar (c : Char) : List Char :=
  if c.toNat = 0 then ['\\', '0']
  else if c = '\t' then ['\\', 't']
  else if c = '\r' then ['\\', 'r']
  else if c = '\n' then ['\\', 'n']
  else if c = '"' then ['\\', '"']
  else if c = '\\' then ['\\', '\\']
  else if isCombining c || !isPrintable c then codePoint c
  else [c]

/-- The text between quotes. -/
def encode (s : String) : String :=
  String.ofList ('"' :: s.toList.flatMap encodeChar ++ ['"'])

/-- Quoted texts in brackets. -/
def encodeList (l : List String) : String :=
  "[" ++ ", ".intercalate (l.map encode) ++ "]"

end Mandate.Text.Quoted
