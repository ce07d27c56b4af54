/-!
# Texts and bytes

The bytes of a text in UTF-8, and the lines of a file that need not be a text.
-/

namespace Mandate.Text

/-- The UTF-8 bytes of a text. -/
def utf8 (s : String) : List UInt8 :=
  s.toUTF8.toList

/-- The text that bytes spell in UTF-8. -/
def ofUtf8? (bytes : List UInt8) : Option String :=
  String.fromUTF8? bytes.toByteArray

/-- The lines of a file: a line ends at a newline, one carriage return before it is dropped, and
the last line may lack its newline. -/
def lines : List UInt8 → List (List UInt8)
  | [] => []
  | 10 :: rest => [] :: lines rest
  | 13 :: 10 :: rest => [] :: lines rest
  | b :: rest =>
      match lines rest with
      | [] => [[b]]
      | line :: more => (b :: line) :: more

end Mandate.Text
