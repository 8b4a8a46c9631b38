/-!
# Places in a text by bytes

A place in a text can be told by the bytes in front of it, which are those of its UTF-8 form.  A
place inside a character counts as the one behind it.
-/

namespace CycleSim.Text

/-- Bytes that characters take in UTF-8. -/
def utf8Length : List Char → Nat
  | [] => 0
  | c :: rest => c.utf8Size + utf8Length rest

/-- The characters in front of a place. -/
def takeBytes : Nat → List Char → List Char
  | _, [] => []
  | 0, _ => []
  | bytes, c :: rest => c :: takeBytes (bytes - c.utf8Size) rest

/-- The characters behind a place. -/
def dropBytes : Nat → List Char → List Char
  | _, [] => []
  | 0, chars => chars
  | bytes, c :: rest => dropBytes (bytes - c.utf8Size) rest

end CycleSim.Text
