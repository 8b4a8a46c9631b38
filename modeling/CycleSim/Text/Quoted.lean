import CycleSim.Text.Invisible

/-!
# Quoted text in messages

A message shows a text between double quotes on one line: quotes and backslashes behind a
backslash, the usual controls by their letters, and every other character without a visible form
by its code point.
-/

namespace CycleSim.Text

/-- A code point in lower-case hexadecimal, between braces. -/
def codePointEscape (c : Char) : String :=
  "\\u\x7b" ++ String.ofList (Nat.toDigits 16 c.toNat) ++ "\x7d"

/-- How one character is shown inside quotes. -/
def quoteChar (c : Char) : String :=
  match c with
  | '"' => "\\\""
  | '\\' => "\\\\"
  | '\t' => "\\t"
  | '\n' => "\\n"
  | '\r' => "\\r"
  | '\x00' => "\\0"
  | c =>
    if c.val < 0x20 || c.val == 0x7f || (0x7f < c.val && isInvisible c) then codePointEscape c
    else String.singleton c

/-- A text between double quotes. -/
def quote (text : String) : String :=
  "\"" ++ String.join (text.toList.map quoteChar) ++ "\""

end CycleSim.Text
