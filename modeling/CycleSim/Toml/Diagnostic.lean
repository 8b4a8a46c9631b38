import CycleSim.Decimal.Shortest
import CycleSim.Text.Quoted
import CycleSim.Toml.Node

/-!
# Diagnostics

What a reader of a document refuses is a `Mismatch`: the detail and, if known, the bytes at fault.
`Diagnostic.ofMismatch` finds the line and the column in the text, and `Diagnostic.message` shows
the line with carets below the bytes at fault.
-/

namespace CycleSim.Toml

/-- The shape of a value, as messages name it. -/
inductive Found where
  | integer (value : Int)
  | float (value : Binary64)
  | boolean (value : Bool)
  | string (value : String)
  | sequence
  | map
  deriving DecidableEq, Repr

/-- Text of a found value. -/
def Found.text : Found → String
  | integer value => "integer `" ++ toString value ++ "`"
  | float value => "floating point `" ++ value.positional ++ "`"
  | boolean value => "boolean `" ++ (if value then "true" else "false") ++ "`"
  | string value => "string " ++ Text.quote value
  | sequence => "sequence"
  | map => "map"

/-- What is wrong with a value. -/
inductive Detail where
  /-- The value has another type than the one expected. -/
  | invalidType (found : Found) (expected : String)
  /-- The integer does not fit into the expected type. -/
  | outOfRange (value : Int) (expected : String)
  /-- The name is none of a choice's variants. -/
  | unknownVariant (name : String) (variants : List String)
  /-- The value cannot name a variant. -/
  | notAVariant
  /-- The table that should name a variant is empty. -/
  | noVariant
  /-- The table that should name a variant has several keys. -/
  | severalVariants
  /-- The variant comes with a table that is not empty. -/
  | payloadTable
  /-- The variant comes with something else. -/
  | payload (kind : String)
  deriving DecidableEq, Repr

/-- Wording of a detail. -/
def Detail.text : Detail → String
  | invalidType found expected => "invalid type: " ++ found.text ++ ", expected " ++ expected
  | outOfRange value expected =>
    "invalid value: integer `" ++ toString value ++ "`, expected " ++ expected
  | unknownVariant name variants =>
    "unknown variant `" ++ name ++ "`, expected one of "
      ++ ", ".intercalate (variants.map fun variant => "`" ++ variant ++ "`")
  | notAVariant => "wanted string or table"
  | noVariant => "wanted exactly 1 element, found 0 elements"
  | severalVariants => "wanted exactly 1 element, more than 1 element"
  | payloadTable => "expected empty table"
  | payload kind => "expected table, found " ++ kind

/-- A refused value, with its bytes if it has any of its own. -/
structure Mismatch where
  span : Option Span
  detail : Detail
  deriving DecidableEq, Repr

/-- A refused value, with its place in the text. -/
structure Diagnostic where
  /-- Line of the place, counted from 1. -/
  line : Nat
  /-- Column of the place in characters, counted from 1. -/
  column : Nat
  /-- The line's text. -/
  text : String
  /-- Number of carets. -/
  width : Nat
  detail : Detail
  deriving DecidableEq, Repr

namespace Diagnostic

/-- Moves characters that stand before a byte offset onto `before`, the last one in front. -/
def charsBefore (before : List Char) : Nat → List Char → List Char
  | _, [] => before
  | offset, c :: rest =>
    if offset = 0 then before else charsBefore (c :: before) (offset - c.utf8Size) rest

/-- Locates a mismatch in the text it was found in.  One without bytes of its own is placed at the
start of the text. -/
def ofMismatch (text : String) (mismatch : Mismatch) : Diagnostic :=
  let span := mismatch.span.getD ⟨0, 0⟩
  let before := charsBefore [] span.start text.toList
  let column := (before.takeWhile (· ≠ '\n')).length
  let line := (text.toList.drop (before.length - column)).takeWhile (· ≠ '\n')
  let shown := String.ofList line
  { line := before.count '\n' + 1
    column := column + 1
    text := shown
    width := 1 + (min span.stop (span.start + shown.utf8ByteSize) - (span.start + 1))
    detail := mismatch.detail }

/-- The report: place, line with carets, detail. -/
def message (d : Diagnostic) : String :=
  let number := toString d.line
  let margin := "".pushn ' ' (number.length + 1) ++ "|"
  "TOML parse error at line " ++ number ++ ", column " ++ toString d.column ++ "\n"
    ++ margin ++ "\n"
    ++ number ++ " | " ++ d.text ++ "\n"
    ++ margin ++ "".pushn ' ' d.column ++ "".pushn '^' d.width ++ "\n"
    ++ d.detail.text ++ "\n"

end Diagnostic

end CycleSim.Toml
