import CycleSim.Coverage.Database

/-!
# The coverage text

A database is written as a header line and one record per point, in the order of the names:

    # rtl-harness coverage v1
    C 'counter.rising_edge' 50
    C 'counter.wrap' 0

Quotes and backslashes inside a name are written after a backslash, and nothing else is changed.
`Sink` is a destination that takes a limited number of bytes: what fits is taken in order, and the
first write that does not fit ends the writing.
-/

namespace CycleSim.Coverage

/-- First line of a coverage text. -/
def header : String := "# rtl-harness coverage v1"

/-- A name with its quotes and backslashes behind backslashes. -/
def escape : List Char → List Char
  | [] => []
  | c :: rest =>
    if c = '\'' ∨ c = '\\' then '\\' :: c :: escape rest else c :: escape rest

/-- The record of a point, with its line end. -/
def recordText (point : Point) : String :=
  "C '" ++ String.ofList (escape point.1.toList) ++ "' " ++ toString point.2.toNat ++ "\n"

/-- The pieces in which a record is written. -/
def recordPieces (point : Point) : List String :=
  ["C '", String.ofList (escape point.1.toList), "' ", toString point.2.toNat, "\n"]

namespace Database

/-- The lines of the text with their ends: the header and the records. -/
def lines (db : Database) : List String :=
  (header ++ "\n") :: db.points.map recordText

/-- The whole text. -/
def text (db : Database) : String :=
  String.join db.lines

end Database

/-- A destination that takes `room` more bytes. -/
structure Sink where
  room : Nat
  taken : List UInt8 := []
  deriving DecidableEq, Repr

namespace Sink

/-- Writes bytes.  If they do not all fit, those that fit are taken and the write fails. -/
def write (sink : Sink) (bytes : List UInt8) : Bool × Sink :=
  (bytes.length ≤ sink.room,
    { room := sink.room - bytes.length, taken := sink.taken ++ bytes.take sink.room })

/-- Writes pieces of text one after the other until one fails. -/
def writeAll (sink : Sink) : List String → Bool × Sink
  | [] => (true, sink)
  | piece :: pieces =>
    match sink.write piece.toUTF8.toList with
    | (true, sink) => sink.writeAll pieces
    | (false, sink) => (false, sink)

end Sink

namespace Database

/-- The pieces of the text in the order they are written. -/
def pieces (db : Database) : List String :=
  header :: "\n" :: db.points.flatMap recordPieces

/-- Writes the text to a sink piece by piece; the answer tells whether all of it was taken. -/
def writeTo (db : Database) (sink : Sink) : Bool × Sink :=
  sink.writeAll db.pieces

end Database

end CycleSim.Coverage
