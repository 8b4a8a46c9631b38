import CycleSim.FileTree.Basic
import CycleSim.Error
import CycleSim.Stats.Basic

/-!
# The statistics file

The statistics as a JSON object, one field a line, indented by two spaces.
-/

namespace CycleSim.RunStats

/-- Two lower-case hexadecimal digits. -/
def hexPair (n : Nat) : String :=
  let digits := Nat.toDigits 16 n
  String.ofList (List.replicate (2 - digits.length) '0' ++ digits)

/-- How a character stands in a JSON string: quotes, backslashes and controls are escaped. -/
def jsonChar (c : Char) : String :=
  match c with
  | '"' => "\\\""
  | '\\' => "\\\\"
  | '\x08' => "\\b"
  | '\t' => "\\t"
  | '\n' => "\\n"
  | '\x0c' => "\\f"
  | '\r' => "\\r"
  | c => if c.val < 0x20 then "\\u00" ++ hexPair c.toNat else String.singleton c

/-- A JSON string. -/
def jsonString (text : String) : String :=
  "\"" ++ String.join (text.toList.map jsonChar) ++ "\""

/-- The fields and their values, in order. -/
def jsonFields (stats : RunStats) (timing : Timing) : List (String × String) :=
  [("model", jsonString stats.model),
   ("ticks", toString stats.ticks.toNat),
   ("cycles", toString stats.cycles.toNat),
   ("sim_time", toString stats.simTime.toNat),
   ("time_unit", jsonString stats.timeUnit.symbol),
   ("finished", if stats.finished then "true" else "false"),
   ("host_seconds", timing.json),
   ("coverage_points", toString stats.coveragePoints),
   ("coverage_covered", toString stats.coverageCovered)]

/-- The JSON document. -/
def json (stats : RunStats) (timing : Timing) : String :=
  let lines := (stats.jsonFields timing).map fun (name, value) =>
    "  " ++ jsonString name ++ ": " ++ value
  "\x7b\n" ++ ",\n".intercalate lines ++ "\n\x7d"

/-- Writes the JSON document to a file. -/
def writeJson (stats : RunStats) (timing : Timing) (tree : FileTree) (path : String) :
    Except SimError FileTree :=
  (tree.write path (stats.json timing).toUTF8).mapError .io

end CycleSim.RunStats
