import Mathlib.Algebra.BigOperators.Group.List.Basic
import CycleSim.Proofs.Coverage.Counts
import CycleSim.Proofs.Coverage.Reading

/-!
# The lines of a coverage text

Every record of a coverage text ends in a line end, and neither the count nor the quotes of a record
hold another one.  Escaping leaves the line ends of a name as they are, so the record of a name with
`k` of them takes up `k + 1` lines.  A coverage text therefore has a line for each point exactly if
no name of a point runs over several lines (`Database.text_lines`).
-/

namespace CycleSim.Coverage

/-! ### Lines of a text -/

/-- The pieces of a text between its line ends, the one behind the last line end included. -/
def linesOf (text : String) : List String :=
  (text.toList.splitOn '\n').map String.ofList

/-- The number of line ends in a text. -/
def breaks (text : String) : ℕ :=
  text.toList.count '\n'

lemma breaks_append (first second : String) :
    breaks (first ++ second) = breaks first + breaks second := by
  rw [breaks, String.toList_append, List.count_append]
  rfl

/-- Splitting a list at an element gives one piece more than the element has places. -/
lemma length_splitOn (a : Char) (chars : List Char) :
    (chars.splitOn a).length = chars.count a + 1 := by
  induction chars with
  | nil => rfl
  | cons c chars ih =>
    rw [List.splitOn_cons_eq_if_modifyHead, List.count_cons]
    split
    · rw [List.length_cons, ih]
    · rw [List.length_modifyHead, ih, Nat.add_zero]

/-- A text has one line more than it has line ends. -/
lemma length_linesOf (text : String) : (linesOf text).length = breaks text + 1 := by
  rw [linesOf, List.length_map, length_splitOn]
  rfl

/-- A text without line ends is one line. -/
lemma linesOf_of_breaks_eq_zero {text : String} (whole : breaks text = 0) :
    linesOf text = [text] := by
  have absent : '\n' ∉ text.toList := List.count_eq_zero.mp whole
  rw [linesOf, List.splitOn_eq_singleton absent, List.map_singleton, String.ofList_toList]

/-- A line end separates the lines before it from those behind it. -/
lemma linesOf_append_break (first rest : String) :
    linesOf (first ++ "\n" ++ rest) = linesOf first ++ linesOf rest := by
  have chars : (first ++ "\n" ++ rest).toList = first.toList ++ '\n' :: rest.toList := by simp
  rw [linesOf, chars, List.splitOn_append_cons_self, List.map_append]
  rfl

/-- Pieces with a line end behind each of them have the lines of the pieces, and nothing after the
last line end. -/
lemma linesOf_join (pieces : List String) :
    linesOf (String.join (pieces.map (· ++ "\n"))) = pieces.flatMap linesOf ++ [""] := by
  induction pieces with
  | nil => rfl
  | cons piece pieces ih =>
    rw [List.map_cons, String.join_cons, linesOf_append_break, ih, List.flatMap_cons,
      List.append_assoc]

/-! ### Lines of a record -/

/-- The record of a point, without its line end. -/
def recordLine (point : Point) : String :=
  "C '" ++ String.ofList (escape point.1.toList) ++ "' " ++ toString point.2.toNat

/-- Escaping a name keeps its line ends and adds none. -/
lemma count_escape (name : List Char) : (escape name).count '\n' = name.count '\n' := by
  induction name with
  | nil => rfl
  | cons c name ih =>
    rw [escape]
    split
    · have backslash : ('\\' == '\n') = false := by decide
      rw [List.count_cons, List.count_cons, List.count_cons, ih, backslash]
      rfl
    · rw [List.count_cons, List.count_cons, ih]

/-- The digits of a number hold no line end. -/
lemma breaks_toString (n : ℕ) : breaks (toString n) = 0 := by
  refine List.count_eq_zero.mpr fun mem => ?_
  rw [Nat.toString_eq_ofList_toDigits, String.toList_ofList] at mem
  have digit : '\n'.isDigit = true := Nat.isDigit_of_mem_toDigits (by decide) (by decide) mem
  exact absurd digit (by decide)

/-- The line ends of a record are those of the name. -/
lemma breaks_recordLine (point : Point) : breaks (recordLine point) = breaks point.1 := by
  have opened : breaks "C '" = 0 := by decide
  have closed : breaks "' " = 0 := by decide
  have name : breaks (String.ofList (escape point.1.toList)) = breaks point.1 := by
    rw [breaks, String.toList_ofList, count_escape]
    rfl
  rw [recordLine, breaks_append, breaks_append, breaks_append, opened, closed, name,
    breaks_toString, Nat.zero_add, Nat.add_zero]

/-- The record of a name without line ends is one line. -/
lemma linesOf_recordLine_of_notMem {point : Point} (whole : '\n' ∉ point.1.toList) :
    linesOf (recordLine point) = [recordLine point] := by
  apply linesOf_of_breaks_eq_zero
  rw [breaks_recordLine]
  exact List.count_eq_zero.mpr whole

namespace Database

/-- The text has the header and the records, with a line end behind each of them. -/
lemma text_eq_join (db : Database) :
    db.text = String.join ((header :: db.points.map recordLine).map (· ++ "\n")) := by
  rw [text, lines, List.map_cons, List.map_map]
  rfl

/-- The text has the lines of the header and of the records. -/
lemma linesOf_text (db : Database) :
    linesOf db.text = header :: db.points.flatMap (fun p => linesOf (recordLine p)) ++ [""] := by
  have headline : linesOf header = [header] := linesOf_of_breaks_eq_zero (by decide)
  rw [text_eq_join, linesOf_join, List.flatMap_cons, headline, List.flatMap_map,
    List.singleton_append]

/-- A text has a line for the header, one for each point, one more for each line end in a name, and
the empty one behind the last line end. -/
lemma length_linesOf_text (db : Database) :
    (linesOf db.text).length = db.size + (db.points.map fun p => breaks p.1).sum + 2 := by
  have lengths (p : Point) : (linesOf (recordLine p)).length = breaks p.1 + 1 := by
    rw [length_linesOf, breaks_recordLine]
  have records : (db.points.flatMap fun p => linesOf (recordLine p)).length =
      (db.points.map fun p => breaks p.1).sum + db.size := by
    rw [List.length_flatMap]
    simp only [lengths, List.sum_map_add, List.map_const',
      List.sum_replicate_nat, Nat.mul_one]
    rfl
  rw [linesOf_text, List.length_append, List.length_cons, records, List.length_singleton]
  omega

/-- If no name runs over several lines, each record is a line. -/
lemma linesOf_text_of_whole {db : Database} (whole : ∀ p ∈ db.points, '\n' ∉ p.1.toList) :
    linesOf db.text = header :: db.points.map recordLine ++ [""] := by
  have records :
      (db.points.flatMap fun p => linesOf (recordLine p)) = db.points.map recordLine := by
    rw [List.map_eq_flatMap]
    refine List.flatMap_congr fun p mem => ?_
    exact linesOf_recordLine_of_notMem (whole p mem)
  rw [linesOf_text, records]

/-- A text with one line for each point has no name that runs over several lines. -/
lemma whole_of_length_linesOf_text {db : Database}
    (each : (linesOf db.text).length = db.size + 2) : ∀ p ∈ db.points, '\n' ∉ p.1.toList := by
  have none : (db.points.map fun p => breaks p.1).sum = 0 := by
    have all := db.length_linesOf_text
    omega
  intro p mem
  have here : breaks p.1 = 0 :=
    List.sum_eq_zero_iff_forall_eq_nat.mp none _ (List.mem_map_of_mem mem)
  exact List.count_eq_zero.mp here

/-- The lines of what a database writes.  A sink takes the text as far as it has room: the header,
then for each point in strictly increasing order of the names its record, with the name's quotes
and backslashes behind backslashes and its count, each of them with a line end.  A record has a line
more for every line end in the name, so every point has exactly one line if and only if no name
holds a line end. -/
theorem text_lines (db : Database) :
    (∀ sink, db.writeTo sink = (decide (db.text.toUTF8.size ≤ sink.room),
      { room := sink.room - db.text.toUTF8.size,
        taken := sink.taken ++ db.text.toUTF8.toList.take sink.room })) ∧
    linesOf db.text = header :: db.points.flatMap (fun p => linesOf (recordLine p)) ++ [""] ∧
    (linesOf db.text).length = db.size + (db.points.map fun p => breaks p.1).sum + 2 ∧
    (linesOf db.text = header :: db.points.map recordLine ++ [""] ↔
      ∀ name, db.count? name ≠ none → '\n' ∉ name.toList) ∧
    db.points.Pairwise (·.1 < ·.1) ∧
    ∀ name count, (name, count) ∈ db.points ↔ db.count? name = some count := by
  have counts (name : String) (count : UInt64) :
      (name, count) ∈ db.points ↔ db.count? name = some count := mem_iff_lookup db.sorted
  refine ⟨db.writeTo_eq, db.linesOf_text, db.length_linesOf_text, ?_,
    db.sorted, counts⟩
  constructor
  · intro same name counted
    have each : (linesOf db.text).length = db.size + 2 := by
      rw [same]
      simp [size]
    obtain ⟨count, found⟩ := Option.ne_none_iff_exists'.mp counted
    exact whole_of_length_linesOf_text each (name, count) ((counts name count).mpr found)
  · intro whole
    refine linesOf_text_of_whole fun p mem => ?_
    have found : db.count? p.1 = some p.2 := (counts p.1 p.2).mp mem
    exact whole p.1 (by simp [found])

/-- A database with one point, whose name runs over two lines. -/
def folded : Database :=
  (default : Database).record (.declare "a\nb")

/-- The one record of such a database takes up two lines. -/
theorem folded_lines :
    folded.size = 1 ∧
    linesOf folded.text = [header, "C 'a", "b' 0", ""] ∧
    linesOf folded.text ≠ header :: folded.points.map recordLine ++ [""] := by
  decide

end Database

end CycleSim.Coverage
