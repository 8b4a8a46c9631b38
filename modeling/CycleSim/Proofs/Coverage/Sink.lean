import Mathlib.Tactic.Common
import CycleSim.Coverage.Text

/-!
# Writing to a sink

A text is written to a sink piece by piece, and the first piece that does not fit ends the writing.
What the sink has taken then is the beginning of the whole text, as long as the sink has room
(`Database.writeTo_eq`): no piece is left out, and none is written after the one that failed.  In
lines, that is some whole lines and a beginning of the next one (`Database.writeTo_prefix`).
-/

/-! ### Bytes -/

namespace ByteArray

/-- The loop that lists bytes lists those from its position on behind those it has. -/
lemma toList_loop_eq (bytes : ByteArray) (i : ℕ) (listed : List UInt8) :
    toList.loop bytes i listed = listed.reverse ++ bytes.data.toList.drop i := by
  fun_induction toList.loop bytes i listed with
  | case1 i listed lt ih =>
    rw [ih, List.reverse_cons, List.append_assoc, List.singleton_append]
    congr 1
    have lt' : i < bytes.data.toList.length := lt
    rw [List.drop_eq_getElem_cons lt']
    congr 1
    simp [get!, getElem!_pos bytes.data i lt]
  | case2 i listed ge =>
    have ge' : bytes.data.toList.length ≤ i := Nat.le_of_not_lt ge
    rw [List.drop_eq_nil_of_le ge', List.append_nil]

/-- The list of the bytes is the list of the array behind them. -/
lemma toList_eq_data (bytes : ByteArray) : bytes.toList = bytes.data.toList :=
  bytes.toList_loop_eq 0 []

@[simp] lemma toList_append (first second : ByteArray) :
    (first ++ second).toList = first.toList ++ second.toList := by
  simp [toList_eq_data]

@[simp] lemma length_toList (bytes : ByteArray) : bytes.toList.length = bytes.size := by
  rw [toList_eq_data]
  rfl

/-- Bytes are known from their list. -/
@[simp] lemma toByteArray_toList (bytes : ByteArray) : bytes.toList.toByteArray = bytes := by
  rw [toList_eq_data]
  ext1
  simp

end ByteArray

namespace CycleSim.Coverage

namespace Sink

/-- Pieces of text are written as their bytes in a row are: all of them if there is room, and else
those that fit. -/
lemma writeAll_eq (sink : Sink) (pieces : List String) :
    let bytes := (String.join pieces).toUTF8.toList
    sink.writeAll pieces = (decide (bytes.length ≤ sink.room),
      { room := sink.room - bytes.length, taken := sink.taken ++ bytes.take sink.room }) := by
  induction pieces generalizing sink with
  | nil => simp [writeAll, String.join]
  | cons piece pieces ih =>
    intro bytes
    have bytes_eq : bytes = piece.toUTF8.toList ++ (String.join pieces).toUTF8.toList := by
      simp [bytes]
    rw [bytes_eq, List.length_append, List.take_append]
    rcases Nat.lt_or_ge sink.room piece.toUTF8.toList.length with full | fits
    · -- The piece does not fit: nothing of the others is written.
      have stop : sink.writeAll (piece :: pieces) = (false,
          { room := sink.room - piece.toUTF8.toList.length,
            taken := sink.taken ++ piece.toUTF8.toList.take sink.room }) := by
        simp only [writeAll, write, decide_eq_false (Nat.not_le.mpr full)]
      have none_left : sink.room - piece.toUTF8.toList.length = 0 :=
        Nat.sub_eq_zero_of_le (Nat.le_of_lt full)
      rw [stop, none_left, List.take_zero, List.append_nil, Nat.sub_eq_zero_of_le (by omega),
        decide_eq_false (by omega)]
    · have next : sink.writeAll (piece :: pieces) = Sink.writeAll
          { room := sink.room - piece.toUTF8.toList.length,
            taken := sink.taken ++ piece.toUTF8.toList } pieces := by
        simp only [writeAll, write, decide_eq_true fits, List.take_of_length_le fits]
      rw [next, ih, List.take_of_length_le fits, List.append_assoc, Nat.sub_sub]
      simp only [Nat.le_sub_iff_add_le' fits]

end Sink

/-! ### Texts cut off -/

/-- The bytes of pieces in a row are those of the first piece and of the others. -/
lemma toList_join_cons (piece : String) (pieces : List String) :
    (String.join (piece :: pieces)).toUTF8.toList =
      piece.toUTF8.toList ++ (String.join pieces).toUTF8.toList := by
  simp

/-- A text of several pieces that is cut off short consists of whole pieces and the beginning of the
next one. -/
lemma exists_cut {pieces : List String} {n : ℕ}
    (short : n < (String.join pieces).toUTF8.toList.length) :
    ∃ whole piece later cut missing, pieces = whole ++ piece :: later ∧
      piece.toUTF8.toList = cut ++ missing ∧ missing ≠ [] ∧
      (String.join pieces).toUTF8.toList.take n =
        (String.join whole).toUTF8.toList ++ cut := by
  induction pieces generalizing n with
  | nil => simp [String.join] at short
  | cons piece pieces ih =>
    rw [toList_join_cons, List.length_append] at short
    rw [toList_join_cons, List.take_append]
    rcases Nat.lt_or_ge n piece.toUTF8.toList.length with inside | beyond
    · refine ⟨[], piece, pieces, piece.toUTF8.toList.take n, piece.toUTF8.toList.drop n, rfl,
        (List.take_append_drop ..).symm, ?_, ?_⟩
      · exact List.drop_eq_nil_iff.not.mpr (Nat.not_le.mpr inside)
      · rw [Nat.sub_eq_zero_of_le (Nat.le_of_lt inside), List.take_zero]
        simp [String.join]
    · obtain ⟨whole, next, later, cut, missing, split, parts, some_missing, taken⟩ :=
        ih (n := n - piece.toUTF8.toList.length) (by omega)
      refine ⟨piece :: whole, next, later, cut, missing, ?_, parts, some_missing, ?_⟩
      · rw [split, List.cons_append]
      · rw [taken, List.take_of_length_le beyond, toList_join_cons, List.append_assoc]

namespace Database

/-- The pieces of a record make it up. -/
lemma join_recordPieces (point : Point) : String.join (recordPieces point) = recordText point := by
  simp [recordPieces, recordText, String.join]

/-- The pieces of a text make it up. -/
lemma join_pieces (db : Database) : String.join db.pieces = db.text := by
  have records : (db.points.flatMap recordPieces).flatMap String.toList =
      (db.points.map recordText).flatMap String.toList := by
    simp only [List.flatMap_assoc, List.flatMap_map, ← join_recordPieces, String.toList_join]
  apply String.toList_injective
  rw [text, lines, pieces, String.toList_join, String.toList_join, List.flatMap_cons,
    List.flatMap_cons, List.flatMap_cons, records, String.toList_append, List.append_assoc]

/-- What a database writes to a sink is its text, cut off where the sink is full; the answer tells
whether it was not. -/
lemma writeTo_eq (db : Database) (sink : Sink) :
    db.writeTo sink = (decide (db.text.toUTF8.size ≤ sink.room),
      { room := sink.room - db.text.toUTF8.size,
        taken := sink.taken ++ db.text.toUTF8.toList.take sink.room }) := by
  rw [writeTo, Sink.writeAll_eq, join_pieces, ByteArray.length_toList]

/-- Writing to a sink that takes `n` bytes in all leaves a clean beginning of the text.  The sink
holds exactly the first bytes of the text, as many as the lesser of `n` and the text's length, and
the writing succeeds if and only if that is the whole text.  Where it fails, the sink holds some
lines in full and of the next one a beginning that is not all of it: no line is skipped or repeated,
and nothing is written behind the failure. -/
theorem writeTo_prefix (db : Database) (n : ℕ) :
    let (complete, sink) := db.writeTo { room := n }
    sink.taken = db.text.toUTF8.toList.take (min n db.text.utf8ByteSize) ∧
    sink.taken.length = min n db.text.utf8ByteSize ∧
    (complete = true ↔ db.text.utf8ByteSize ≤ n) ∧
    (complete = true → sink.taken = (String.join db.lines).toUTF8.toList) ∧
    (complete = false → ∃ whole line later cut missing, db.lines = whole ++ line :: later ∧
      line.toUTF8.toList = cut ++ missing ∧ missing ≠ [] ∧
      sink.taken = (String.join whole).toUTF8.toList ++ cut) := by
  have size : db.text.toUTF8.toList.length = db.text.utf8ByteSize := ByteArray.length_toList _
  have taken : db.text.toUTF8.toList.take n =
      db.text.toUTF8.toList.take (min n db.text.utf8ByteSize) := by
    rw [← size, List.take_eq_take_min]
  rw [writeTo_eq]
  refine ⟨taken, ?_, decide_eq_true_iff, ?_, ?_⟩
  · rw [List.nil_append, List.length_take, size]
  · intro complete
    exact List.take_of_length_le (size ▸ of_decide_eq_true complete)
  · intro failed
    exact exists_cut (size ▸ Nat.lt_of_not_le (of_decide_eq_false failed))

/-- A sink may be full in the middle of a character. -/
example : ((default : Database).record (.declare "é")).writeTo { room := 30 } =
    (false, { room := 0, taken := "# rtl-harness coverage v1\nC '".toUTF8.toList ++ [0xc3] }) := by
  decide +kernel

end Database

end CycleSim.Coverage
