import Mathlib.Data.List.Basic
import CycleSim.Coverage.Text
import CycleSim.Proofs.Coverage.Sink

/-!
# Reading coverage texts

Names of coverage points are arbitrary: they may be empty, run over several lines or look like whole
records.  A coverage text can be read all the same, since the quote that closes a name is the first
one that does not stand behind a backslash, and a count ends where its digits end.

`readText?` reads a text from left to right, and refuses whatever is not written exactly as `text`
writes it.  Each reader of a part takes that part off the front of the characters, and its lemma
says that it does so exactly if the part stands there, whatever follows.  So a text is read as a
database exactly if it is the text of that database (`readText?_eq_some_iff`).
-/

namespace CycleSim.Coverage

/-! ### Names -/

/-- Reads a name up to the quote that closes it, and takes both off.  A backslash stands before a
quote or a backslash only. -/
def unescape : List Char → Option (List Char × List Char)
  | [] => none
  | '\'' :: rest => some ([], rest)
  | '\\' :: c :: rest =>
    if c = '\'' ∨ c = '\\' then (unescape rest).map (Prod.map (c :: ·) id) else none
  | c :: rest => (unescape rest).map (Prod.map (c :: ·) id)

/-- A character that is neither a quote nor a backslash is read as itself. -/
lemma unescape_cons {c : Char} (noQuote : c ≠ '\'') (noBackslash : c ≠ '\\') (rest : List Char) :
    unescape (c :: rest) = (unescape rest).map (Prod.map (c :: ·) id) := by
  rw [unescape]
  · exact noQuote
  · rintro _ _ rfl
    exact absurd rfl noBackslash

/-- A name is read back from its escaped form, up to the quote behind it. -/
lemma unescape_escape (name rest : List Char) :
    unescape (escape name ++ '\'' :: rest) = some (name, rest) := by
  induction name with
  | nil => rfl
  | cons c name ih =>
    rw [escape]
    split
    · rename_i special
      rw [List.cons_append, List.cons_append, unescape, if_pos special, ih]
      rfl
    · rename_i plain
      obtain ⟨noQuote, noBackslash⟩ := not_or.mp plain
      rw [List.cons_append, unescape_cons noQuote noBackslash, ih]
      rfl

/-- What is read as a name is its escaped form and the closing quote. -/
lemma eq_escape_of_unescape {text name rest : List Char}
    (read : unescape text = some (name, rest)) : text = escape name ++ '\'' :: rest := by
  fun_induction unescape text generalizing name with
  | case1 => cases read
  | case2 => cases read; rfl
  | case3 c others special ih =>
    obtain ⟨⟨tail, _⟩, readTail, same⟩ := Option.map_eq_some_iff.mp read
    obtain ⟨rfl, rfl⟩ := Prod.mk.inj same
    rw [escape, if_pos special, ih readTail]
    rfl
  | case4 => cases read
  | case5 c others noQuote noEscape ih =>
    obtain ⟨⟨tail, _⟩, readTail, same⟩ := Option.map_eq_some_iff.mp read
    obtain ⟨rfl, rfl⟩ := Prod.mk.inj same
    have plain : ¬(c = '\'' ∨ c = '\\') := by
      rintro (rfl | rfl)
      · exact noQuote rfl
      · cases others with
        | nil => cases readTail
        | cons next others => exact noEscape next others rfl rfl
    rw [escape, if_neg plain, ih readTail]
    rfl

/-- A name is taken off exactly if its escaped form and a quote stand there. -/
lemma unescape_eq_some_iff {text name rest : List Char} :
    unescape text = some (name, rest) ↔ text = escape name ++ '\'' :: rest := by
  constructor
  · exact eq_escape_of_unescape
  · rintro rfl
    exact unescape_escape name rest

/-! ### Counts -/

/-- Reads a count, which fits 64 bits and has no leading zeros, and takes it off with the line end
behind it. -/
def readCount (text : List Char) : Option (UInt64 × List Char) :=
  let digits := text.takeWhile Char.isDigit
  let count := Nat.ofDigitChars 10 digits 0
  match text.dropWhile Char.isDigit with
  | '\n' :: rest =>
    if count < UInt64.size ∧ digits = Nat.toDigits 10 count then some (.ofNat count, rest) else none
  | _ => none

/-- A count is taken off exactly if its digits and a line end stand there. -/
lemma readCount_eq_some_iff {text rest : List Char} {count : UInt64} :
    readCount text = some (count, rest) ↔
      text = Nat.toDigits 10 count.toNat ++ '\n' :: rest := by
  constructor
  · intro read
    simp only [readCount] at read
    split at read
    · rename_i others rest_eq
      split at read
      · rename_i canonical
        obtain ⟨fits, digits_eq⟩ := canonical
        cases read
        rw [UInt64.toNat_ofNat_of_lt' fits, ← digits_eq, ← rest_eq]
        exact List.takeWhile_append_dropWhile.symm
      · cases read
    · cases read
  · rintro rfl
    have digits : ∀ c ∈ Nat.toDigits 10 count.toNat, c.isDigit = true :=
      fun c => Nat.isDigit_of_mem_toDigits (by decide) (by decide)
    have taken : (Nat.toDigits 10 count.toNat ++ '\n' :: rest).takeWhile Char.isDigit =
        Nat.toDigits 10 count.toNat := by
      rw [List.takeWhile_append_of_pos digits]
      exact List.append_nil _
    have dropped : (Nat.toDigits 10 count.toNat ++ '\n' :: rest).dropWhile Char.isDigit =
        '\n' :: rest := by
      rw [List.dropWhile_append_of_pos digits]
      rfl
    have value : Nat.ofDigitChars 10 (Nat.toDigits 10 count.toNat) 0 = count.toNat :=
      Nat.ofDigitChars_toDigits (by decide) (by decide)
    simp only [readCount, taken, dropped, value, and_true]
    rw [if_pos count.toNat_lt, UInt64.ofNat_toNat]

/-! ### Records -/

/-- Reads a record and takes it off with its line end. -/
def readRecord : List Char → Option (Point × List Char)
  | 'C' :: ' ' :: '\'' :: text =>
    match unescape text with
    | some (name, ' ' :: text) =>
      (readCount text).map fun (count, rest) => ((String.ofList name, count), rest)
    | _ => none
  | _ => none

/-- The characters of a record. -/
lemma toList_recordText (point : Point) :
    (recordText point).toList = 'C' :: ' ' :: '\'' ::
      (escape point.1.toList ++ '\'' :: ' ' :: (Nat.toDigits 10 point.2.toNat ++ ['\n'])) := by
  simp [recordText]

/-- A record is taken off exactly if it stands there. -/
lemma readRecord_eq_some_iff {text rest : List Char} {point : Point} :
    readRecord text = some (point, rest) ↔ text = (recordText point).toList ++ rest := by
  rw [toList_recordText]
  constructor
  · intro read
    unfold readRecord at read
    split at read
    · rename_i quoted
      split at read
      · rename_i name counted unescaped
        obtain ⟨⟨count, _⟩, readTail, same⟩ := Option.map_eq_some_iff.mp read
        obtain ⟨rfl, rfl⟩ := Prod.mk.inj same
        rw [unescape_eq_some_iff.mp unescaped, readCount_eq_some_iff.mp readTail]
        simp
      · cases read
    · cases read
  · rintro rfl
    have name := unescape_escape point.1.toList
      (' ' :: (Nat.toDigits 10 point.2.toNat ++ '\n' :: rest))
    have count : readCount (Nat.toDigits 10 point.2.toNat ++ '\n' :: rest) =
        some (point.2, rest) := readCount_eq_some_iff.mpr rfl
    simp only [List.cons_append, List.append_assoc, List.nil_append, readRecord, name, count,
      Option.map_some, String.ofList_toList]

/-- A record has at least one character. -/
lemma length_lt_of_readRecord {text rest : List Char} {point : Point}
    (read : readRecord text = some (point, rest)) : rest.length < text.length := by
  rw [readRecord_eq_some_iff.mp read, toList_recordText]
  simp only [List.length_append, List.length_cons]
  omega

/-- Reads records to the end of the text. -/
def readRecords (text : List Char) : Option (List Point) :=
  if text = [] then some []
  else match _read : readRecord text with
    | none => none
    | some (point, rest) => (readRecords rest).map (point :: ·)
termination_by text.length
decreasing_by exact length_lt_of_readRecord _read

/-- Records are read exactly if the text consists of them. -/
lemma readRecords_eq_some_iff {text : List Char} {points : List Point} :
    readRecords text = some points ↔ text = points.flatMap fun p => (recordText p).toList := by
  constructor
  · intro read
    fun_induction readRecords text generalizing points with
    | case1 => cases read; rfl
    | case2 => cases read
    | case3 text _ point rest first ih =>
      obtain ⟨others, readOthers, rfl⟩ := Option.map_eq_some_iff.mp read
      rw [readRecord_eq_some_iff.mp first, List.flatMap_cons, ih readOthers]
  · rintro rfl
    induction points with
    | nil => rw [List.flatMap_nil, readRecords, if_pos rfl]
    | cons point points ih =>
      have first : readRecord ((point :: points).flatMap fun p => (recordText p).toList) =
          some (point, points.flatMap fun p => (recordText p).toList) :=
        readRecord_eq_some_iff.mpr List.flatMap_cons
      have nonempty : (point :: points).flatMap (fun p => (recordText p).toList) ≠ [] := by
        rw [List.flatMap_cons, toList_recordText]
        simp
      rw [readRecords, if_neg nonempty]
      split
      · rename_i refused
        rw [first] at refused
        cases refused
      · rename_i found
        rw [first] at found
        cases found
        rw [ih]
        rfl

/-! ### Texts -/

namespace Database

/-- The characters of a text. -/
lemma toList_text (db : Database) :
    db.text.toList =
      (header ++ "\n").toList ++ db.points.flatMap fun p => (recordText p).toList := by
  rw [text, String.toList_join, lines, List.flatMap_cons, List.flatMap_map]

/-- Reads a coverage text; `none` if it is not the text of a database. -/
def readText? (text : String) : Option Database :=
  ((header ++ "\n").toList.isPrefixOf? text.toList).bind fun records =>
    (readRecords records).bind fun points =>
      if sorted : points.Pairwise (·.1 < ·.1) then some { points, sorted } else none

/-- Reads the bytes of a coverage text. -/
def readBytes? (bytes : List UInt8) : Option Database :=
  (String.fromUTF8? bytes.toByteArray).bind readText?

/-- A text is read as a database exactly if it is the text of that database. -/
lemma readText?_eq_some_iff {text : String} {db : Database} :
    readText? text = some db ↔ text = db.text := by
  rw [← String.toList_inj, toList_text]
  constructor
  · intro read
    obtain ⟨records, start, read⟩ := Option.bind_eq_some_iff.mp read
    obtain ⟨points, body, read⟩ := Option.bind_eq_some_iff.mp read
    split at read
    · cases read
      rw [← List.isPrefixOf?_eq_some_iff_append_eq.mp start, readRecords_eq_some_iff.mp body]
    · cases read
  · intro same
    have start := List.isPrefixOf?_eq_some_iff_append_eq.mpr same.symm
    have body : readRecords (db.points.flatMap fun p => (recordText p).toList) = some db.points :=
      readRecords_eq_some_iff.mpr rfl
    rw [readText?, start, Option.bind_some, body, Option.bind_some, dif_pos db.sorted]

/-- The bytes of a text are read as its database. -/
lemma readBytes?_text (db : Database) : readBytes? db.text.toUTF8.toList = some db := by
  rw [readBytes?, ByteArray.toByteArray_toList]
  have decoded : String.fromUTF8? db.text.toUTF8 = some db.text := dif_pos db.text.isValidUTF8
  rw [decoded]
  exact readText?_eq_some_iff.mpr rfl

/-- Coverage texts are uniquely decodable.  A text is read as a database exactly if it is the text
of that database, so databases with the same text are equal, and the bytes that a database writes
to a sink with room for them are read as that database again.  Names and counts are not
restricted. -/
theorem text_decodable :
    (∀ (text : String) (db : Database), readText? text = some db ↔ text = db.text) ∧
    (∀ first second : Database, first.text = second.text ↔ first = second) ∧
    (∀ (db : Database) (spare : ℕ), ∃ bytes,
      db.writeTo { room := db.text.toUTF8.size + spare } =
          (true, { room := spare, taken := bytes }) ∧
        readBytes? bytes = some db) := by
  refine ⟨fun _ _ => readText?_eq_some_iff, fun first second => ?_, fun db spare => ?_⟩
  · constructor
    · intro same
      have read : readText? first.text = some second := readText?_eq_some_iff.mpr same
      rw [readText?_eq_some_iff.mpr rfl] at read
      exact Option.some.inj read
    · rintro rfl
      rfl
  · refine ⟨db.text.toUTF8.toList, ?_, db.readBytes?_text⟩
    have all : db.text.toUTF8.toList.length ≤ db.text.toUTF8.size + spare := by
      rw [ByteArray.length_toList]
      exact Nat.le_add_right ..
    rw [writeTo_eq, List.take_of_length_le all, Nat.add_sub_cancel_left, List.nil_append,
      decide_eq_true (Nat.le_add_right ..)]

end Database

end CycleSim.Coverage
