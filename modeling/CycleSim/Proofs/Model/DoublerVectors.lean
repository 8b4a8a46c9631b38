import CycleSim.Proofs.Context.Settled
import CycleSim.Proofs.Model.DoublerRun

/-!
# The number of operands

The doubler takes the number of its operands from the first argument that begins with
`+doubler+vectors=`, and whatever stands behind this argument counts for nothing.  `Requested` lists
the operands that arguments ask for and `Refused` the failures, and building a doubler finds exactly
what is listed (`chosenOperands_eq_ok_iff`, `chosenOperands_eq_error_iff`).  A run without a limit
then checks all the operands, in a build with coverage files or without and whether or not the file
can be written (`vectors_honoured`).
-/

namespace CycleSim

/-! ### The first argument of a kind -/

/-- `value` stands behind the first argument that begins with `start`. -/
def FirstValue (start : String) (args : List String) (value : String) : Prop :=
  ∃ before after, args = before ++ (start ++ value) :: after ∧
    ∀ earlier ∈ before, ∀ rest, earlier ≠ start ++ rest

/-- Nothing stands behind a beginning that a text does not have. -/
lemma stripStart?_eq_none_iff {start text : String} :
    stripStart? start text = none ↔ ∀ rest, text ≠ start ++ rest := by
  rw [Option.eq_none_iff_forall_ne_some]
  exact forall_congr' fun rest => not_congr stripStart?_eq_some_iff

/-- Two beginnings one behind the other are one beginning. -/
lemma stripStart?_bind (start next text : String) :
    (stripStart? start text).bind (stripStart? next) = stripStart? (start ++ next) text := by
  refine Option.ext fun rest => ?_
  rw [Option.bind_eq_some_iff, stripStart?_eq_some_iff]
  constructor
  · rintro ⟨middle, first, second⟩
    obtain rfl := stripStart?_eq_some_iff.mp first
    obtain rfl := stripStart?_eq_some_iff.mp second
    exact (String.append_assoc ..).symm
  · rintro rfl
    refine ⟨next ++ rest, ?_, stripStart?_append _ _⟩
    rw [String.append_assoc]
    exact stripStart?_append _ _

namespace Context

/-- The arguments are searched in order. -/
lemma plusArg?_eq (ctx : Context) (start : String) :
    ctx.plusArg? start = ctx.args.findSome? (stripStart? ("+" ++ start)) := by
  rw [plusArg?, ← List.head?_filterMap, ← List.head?_filterMap, List.filterMap_filterMap]
  simp only [stripStart?_bind]

/-- What is found stands behind the first argument of the kind. -/
lemma plusArg?_eq_some_iff {ctx : Context} {start value : String} :
    ctx.plusArg? start = some value ↔ FirstValue ("+" ++ start) ctx.args value := by
  rw [plusArg?_eq, List.findSome?_eq_some_iff]
  constructor
  · rintro ⟨before, arg, after, args, found, unfound⟩
    obtain rfl := stripStart?_eq_some_iff.mp found
    exact ⟨before, after, args, fun earlier mem => stripStart?_eq_none_iff.mp (unfound earlier mem)⟩
  · rintro ⟨before, after, args, unfound⟩
    exact ⟨before, _, after, args, stripStart?_append _ _,
      fun earlier mem => stripStart?_eq_none_iff.mpr (unfound earlier mem)⟩

/-- Nothing is found if there is no argument of the kind. -/
lemma plusArg?_eq_none_iff {ctx : Context} {start : String} :
    ctx.plusArg? start = none ↔ ∀ arg ∈ ctx.args, ∀ rest, arg ≠ "+" ++ start ++ rest := by
  rw [plusArg?_eq, List.findSome?_eq_none_iff]
  exact forall₂_congr fun arg _ => stripStart?_eq_none_iff

end Context

namespace Doubler

open Decimal

/-! ### The operands that are asked for -/

/-- Beginning of the arguments for the number of operands. -/
def vectorsArg : String := "+doubler+vectors="

/-- The operands that arguments ask for. -/
inductive Requested (args : List String) : Array Binary64 → Prop where
  /-- Without an argument for their number they are the built-in ones. -/
  | unasked (absent : ∀ arg ∈ args, ∀ rest, arg ≠ vectorsArg ++ rest) :
      Requested args builtInOperands
  /-- The first argument for their number gives it, and the built-in ones are taken in turn. -/
  | asked {value : String} {n : ℕ} (first : FirstValue vectorsArg args value)
      (denotes : Denotes value n) (le : n ≤ 2 ^ 20) {operands : Array Binary64}
      (size_eq : operands.size = n) (entry : ∀ i < n, operands[i]? = builtInOperands[i % 18]?) :
      Requested args operands

/-- How arguments can ask for a number of operands and be refused. -/
inductive Refused (args : List String) : ConfigError → Prop where
  /-- The first argument for their number gives no 64-bit number. -/
  | malformed {value : String} (first : FirstValue vectorsArg args value)
      (none : ∀ n, Denotes value n → 2 ^ 64 ≤ n) : Refused args (.malformedVectors value)
  /-- The first argument for their number gives too great a number. -/
  | excess {value : String} {n : ℕ} (first : FirstValue vectorsArg args value)
      (denotes : Denotes value n) (lt : n < 2 ^ 64) (gt : 2 ^ 20 < n) :
      Refused args (.tooManyVectors n (2 ^ 20))

variable {context : Context}

/-- The operands in turn are as many as asked for. -/
lemma size_cycledOperands (n : ℕ) : (cycledOperands n).size = n :=
  Array.size_ofFn

/-- The built-in operands are taken in turn. -/
lemma getElem?_cycledOperands {n i : ℕ} (lt : i < n) :
    (cycledOperands n)[i]? = builtInOperands[i % 18]? := by
  have place : i % 18 < builtInOperands.size := Nat.mod_lt _ (by decide)
  rw [cycledOperands, Array.getElem?_ofFn, dif_pos lt, Array.getElem?_eq_getElem place]
  rfl

/-- The arguments settle the number of operands and each of them. -/
lemma eq_cycledOperands {operands : Array Binary64} {n : ℕ} (size_eq : operands.size = n)
    (entry : ∀ i < n, operands[i]? = builtInOperands[i % 18]?) : operands = cycledOperands n := by
  refine Array.ext_getElem? fun i => ?_
  by_cases lt : i < n
  · rw [entry i lt, getElem?_cycledOperands lt]
  · rw [Array.getElem?_eq_none, Array.getElem?_eq_none]
    · rw [size_cycledOperands]
      omega
    · omega

/-- The choice of the operands where an argument gives their number. -/
lemma chosenOperands_of_first {value : String} (first : FirstValue vectorsArg context.args value) :
    chosenOperands context = (readNat UInt64.size value).elim (.error (.malformedVectors value))
      fun n => if maxVectors < n then .error (.tooManyVectors n maxVectors)
        else .ok (cycledOperands n) := by
  have found : context.plusArg? vectorsStart = some value := Context.plusArg?_eq_some_iff.mpr first
  simp only [chosenOperands, found]
  cases readNat UInt64.size value <;> rfl

/-- The operands that are asked for are chosen. -/
lemma chosenOperands_of_requested {operands : Array Binary64}
    (requested : Requested context.args operands) : chosenOperands context = .ok operands := by
  cases requested with
  | unasked absent =>
    have none : context.plusArg? vectorsStart = none := Context.plusArg?_eq_none_iff.mpr absent
    rw [chosenOperands, none]
  | asked first denotes le size_eq entry =>
    have number : readNat UInt64.size _ = some _ :=
      readNat_eq_some_iff.mpr ⟨denotes, Nat.lt_of_le_of_lt le (by decide)⟩
    rw [chosenOperands_of_first first, number, eq_cycledOperands size_eq entry]
    exact if_neg (Nat.not_lt.mpr le)

/-- What is refused is not chosen. -/
lemma chosenOperands_of_refused {cause : ConfigError} (refused : Refused context.args cause) :
    chosenOperands context = .error cause := by
  cases refused with
  | malformed first none =>
    have number : readNat UInt64.size _ = Option.none := readNat_eq_none_iff.mpr none
    rw [chosenOperands_of_first first, number]
    rfl
  | excess first denotes lt gt =>
    have number : readNat UInt64.size _ = some _ := readNat_eq_some_iff.mpr ⟨denotes, lt⟩
    rw [chosenOperands_of_first first, number]
    exact if_pos gt

/-- Arguments ask for some operands or are refused. -/
lemma requested_or_refused (context : Context) :
    (∃ operands, Requested context.args operands) ∨ ∃ cause, Refused context.args cause := by
  cases found : context.plusArg? vectorsStart with
  | none => exact .inl ⟨_, .unasked (Context.plusArg?_eq_none_iff.mp found)⟩
  | some value =>
    have first : FirstValue vectorsArg context.args value := Context.plusArg?_eq_some_iff.mp found
    cases number : readNat UInt64.size value with
    | none => exact .inr ⟨_, .malformed first (readNat_eq_none_iff.mp number)⟩
    | some n =>
      obtain ⟨denotes, lt⟩ := readNat_eq_some_iff.mp number
      rcases Nat.lt_or_ge (2 ^ 20) n with gt | le
      · exact .inr ⟨_, .excess first denotes lt gt⟩
      · exact .inl ⟨_, .asked first denotes le (size_cycledOperands n)
          fun i lt => getElem?_cycledOperands lt⟩

/-- The operands that are chosen are those that are asked for. -/
theorem chosenOperands_eq_ok_iff {operands : Array Binary64} :
    chosenOperands context = .ok operands ↔ Requested context.args operands := by
  refine ⟨fun chosen => ?_, chosenOperands_of_requested⟩
  rcases requested_or_refused context with ⟨operands', requested⟩ | ⟨cause, refused⟩
  · obtain rfl := Except.ok.inj ((chosenOperands_of_requested requested).symm.trans chosen)
    exact requested
  · cases (chosenOperands_of_refused refused).symm.trans chosen

/-- The choice fails exactly as the arguments are refused. -/
theorem chosenOperands_eq_error_iff {cause : ConfigError} :
    chosenOperands context = .error cause ↔ Refused context.args cause := by
  refine ⟨fun failed => ?_, chosenOperands_of_refused⟩
  rcases requested_or_refused context with ⟨operands, requested⟩ | ⟨cause', refused⟩
  · cases (chosenOperands_of_requested requested).symm.trans failed
  · obtain rfl := Except.error.inj ((chosenOperands_of_refused refused).symm.trans failed)
    exact refused

/-- A doubler is built over the operands that are asked for. -/
lemma build_eq_ok_iff {built : Doubler × Context} :
    build context = .ok built ↔
      ∃ operands, Requested context.args operands ∧ built = withOperands context operands := by
  rw [build]
  cases chosen : chosenOperands context with
  | error cause =>
    refine ⟨nofun, fun ⟨operands, requested, _⟩ => ?_⟩
    cases chosen.symm.trans (chosenOperands_eq_ok_iff.mpr requested)
  | ok operands =>
    constructor
    · rintro ⟨rfl⟩
      exact ⟨operands, chosenOperands_eq_ok_iff.mp chosen, rfl⟩
    · rintro ⟨operands', requested, rfl⟩
      obtain rfl := Except.ok.inj (chosen.symm.trans (chosenOperands_eq_ok_iff.mpr requested))
      rfl

/-- Building a doubler fails exactly as the arguments are refused. -/
lemma build_eq_error_iff {cause : ConfigError} :
    build context = .error cause ↔ Refused context.args cause := by
  rw [build, ← chosenOperands_eq_error_iff]
  cases chosenOperands context with
  | error cause' => exact ⟨fun failed => congrArg _ (Except.error.inj failed),
      fun failed => congrArg _ (Except.error.inj failed)⟩
  | ok operands => exact ⟨nofun, nofun⟩

/-- No more operands can be asked for than the limit. -/
lemma Requested.size_le {args : List String} {operands : Array Binary64}
    (requested : Requested args operands) : operands.size ≤ 2 ^ 20 := by
  cases requested with
  | unasked => decide
  | asked first denotes le size_eq => rwa [size_eq]

end Doubler

namespace Bench

open EdgeTriggered

/-- The run has checked all these operands, in two ticks for each and one more, and if coverage is
collected, each class of operands was hit as often as it occurs among them. -/
structure ChecksAll (operands : Array Binary64) (coverage : Bool) (last : Bench Doubler) :
    Prop where
  checked : last.loop.model.checked = operands.size
  ticks : last.loop.stats.ticks.toNat =
    if operands.size = 0 then 0 else 2 * operands.size + 1
  hits : coverage = true → ∃ db, last.loop.context.coverage = some db ∧
    ∀ c : Binary64.Class,
      (db.count? c.point).map UInt64.toNat = some (operands.toList.countP (·.classify = c))

/-- The run of a new doubler in a new context checks all its operands, and ends well if its coverage
file can be written. -/
theorem exists_checksAll {general : GeneralSettings} {coverage : CoverageSettings}
    {args : List String} {context : Context}
    (built : Context.build general coverage args = .ok context) (build : Build) (host : Host)
    (path : String) {operands : Array Binary64} (few : operands.size < 2 ^ 63 - 1) :
    let first := start build (Doubler.withOperands context operands).2
      (Doubler.withOperands context operands).1 host
    ∃ result last, Session first (runCalls path none result) last ∧
      ChecksAll operands coverage.enabled last ∧
      ((first.configured path none).CoverageWritable → result = .ok last.loop.stats) := by
  intro first
  have settled := Context.settled_of_build built
  have ready := ready_doubler build settled.clear host operands
  have time : (Doubler.withOperands context operands).2.time = 0 :=
    ((Context.time_skipDraws _ _).trans (Context.time_skipDraws _ _)).trans settled.time_eq
  have fresh := Doubler.fresh_withOperands context operands
  have length := doublerTicks_eq operands.size
  have fits : 2 * doublerEdges operands.size - 1 ≤ 2 ^ 64 - 2 := by
    rw [← length, doublerTicks]
    split <;> omega
  obtain ⟨result, last, session, completes, well⟩ :=
    ready.exists_completing_run path time (finishedBy_doubler fresh) fits
  refine ⟨result, last, session, ⟨?_, ?_, fun enabled => ?_⟩, well⟩
  · exact (congrArg Doubler.checked completes.work_eq).trans (checked_doubler fresh)
  · exact completes.ticks.trans length.symm
  · have empty : context.coverage = some default := by
      rw [settled.coverage_eq, if_pos enabled]
    have recorded : last.loop.context.coverage =
        (Doubler.withOperands context operands).2.coverage.map
          (·.recordAll (trace (work first.loop.model) (doublerEdges operands.size))) :=
      completes.coverage_eq
    have events : trace (work first.loop.model) (doublerEdges operands.size) =
        Doubler.classHits operands.toList := trace_doubler fresh
    have short : operands.toList.length < 2 ^ 64 := by
      rw [Array.length_toList]
      omega
    rw [Doubler.coverage_withOperands empty, Option.map_some, events,
      ← Coverage.Database.recordAll_append] at recorded
    exact ⟨_, recorded, Doubler.count?_database short⟩

/-- A doubler works on the operands that its arguments ask for: the 18 built-in ones, or as many as
the first argument for their number says, up to `2 ^ 20`, which are the built-in ones in turn.
Otherwise that first argument is refused, whatever arguments stand behind it.  In a new context a
run without a limit checks all the operands in two ticks for each and one more, or in none if there
are no operands, and with coverage each class is hit as often as it occurs among them. -/
theorem vectors_honoured (context : Context) :
    Doubler.builtInOperands.size = 18 ∧
    (∀ operands, (∃ doubler after, Doubler.build context = .ok (doubler, after) ∧
      doubler.operands = operands) ↔ Doubler.Requested context.args operands) ∧
    (∀ cause, Doubler.build context = .error cause ↔ Doubler.Refused context.args cause) ∧
    ∀ {general coverage args}, Context.build general coverage args = .ok context →
      ∀ {doubler after}, Doubler.build context = .ok (doubler, after) →
      ∀ (build : Build) (host : Host) (path : String), ∃ result last,
        Session (start build after doubler host) (runCalls path none result) last ∧
        ChecksAll doubler.operands coverage.enabled last ∧
        (((start build after doubler host).configured path none).CoverageWritable →
          result = .ok last.loop.stats) := by
  refine ⟨rfl, fun operands => ?_, fun cause => Doubler.build_eq_error_iff, ?_⟩
  · constructor
    · rintro ⟨doubler, after, made, rfl⟩
      obtain ⟨operands, requested, same⟩ := Doubler.build_eq_ok_iff.mp made
      cases same
      exact requested
    · intro requested
      exact ⟨_, _, Doubler.build_eq_ok_iff.mpr ⟨operands, requested, rfl⟩, rfl⟩
  · intro general coverage args built doubler after made build host path
    obtain ⟨operands, requested, same⟩ := Doubler.build_eq_ok_iff.mp made
    cases same
    exact exists_checksAll built build host path
      (Nat.lt_of_le_of_lt requested.size_le (by decide))

/-- A new context whose first argument for the number of operands asks for 20. -/
def askingForTwenty : Context :=
  Context.ofSettings {} ["+doubler+vectors", "+doubler+vectors=020", "+doubler+vectors=x"] {}

/-- In that context a doubler works on 20 operands, of which the last two are the first two built-in
ones again, although the argument behind asks for nothing that can be read, and its run takes 41
ticks.  With the arguments the other way round no doubler is built. -/
theorem vectors_honoured_twenty :
    (∃ doubler after, Doubler.build askingForTwenty = .ok (doubler, after) ∧
      doubler.operands = Doubler.cycledOperands 20 ∧
      ∃ result last, Session (start {} after doubler {}) (runCalls "cover" none result) last ∧
        last.loop.model.checked = 20 ∧ last.loop.stats.ticks.toNat = 41) ∧
    Doubler.build { askingForTwenty with args := askingForTwenty.args.reverse } =
      .error (.malformedVectors "x") := by
  have built : Context.build {} {} askingForTwenty.args = .ok askingForTwenty := rfl
  have unnamed : ∀ rest, "+doubler+vectors" ≠ Doubler.vectorsArg ++ rest :=
    stripStart?_eq_none_iff.mp (by decide)
  have first : FirstValue Doubler.vectorsArg askingForTwenty.args "020" :=
    ⟨["+doubler+vectors"], ["+doubler+vectors=x"], by decide, List.forall_mem_singleton.mpr unnamed⟩
  have read : Decimal.readNat UInt64.size "020" = some 20 := by decide
  have size : (Doubler.cycledOperands 20).size = 20 := Doubler.size_cycledOperands 20
  have requested : Doubler.Requested askingForTwenty.args (Doubler.cycledOperands 20) :=
    .asked first (Decimal.readNat_eq_some_iff.mp read).1 (by decide) size
      fun i lt => Doubler.getElem?_cycledOperands lt
  have unread : Decimal.readNat UInt64.size "x" = none := by decide
  have refused : Doubler.Refused askingForTwenty.args.reverse (.malformedVectors "x") :=
    .malformed ⟨[], ["+doubler+vectors=020", "+doubler+vectors"], by decide, nofun⟩
      (Decimal.readNat_eq_none_iff.mp unread)
  obtain ⟨-, takes, -, runs⟩ := vectors_honoured askingForTwenty
  obtain ⟨-, -, fails, -⟩ :=
    vectors_honoured { askingForTwenty with args := askingForTwenty.args.reverse }
  refine ⟨?_, (fails _).mpr refused⟩
  obtain ⟨doubler, after, made, same⟩ := (takes _).mpr requested
  obtain ⟨result, last, session, checks, -⟩ := runs built made {} {} "cover"
  have checked := checks.checked
  have ticks := checks.ticks
  rw [same, size] at checked ticks
  exact ⟨doubler, after, made, same, result, last, session, checked, ticks⟩

end Bench

end CycleSim
