import Mathlib.Data.List.Basic
import CycleSim.Context.PlusArg
import CycleSim.Proofs.Decimal.Numeral

/-!
# What plus-arguments mean

An argument is well-formed or malformed by its text alone.  `Means` lists the forms that override
something, which are one of three beginnings with a numeral of its kind behind it and the bare flag,
and with them every text that overrides nothing.  `Malformed` lists the beginnings with anything
else behind them, each with the failure that it is.  No argument has two beginnings, so it makes no
difference in which order they are tried, and `read` finds exactly what is listed
(`read_eq_ok_iff`, `read_eq_error_iff`).
-/

namespace CycleSim

/-- What stands behind a beginning. -/
lemma stripStart?_eq_some_iff {start text rest : String} :
    stripStart? start text = some rest ↔ text = start ++ rest := by
  rw [stripStart?, Option.ite_none_right_eq_some, List.isPrefixOf_iff_prefix, Option.some.injEq]
  constructor
  · rintro ⟨begins, rfl⟩
    rw [← String.toList_inj, String.toList_append, String.toList_ofList]
    exact (List.prefix_iff_eq_append.mp begins).symm
  · rintro rfl
    simp

/-- A beginning is followed by what was put behind it. -/
@[simp] lemma stripStart?_append (start rest : String) :
    stripStart? start (start ++ rest) = some rest :=
  stripStart?_eq_some_iff.mpr rfl

/-- Of two beginnings neither of which begins with the other, a text has at most one. -/
lemma stripStart?_append_of_apart {start other : String} (rest : String)
    (apart : ¬start.toList <+: other.toList ∧ ¬other.toList <+: start.toList) :
    stripStart? other (start ++ rest) = none := by
  rw [Option.eq_none_iff_forall_ne_some]
  intro behind begins
  rw [stripStart?_eq_some_iff, ← String.toList_inj, String.toList_append,
    String.toList_append] at begins
  have first : start.toList <+: other.toList ++ behind.toList := ⟨rest.toList, begins⟩
  have second : other.toList <+: other.toList ++ behind.toList := List.prefix_append _ _
  rcases List.prefix_or_prefix_of_prefix first second with within | within
  · exact apart.1 within
  · exact apart.2 within

namespace PlusArg

open Decimal

/-- The kinds of arguments that carry a value. -/
inductive Kind where
  | seed
  | resetPolicy
  | debugLevel
  deriving DecidableEq, Repr

namespace Kind

/-- Beginning of the arguments of a kind. -/
def start : Kind → String
  | seed => seedStart
  | resetPolicy => resetPolicyStart
  | debugLevel => debugLevelStart

/-- Values of a kind are below this number. -/
def bound : Kind → ℕ
  | seed => UInt64.size
  | resetPolicy => UInt8.size
  | debugLevel => UInt32.size

/-- The override that a value stands for, if it stands for any. -/
def override? : Kind → ℕ → Option PlusArg
  | seed, n => some (.seed (.ofNat n))
  | resetPolicy, code => (ResetPolicy.ofCode? code).map .resetPolicy
  | debugLevel, n => some (.debugLevel (.ofNat n))

/-- The beginnings of two kinds are apart from each other. -/
lemma start_apart {kind other : Kind} (ne : kind ≠ other) :
    ¬kind.start.toList <+: other.start.toList ∧ ¬other.start.toList <+: kind.start.toList := by
  revert ne
  cases kind <;> cases other <;> decide

/-- The flag does not begin as an argument with a value. -/
lemma stripStart?_debugText (kind : Kind) : stripStart? kind.start debugText = none := by
  cases kind <;> decide

/-- An argument of one kind is of no other. -/
lemma stripStart?_of_ne {kind other : Kind} (ne : kind ≠ other) (value : String) :
    stripStart? other.start (kind.start ++ value) = none :=
  stripStart?_append_of_apart value (start_apart ne)

/-- An argument with a value is not the flag. -/
lemma append_ne_debugText (kind : Kind) (value : String) : kind.start ++ value ≠ debugText := by
  intro same
  have begins := stripStart?_append kind.start value
  rw [same, stripStart?_debugText] at begins
  cases begins

end Kind

/-- What an argument means: a value of a kind, the flag, or nothing that overrides. -/
inductive Means : String → Option PlusArg → Prop
  /-- A numeral of a kind, of a value that stands for an override. -/
  | value {kind : Kind} {value : String} {n : ℕ} {plusArg : PlusArg} (denotes : Denotes value n)
      (lt : n < kind.bound) (meant : kind.override? n = some plusArg) :
      Means (kind.start ++ value) (some plusArg)
  /-- The flag. -/
  | flag : Means debugText (some .debug)
  /-- Any other text without one of the beginnings. -/
  | other {arg : String} (unstarted : ∀ kind : Kind, stripStart? kind.start arg = none)
      (ne : arg ≠ debugText) : Means arg none

/-- How an argument can be malformed. -/
inductive Malformed : String → ConfigError → Prop
  /-- No numeral of its kind stands behind the beginning. -/
  | value {kind : Kind} {value : String} (none : ∀ n, Denotes value n → kind.bound ≤ n) :
      Malformed (kind.start ++ value) (.malformedPlusArg (kind.start ++ value))
  /-- There is no policy with this code. -/
  | policy {value : String} {code : ℕ} (denotes : Denotes value code) (least : 3 ≤ code)
      (lt : code < UInt8.size) : Malformed (resetPolicyStart ++ value) (.unknownPolicy code)

/-- Reading an argument with a value. -/
lemma read_append (kind : Kind) (value : String) :
    read (kind.start ++ value) =
      match readNat kind.bound value with
      | some n =>
        match kind.override? n with
        | some plusArg => .ok (some plusArg)
        | none => .error (.unknownPolicy n)
      | none => .error (.malformedPlusArg (kind.start ++ value)) := by
  -- The beginnings that are tried before that of the kind do not fit.
  have own := stripStart?_append kind.start value
  cases kind with
  | seed =>
    change stripStart? seedStart (Kind.seed.start ++ value) = _ at own
    rw [read, own]
    cases number : readNat UInt64.size value <;> simp [Kind.bound, Kind.override?, number]
  | resetPolicy =>
    have noSeed : stripStart? seedStart (Kind.resetPolicy.start ++ value) = none :=
      Kind.stripStart?_of_ne (show Kind.resetPolicy ≠ .seed by decide) value
    change stripStart? resetPolicyStart (Kind.resetPolicy.start ++ value) = _ at own
    rw [read, noSeed, own]
    cases number : readNat UInt8.size value with
    | none => simp [Kind.bound, number]
    | some n =>
      cases policy : ResetPolicy.ofCode? n <;> simp [Kind.bound, Kind.override?, number, policy]
  | debugLevel =>
    have noSeed : stripStart? seedStart (Kind.debugLevel.start ++ value) = none :=
      Kind.stripStart?_of_ne (show Kind.debugLevel ≠ .seed by decide) value
    have noPolicy : stripStart? resetPolicyStart (Kind.debugLevel.start ++ value) = none :=
      Kind.stripStart?_of_ne (show Kind.debugLevel ≠ .resetPolicy by decide) value
    change stripStart? debugLevelStart (Kind.debugLevel.start ++ value) = _ at own
    rw [read, noSeed, noPolicy, own]
    cases number : readNat UInt32.size value <;> simp [Kind.bound, Kind.override?, number]

/-- Reading an argument without one of the beginnings. -/
lemma read_unstarted {arg : String} (unstarted : ∀ kind : Kind, stripStart? kind.start arg = none) :
    read arg = if arg = debugText then .ok (some .debug) else .ok none := by
  have noSeed : stripStart? seedStart arg = none := unstarted .seed
  have noPolicy : stripStart? resetPolicyStart arg = none := unstarted .resetPolicy
  have noLevel : stripStart? debugLevelStart arg = none := unstarted .debugLevel
  rw [read, noSeed, noPolicy, noLevel]

/-- The overrides that values of the three kinds stand for. -/
lemma override?_cases {kind : Kind} {n : ℕ} {plusArg : PlusArg}
    (meant : kind.override? n = some plusArg) :
    kind = .seed ∧ plusArg = .seed (.ofNat n) ∨
      (kind = .resetPolicy ∧
        ∃ policy, ResetPolicy.ofCode? n = some policy ∧ plusArg = .resetPolicy policy) ∨
      kind = .debugLevel ∧ plusArg = .debugLevel (.ofNat n) := by
  cases kind with
  | seed => exact .inl ⟨rfl, (Option.some.inj meant).symm⟩
  | resetPolicy =>
    obtain ⟨policy, found, same⟩ := Option.map_eq_some_iff.mp meant
    exact .inr (.inl ⟨rfl, policy, found, same.symm⟩)
  | debugLevel => exact .inr (.inr ⟨rfl, (Option.some.inj meant).symm⟩)

/-- The codes of policies are the numbers below 3. -/
lemma ofCode?_eq_none_iff {code : ℕ} : ResetPolicy.ofCode? code = none ↔ 3 ≤ code :=
  List.getElem?_eq_none_iff

/-- Only codes of policies stand for nothing. -/
lemma override?_eq_none_iff {kind : Kind} {n : ℕ} :
    kind.override? n = none ↔ kind = .resetPolicy ∧ 3 ≤ n := by
  cases kind <;> simp [Kind.override?, ofCode?_eq_none_iff]

/-- What an argument means is read. -/
lemma read_of_means {arg : String} {meaning : Option PlusArg} (means : Means arg meaning) :
    read arg = .ok meaning := by
  cases means with
  | value denotes lt meant =>
    rw [read_append, readNat_eq_some_iff.mpr ⟨denotes, lt⟩]
    simp only [meant]
  | flag => rw [read_unstarted Kind.stripStart?_debugText, if_pos rfl]
  | other unstarted ne => rw [read_unstarted unstarted, if_neg ne]

/-- A malformed argument is refused. -/
lemma read_of_malformed {arg : String} {cause : ConfigError} (malformed : Malformed arg cause) :
    read arg = .error cause := by
  cases malformed with
  | value none => rw [read_append, readNat_eq_none_iff.mpr none]
  | @policy value code denotes least lt =>
    have refused : Kind.resetPolicy.override? code = none :=
      override?_eq_none_iff.mpr ⟨rfl, least⟩
    have number : readNat Kind.resetPolicy.bound value = some code :=
      readNat_eq_some_iff.mpr ⟨denotes, lt⟩
    refine (read_append .resetPolicy value).trans ?_
    rw [number]
    simp only [refused]

/-- Every argument means something or is malformed. -/
lemma means_or_malformed (arg : String) :
    (∃ meaning, Means arg meaning) ∨ ∃ cause, Malformed arg cause := by
  by_cases started : ∃ kind : Kind, ∃ value, stripStart? kind.start arg = some value
  · obtain ⟨kind, value, begins⟩ := started
    obtain rfl := stripStart?_eq_some_iff.mp begins
    cases number : readNat kind.bound value with
    | none => exact .inr ⟨_, .value (readNat_eq_none_iff.mp number)⟩
    | some n =>
      obtain ⟨denotes, lt⟩ := readNat_eq_some_iff.mp number
      cases meant : kind.override? n with
      | none =>
        obtain ⟨rfl, least⟩ := override?_eq_none_iff.mp meant
        exact .inr ⟨_, .policy denotes least lt⟩
      | some plusArg => exact .inl ⟨_, .value denotes lt meant⟩
  · have unstarted (kind : Kind) : stripStart? kind.start arg = none := by
      rw [Option.eq_none_iff_forall_ne_some]
      intro value begins
      exact started ⟨kind, value, begins⟩
    by_cases flag : arg = debugText
    · rw [flag]
      exact .inl ⟨_, .flag⟩
    · exact .inl ⟨_, .other unstarted flag⟩

/-- What is read is what the argument means. -/
theorem read_eq_ok_iff {arg : String} {meaning : Option PlusArg} :
    read arg = .ok meaning ↔ Means arg meaning := by
  refine ⟨fun read_eq => ?_, read_of_means⟩
  rcases means_or_malformed arg with ⟨meaning', means⟩ | ⟨cause, malformed⟩
  · obtain rfl := Except.ok.inj ((read_of_means means).symm.trans read_eq)
    exact means
  · cases (read_of_malformed malformed).symm.trans read_eq

/-- What is refused is malformed, and with this failure. -/
theorem read_eq_error_iff {arg : String} {cause : ConfigError} :
    read arg = .error cause ↔ Malformed arg cause := by
  refine ⟨fun read_eq => ?_, read_of_malformed⟩
  rcases means_or_malformed arg with ⟨meaning, means⟩ | ⟨cause', malformed⟩
  · cases (read_of_means means).symm.trans read_eq
  · obtain rfl := Except.error.inj ((read_of_malformed malformed).symm.trans read_eq)
    exact malformed

end PlusArg

end CycleSim
