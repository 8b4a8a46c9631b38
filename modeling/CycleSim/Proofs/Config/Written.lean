import CycleSim.Proofs.Config.Fields

/-!
# Values as documents write them

Among the scalars of a document, each value of a setting's type has exactly one that is decoded to
it: `Written decode written` says that `decode` reads back what `written` writes and nothing else.
What a section holds after it was decoded can then be told in scalars, the same way for every type
(`Written.reads_required_iff`, `Written.reads_optional_iff`).
-/

namespace CycleSim

open Toml (Node Mismatch Scalar Span)

namespace Toml.Node

/-- The value of a scalar node. -/
def scalar? : Node → Option Scalar
  | scalar _ value => some value
  | _ => none

/-- Whether a node is an integer, a float, a boolean or a string. -/
def isPlain : Node → Bool
  | scalar _ .dateTime => false
  | scalar _ _ => true
  | _ => false

end Toml.Node

/-- Whether `written` gives, for each value, the one scalar that is decoded to it. -/
structure Written {α : Type} (decode : Node → Except Mismatch α) (written : α → Scalar) : Prop where
  decode_eq_ok_iff : ∀ {span : Span} {scalar : Scalar} {value : α},
    decode (.scalar span scalar) = .ok value ↔ scalar = written value

namespace Written

variable {α : Type} {decode : Node → Except Mismatch α} {written : α → Scalar}

/-- Values that are written alike are the same. -/
lemma injective (codec : Written decode written) : Function.Injective written := by
  intro first second same
  have own : decode (.scalar ⟨0, 0⟩ (written first)) = .ok first :=
    codec.decode_eq_ok_iff.mpr rfl
  have other : decode (.scalar ⟨0, 0⟩ (written first)) = .ok second :=
    codec.decode_eq_ok_iff.mpr same
  exact Except.ok.inj (own.symm.trans other)

/-! ### The types of settings -/

/-- Naturals below a bound are written as integers. -/
lemma natural_eq_ok_iff {bound : ℕ} {expected : String} {span : Span} {scalar : Scalar} {n : ℕ} :
    Node.natural bound expected (.scalar span scalar) = .ok n ↔
      scalar = .integer n ∧ n < bound := by
  cases scalar with
  | integer value =>
    simp only [Node.natural, Scalar.integer.injEq]
    split
    · simp; omega
    · simp [Node.refuse]; omega
  | _ => simp [Node.natural, Node.mistyped, Node.refuse]

/-- A type of numbers below a bound is written as integers. -/
lemma ofNatural {ofNat : ℕ → α} {toNat : α → ℕ} {bound : ℕ} {expected : String}
    (below : ∀ value, toNat value < bound) (ofNat_toNat : ∀ value, ofNat (toNat value) = value)
    (toNat_ofNat : ∀ n < bound, toNat (ofNat n) = n) :
    Written (fun node => ofNat <$> node.natural bound expected)
      fun value => .integer (toNat value) where
  decode_eq_ok_iff {span scalar value} := by
    constructor
    · intro decoded
      cases read : Node.natural bound expected (.scalar span scalar) with
      | error mismatch =>
        rw [read] at decoded
        cases decoded
      | ok n =>
        rw [read] at decoded
        cases decoded
        obtain ⟨same, lt⟩ := natural_eq_ok_iff.mp read
        rw [same, toNat_ofNat n lt]
    · intro same
      rw [natural_eq_ok_iff.mpr ⟨same, below value⟩]
      exact congrArg Except.ok (ofNat_toNat value)

/-- Numbers of 32 bits are written as integers. -/
lemma uint32 : Written Node.uint32 fun value => .integer value.toNat :=
  ofNatural UInt32.toNat_lt (fun _ => UInt32.ofNat_toNat) fun _ lt => UInt32.toNat_ofNat_of_lt' lt

/-- Numbers of 64 bits are written as integers. -/
lemma uint64 : Written Node.uint64 fun value => .integer value.toNat :=
  ofNatural UInt64.toNat_lt (fun _ => UInt64.ofNat_toNat) fun _ lt => UInt64.toNat_ofNat_of_lt' lt

/-- Booleans are written as booleans. -/
lemma boolean : Written Node.boolean .boolean where
  decode_eq_ok_iff {span scalar value} := by
    cases scalar <;> simp [Node.boolean, Node.mistyped, Node.refuse]

/-- Texts are written as strings. -/
lemma string (expected : String) : Written (Node.string expected) .string where
  decode_eq_ok_iff {span scalar value} := by
    cases scalar <;> simp [Node.string, Node.mistyped, Node.refuse]

/-- The values of a choice are written as strings with their names, if these are different. -/
lemma choice {all : List α} {name : α → String} (complete : ∀ value, value ∈ all)
    (injective : Function.Injective name) :
    Written (Node.choice (all.map fun value => (name value, value)))
      fun value => .string (name value) where
  decode_eq_ok_iff {span scalar value} := by
    cases scalar with
    | string text =>
      have named : (all.map fun value => (name value, value)).lookup text = some value ↔
          text = name value := by
        rw [List.lookup_named_eq_some_iff fun i _ j _ same => injective same]
        constructor
        · rintro ⟨i, -, rfl, rfl⟩
          rfl
        · rintro rfl
          exact ⟨value, complete value, rfl, rfl⟩
      rw [Node.choice, Scalar.string.injEq, ← named]
      split <;> rename_i found <;> simp [found]
    | _ => simp [Node.choice, Node.refuse]

/-! ### Parts of a section -/

/-- A plain node is a scalar. -/
lemma exists_scalar_of_isPlain {node : Node} (plain : node.isPlain = true) :
    ∃ span scalar, node = .scalar span scalar := by
  cases node with
  | scalar span scalar => exact ⟨span, scalar, rfl⟩
  | _ => cases plain

variable {σ : Type} {name : String} {update : α → σ → σ} {node? : Option Node}

/-- A setting that always has a value holds the given one, or what it held. -/
lemma reads_required_iff (codec : Written decode written) {part : σ → α}
    {part_update : ∀ value record, part (update value record) = value} {unset held : α}
    (plain : node?.all Node.isPlain = true) :
    (Field.required name decode update part part_update).Reads unset node? held ↔
      some (written held) = (node?.bind Node.scalar?).or (some (written unset)) := by
  cases node? with
  | none =>
    rw [Option.bind_none, Option.none_or, Option.some.injEq]
    exact codec.injective.eq_iff.symm
  | some node =>
    obtain ⟨span, scalar, rfl⟩ := exists_scalar_of_isPlain plain
    have decoded_iff : decode (.scalar span scalar) = .ok held ↔ scalar = written held :=
      codec.decode_eq_ok_iff
    rw [Option.bind_some, Node.scalar?, Option.some_or, Option.some.injEq, eq_comm, ← decoded_iff]
    constructor
    · rintro ⟨value, decoded, rfl⟩
      exact decoded
    · exact fun decoded => ⟨held, decoded, rfl⟩

/-- A setting that is absent at first holds the given value, if there is one. -/
lemma reads_optional_iff (codec : Written decode written) {part : σ → Option α}
    {part_update : ∀ value record, part (update value record) = some value} {held : Option α}
    (plain : node?.all Node.isPlain = true) :
    (Field.optional name decode update part part_update).Reads none node? held ↔
      held.map written = (node?.bind Node.scalar?).or none := by
  rw [Option.or_none]
  cases node? with
  | none => exact Option.map_eq_none_iff.symm
  | some node =>
    obtain ⟨span, scalar, rfl⟩ := exists_scalar_of_isPlain plain
    rw [Option.bind_some, Node.scalar?, Option.map_eq_some_iff]
    constructor
    · rintro ⟨value, decoded, rfl⟩
      exact ⟨value, rfl, (codec.decode_eq_ok_iff.mp decoded).symm⟩
    · rintro ⟨value, rfl, same⟩
      exact ⟨value, codec.decode_eq_ok_iff.mpr same.symm, rfl⟩

end Written

end CycleSim
