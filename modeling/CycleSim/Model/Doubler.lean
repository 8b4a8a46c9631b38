import CycleSim.Binary64.Doubling
import CycleSim.Decimal.Shortest
import CycleSim.Model.Basic

/-!
# The doubler

A pipeline of one stage that doubles doubles on their bit patterns.  At every rising edge it first
checks the result in its output register against the arithmetic product by 2, then loads the next
operand.  It has finished when every operand was checked, which takes one edge more than there are
operands.  The output registers have no reset; a valid bit keeps their first contents from the
check.
-/

namespace CycleSim

/-- Coverage point of a class of operands. -/
def Binary64.Class.point : Binary64.Class → String
  | zero => "doubler.zero"
  | denormal => "doubler.denormal"
  | normal => "doubler.normal"
  | overflow => "doubler.overflow"
  | infinity => "doubler.infinity"
  | nan => "doubler.nan"

/-- The doubler and the operands it works on. -/
structure Doubler where
  operands : Array Binary64
  /-- Index of the operand to load next. -/
  next : Nat := 0
  clock : Level := .low
  /-- The level at the evaluation before. -/
  previousClock : Level := .low
  /-- Whether the output registers hold a result. -/
  outValid : Bool := false
  /-- The operand that the result belongs to. -/
  outOperand : Binary64
  /-- The result. -/
  outData : Binary64
  /-- Number of results checked. -/
  checked : Nat := 0
  /-- Time of the last evaluation. -/
  lastTime : UInt64 := 0
  deriving DecidableEq, Repr

namespace Doubler

/-- The operands used unless others are given: ordinary numbers of both signs, and the zeros,
infinities, denormals and largest numbers. -/
def builtInOperands : Array Binary64 :=
  #[⟨0x3ff0000000000000⟩, ⟨0xbff0000000000000⟩, ⟨0x3fe0000000000000⟩, ⟨0xbfe0000000000000⟩,
    ⟨0x400a000000000000⟩, ⟨0xc028c00000000000⟩, ⟨0x54b249ad2594c37d⟩, ⟨0xab2bff2ee48e0530⟩,
    ⟨0x4045000000000000⟩, ⟨0x0000000000000000⟩, ⟨0x8000000000000000⟩, ⟨0x7ff0000000000000⟩,
    ⟨0xfff0000000000000⟩, ⟨0x7ff8000000000000⟩, ⟨0x0008000000000000⟩, ⟨0x0000000000000001⟩,
    ⟨0x7fefffffffffffff⟩, ⟨0xffefffffffffffff⟩]

/-- Greatest number of operands that an argument can ask for. -/
def maxVectors : Nat := 1 <<< 20

/-- Beginning of the argument for the number of operands, after its plus sign. -/
def vectorsStart : String := "doubler+vectors="

/-- The built-in operands, repeated in order to `n` operands. -/
def cycledOperands (n : Nat) : Array Binary64 :=
  Array.ofFn fun (i : Fin n) =>
    have : i.val % 18 < builtInOperands.size := Nat.mod_lt _ (by decide)
    builtInOperands[i.val % 18]

/-- Builds a doubler over given operands; it draws the first contents of its output registers. -/
def withOperands (ctx : Context) (operands : Array Binary64) : Doubler × Context :=
  let ctx := ctx.record (Binary64.Class.all.map fun c => .declare c.point)
  let (outOperand, ctx) := ctx.drawRegister 64
  let (outData, ctx) := ctx.drawRegister 64
  ({ operands, outOperand := ⟨outOperand⟩, outData := ⟨outData⟩ }, ctx)

/-- The operands that the arguments ask for; only the first argument of its kind counts. -/
def chosenOperands (ctx : Context) : Except ConfigError (Array Binary64) :=
  match ctx.plusArg? vectorsStart with
  | none => .ok builtInOperands
  | some value =>
    match Decimal.readNat UInt64.size value with
    | none => .error (.malformedVectors value)
    | some n =>
      if maxVectors < n then .error (.tooManyVectors n maxVectors) else .ok (cycledOperands n)

/-- Builds a doubler over the operands that the arguments ask for. -/
def build (ctx : Context) : Except ConfigError (Doubler × Context) :=
  (chosenOperands ctx).map (withOperands ctx)

/-- Whether every operand was checked. -/
def finished (doubler : Doubler) : Bool :=
  doubler.checked == doubler.operands.size

/-- A pattern in hexadecimal with all its digits. -/
def patternText (x : Binary64) : String :=
  let digits := Nat.toDigits 16 x.bits.toNat
  "0x" ++ String.ofList (List.replicate (16 - digits.length) '0' ++ digits)

/-- A double in scientific notation. -/
def operandText (x : Binary64) : String :=
  if x.isFinite then
    (if x.isNegative then "-" else "") ++ (x.shortest .up).scientific false
  else x.specialText

/-- Whether a result is the arithmetic double of its operand; any not-a-number stands for any
other. -/
def matchesProduct (operand data : Binary64) : Bool :=
  let expected := operand.timesTwo
  if expected.isNaN then data.isNaN else expected == data

/-- What the assertion says about a wrong result. -/
def mismatchText (operand data : Binary64) : String :=
  "doubler mismatch for " ++ operandText operand ++ ": expected " ++ patternText operand.timesTwo
    ++ " got " ++ patternText data

/-- Loads the next operand with its double; without one the output registers fall invalid. -/
def load (doubler : Doubler) : Doubler :=
  match doubler.operands[doubler.next]? with
  | some operand =>
    { doubler with
      outOperand := operand
      outData := operand.double
      outValid := true
      next := doubler.next + 1 }
  | none => { doubler with outValid := false }

/-- One time step: at a rising edge the result is checked and the next operand loaded. -/
def evaluate (time : UInt64) (doubler : Doubler) : Evaluation Doubler :=
  let sampled := { doubler with previousClock := doubler.clock, lastTime := time }
  if !doubler.previousClock.rises doubler.clock then { model := sampled }
  else if !doubler.outValid then { model := sampled.load }
  else if matchesProduct doubler.outOperand doubler.outData then
    { model := { sampled with checked := doubler.checked + 1 }.load
      events := [.hit doubler.outOperand.classify.point] }
  else
    { model := sampled
      result := .error (.assertion time (mismatchText doubler.outOperand doubler.outData)) }

/-- Refuses to close while results are unchecked. -/
def finalize (doubler : Doubler) : Except SimError Unit :=
  if doubler.finished then .ok ()
  else .error (.assertion doubler.lastTime
    ("doubler finalized with " ++ toString doubler.checked ++ " of "
      ++ toString doubler.operands.size ++ " results checked"))

instance : DeviceModel Doubler where
  name _ := "doubler"
  setClock level doubler := { doubler with clock := level }
  evaluate ctx doubler := doubler.evaluate ctx.time
  finalize doubler := (doubler.finalize, doubler)
  finished := finished

end Doubler

end CycleSim
