/-!
# Shortest decimals

Of all decimals that read back as a given binary64 number, the one with the fewest digits that lies
nearest to it; of two equally near ones, the greater. A finite number is `m * 2 ^ q`. The decimals that
read back as it fill the interval halfway to its two neighbours, whose ends count if `m` is even.

Main definitions: `Decimal.shortest` finds the digits, `Decimal.plain` and `Decimal.debug` lay them out.
-/
namespace Testbench.Decimal

/-- A positive number `digits * 10 ^ exponent`. -/
structure Expansion where
  digits : Nat
  exponent : Int
  deriving DecidableEq, Repr

/-- A positive number and the ends of the interval of what reads back as it, over one denominator. -/
structure Interval where
  low : Nat
  value : Nat
  high : Nat
  unit : Nat
  closed : Bool
  deriving DecidableEq, Repr

/-- The interval of the number `m * 2 ^ q`; below a power of two the lower neighbour is nearer. -/
def Interval.ofBinary (m : Nat) (q : Int) (boundary : Bool) : Interval :=
  let scale := Nat.pow 2 q.toNat
  ⟨(4 * m - if boundary then 1 else 2) * scale, 4 * m * scale, (4 * m + 2) * scale,
    4 * Nat.pow 2 (-q).toNat, m % 2 = 0⟩

/-- The number of decimal digits of `n`, at least one. -/
def digitCount (n : Nat) : Nat := (Nat.toDigits 10 n).length

/-- The least number of places after which `value / unit` reaches one, within `fuel` places. -/
def placesToOne (value unit : Nat) : Nat → Nat
  | 0 => 0
  | fuel + 1 => if unit ≤ value then 0 else placesToOne (value * 10) unit fuel + 1

/-- The exponent `e` with `10 ^ (e - 1) ≤ value / unit < 10 ^ e`. -/
def magnitude (i : Interval) : Int :=
  if i.unit ≤ i.value then (digitCount (i.value / i.unit) : Int)
  else 1 - (placesToOne i.value i.unit 400 : Int)

/-- Whether `n * 10 ^ e` reads back as the number of the interval. -/
def Interval.holds (i : Interval) (n : Nat) (e : Int) : Bool :=
  let x := n * Nat.pow 10 e.toNat * i.unit
  let low := i.low * Nat.pow 10 (-e).toNat
  let high := i.high * Nat.pow 10 (-e).toNat
  if i.closed then low ≤ x && x ≤ high else low < x && x < high

/-- The neighbour on the grid `10 ^ e` that reads back, the nearer one if both do. -/
def Interval.onGrid (i : Interval) (e : Int) : Option Nat :=
  let value := i.value * Nat.pow 10 (-e).toNat
  let step := Nat.pow 10 e.toNat * i.unit
  let below := value / step
  let isBelow := i.holds below e
  let isAbove := i.holds (below + 1) e
  if isBelow && isAbove then
    some (if 2 * (value - below * step) < step then below else below + 1)
  else if isBelow then some below
  else if isAbove then some (below + 1)
  else none

/-- Grids from the coarsest on, `fuel` of them. -/
def search (i : Interval) (e : Int) : Nat → Expansion
  | 0 => ⟨0, 0⟩
  | fuel + 1 =>
    match i.onGrid e with
    | some n => ⟨n, e⟩
    | none => search i (e - 1) fuel

/-- The digits without zeros at the end. -/
def trimmed (d : Expansion) : Expansion :=
  if d.digits ≠ 0 ∧ d.digits % 10 = 0 then ⟨d.digits / 10, d.exponent + 1⟩ else d

def ofInterval (i : Interval) : Expansion := trimmed (search i (magnitude i - 1) 18)

inductive Parts where
  | nan
  | infinite (negative : Bool)
  | zero (negative : Bool)
  | finite (negative : Bool) (d : Expansion)
  deriving DecidableEq, Repr

/-- The parts of the number with these bits. -/
def shortest (bits : UInt64) : Parts :=
  let n : Nat := bits.toNat
  let negative := Nat.pow 2 63 ≤ n
  let field : Nat := n / Nat.pow 2 52 % 2048
  let fraction : Nat := n % Nat.pow 2 52
  if field = 2047 then if fraction = 0 then .infinite negative else .nan
  else if field = 0 then
    if fraction = 0 then .zero negative
    else .finite negative (ofInterval (.ofBinary fraction (-1074) false))
  else
    .finite negative (ofInterval
      (.ofBinary (Nat.pow 2 52 + fraction) ((field : Int) - 1075) (fraction = 0 && 1 < field)))

/-! ## Layouts -/

def zeros (n : Nat) : String := String.ofList (List.replicate n '0')

/-- All digits in place, and the point only if digits follow it. -/
def positional (d : Expansion) : String :=
  let digits := toString d.digits
  if 0 ≤ d.exponent then digits ++ zeros d.exponent.toNat
  else
    let places := (-d.exponent).toNat
    let padded := zeros (places + 1 - digits.length) ++ digits
    let whole := padded.length - places
    String.ofList (padded.toList.take whole) ++ "." ++ String.ofList (padded.toList.drop whole)

/-- One digit before the point and the exponent after the letter. -/
def scientific (d : Expansion) : String :=
  let digits := (toString d.digits).toList
  let exponent := d.exponent + (digits.length - 1 : Nat)
  let fraction := digits.drop 1
  String.ofList (digits.take 1) ++
    (if fraction.isEmpty then "" else "." ++ String.ofList fraction) ++ "e" ++ toString exponent

/-- The sign, and a text of the magnitude; numbers that are none have names. -/
def layout (zero : String) (finite : Expansion → String) : Parts → String
  | .nan => "NaN"
  | .infinite negative => if negative then "-inf" else "inf"
  | .zero negative => if negative then "-" ++ zero else zero
  | .finite negative d => if negative then "-" ++ finite d else finite d

/-- A positional text that shows a point in any case. -/
def pointed (d : Expansion) : String :=
  if 0 ≤ d.exponent then positional d ++ ".0" else positional d

/-- Positional and with a point, whatever the exponent. -/
def plain (x : Float) : String := layout "0.0" pointed (shortest x.toBits)

/-- Positional from a ten-thousandth up to ten to the sixteenth, and with an exponent elsewhere. -/
def debug (x : Float) : String :=
  layout "0.0" (fun d =>
    let lead := d.exponent + digitCount d.digits
    if -3 ≤ lead && lead ≤ 16 then pointed d else scientific d) (shortest x.toBits)

end Testbench.Decimal
