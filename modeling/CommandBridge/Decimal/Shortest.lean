import CommandBridge.Decimal.Double

/-! The shortest decimal that reads back as a given double. Of the decimal grids `10 ^ p`, from the
coarsest that the number reaches down, the first that has a point in the interval of reals rounding
to the number wins; of two such points the nearer one, and of two equally near the even one. -/
namespace CommandBridge.Decimal

structure Point where
  digits : Nat
  power : Int

/-- The double `mantissa · 2 ^ exponent` in quarters of its last place, and the bounds of the
interval that rounds to it. Below a power of two the grid of doubles is twice as fine, save at the
least exponent. The bounds belong to the interval exactly when the mantissa is even. -/
structure Interval where
  low : Nat
  value : Nat
  high : Nat
  closed : Bool
  exponent : Int

def Interval.of (d : Double) : Interval where
  low := 4 * d.mantissa - (if d.mantissa = 4503599627370496 ∧ d.exponent ≠ -1074 then 1 else 2)
  value := 4 * d.mantissa
  high := 4 * d.mantissa + 2
  closed := d.mantissa % 2 == 0
  exponent := d.exponent - 2

/-- Factors that put `n · 10 ^ power` and `x · 2 ^ exponent` on one scale: the first is `n` times
the first factor, the second is `x` times the second. -/
def commonScale (power exponent : Int) : Nat × Nat :=
  (Nat.pow 10 power.toNat * Nat.pow 2 (-exponent).toNat,
    Nat.pow 2 exponent.toNat * Nat.pow 10 (-power).toNat)

def Interval.holds (i : Interval) (power : Int) (n : Nat) : Bool :=
  let (ten, two) := commonScale power i.exponent
  if i.closed then i.low * two ≤ n * ten && n * ten ≤ i.high * two
  else i.low * two < n * ten && n * ten < i.high * two

def Interval.hit? (i : Interval) (power : Int) : Option Nat :=
  let (ten, two) := commonScale power i.exponent
  let below := i.value * two / ten
  let left := i.value * two - below * ten
  let right := (below + 1) * ten - i.value * two
  match i.holds power below, i.holds power (below + 1) with
  | true, true =>
    if left < right || (left == right && below % 2 == 0) then some below else some (below + 1)
  | true, false => some below
  | false, true => some (below + 1)
  | false, false => none

/-- The greatest `p` with `10 ^ p` at most the value. The logarithm to base two tells it up to one
step. -/
def Interval.magnitude (i : Interval) : Int :=
  let guess := ((Nat.log2 i.value : Int) + i.exponent) * 30103 / 100000 + 1
  let reached (p : Int) : Bool :=
    let (ten, two) := commonScale p i.exponent
    ten ≤ i.value * two
  if reached guess then guess else if reached (guess - 1) then guess - 1 else guess - 2

/-- The shortest decimal of a double that is not zero. Seventeen digits always suffice. -/
def shortest (d : Double) : Point :=
  let i := Interval.of d
  let top := i.magnitude
  match (List.range 17).findSome? fun (k : Nat) =>
      (i.hit? (top - k)).map fun n => Point.mk n (top - k) with
  | some point => point
  | none => ⟨i.value, 0⟩

end CommandBridge.Decimal
