import CommandBridge.Json.Value
import CommandBridge.Text.Basic

/-! Numerals of JSON and the numbers they spell. A numeral without fraction and exponent is an
integer where it fits its word. Any other is a double, which is found in two steps that each round:
the digits that a 64-bit word holds become a double, and the power of ten that is left scales it.
The result is the double nearest to the numeral or, now and then, a neighbour of it. -/
namespace CommandBridge.Json

/-- The parts of a number's text. A missing fraction has no digits. -/
structure Numeral where
  negative : Bool
  whole : Bytes
  fraction : Bytes
  exponent : Option Int

/-- The leading digits of a numeral as one 64-bit word, and the power of ten that it counts in. -/
structure Leading where
  word : Nat
  power : Int

def greatestWord : Nat := 18446744073709551615

/-- Takes in the digits before the point. Once a digit does not fit, it and all behind it only raise
the power. -/
def Leading.takeWhole : Leading → Bytes → Leading
  | l, [] => l
  | l, b :: rest =>
    let longer := l.word * 10 + (b.toNat - 0x30)
    if longer ≤ greatestWord then takeWhole { l with word := longer } rest
    else { l with power := l.power + (rest.length + 1) }

def Leading.takeFraction : Leading → Bytes → Leading
  | l, [] => l
  | l, b :: rest =>
    let longer := l.word * 10 + (b.toNat - 0x30)
    if longer ≤ greatestWord then takeFraction ⟨longer, l.power - 1⟩ rest else l

def Numeral.leading (n : Numeral) : Leading :=
  let l := (Leading.takeWhole ⟨0, 0⟩ n.whole).takeFraction n.fraction
  { l with power := l.power + n.exponent.getD 0 }

def greatestTenth : Nat := 308

/-- A double divided by a power of ten, in steps of at most the greatest one. A word is zero after
two such steps, so a third is never wanted. -/
def lowered : Nat → Double → Nat → Option Double
  | 0, d, _ => some d
  | steps + 1, d, power => do
    let divisor ← Double.ofDecimal? false 1 (min power greatestTenth)
    let d ← d.over? divisor
    if power ≤ greatestTenth || d.isZero then some d else lowered steps d (power - greatestTenth)

/-- A word in a power of ten as a double; nothing where that is infinite. -/
def Leading.double? (l : Leading) : Option Double := do
  let d ← Double.ofDecimal? false l.word 0
  if d.isZero then some d
  else if 0 ≤ l.power then do
    let factor ← Double.ofDecimal? false 1 l.power
    d.times? factor
  else lowered 3 d (-l.power).toNat

/-- The number that a numeral spells: an integer where it has neither fraction nor exponent and fits
its word, a double otherwise, and nothing where that double would be infinite. Minus zero is a
double. -/
def Numeral.number? (n : Numeral) : Option Number :=
  let double := n.leading.double?.map fun d => Number.double (d.signed n.negative)
  if n.fraction.isEmpty && n.exponent.isNone then
    let value : Int := Octet.numeral n.whole
    if n.negative && value == 0 then double
    else (Number.ofInt? (if n.negative then -value else value)).or double
  else double

end CommandBridge.Json
