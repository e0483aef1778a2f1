/-! Finite doubles as exact numbers. A double is a sign, a mantissa and a power of two in the one
canonical form the format has for it; `ofDecimal?` gives the double nearest to a decimal, with a
half going to the even mantissa, and nothing when that double is infinite. Products and quotients
are rounded alike. All arithmetic is exact. -/
namespace CommandBridge

/-- `± mantissa · 2 ^ exponent`. The mantissa has at most 53 binary digits, and only at the least
exponent has it fewer: there stand zero and the subnormal numbers. -/
structure Double where
  negative : Bool
  mantissa : Nat
  exponent : Int
  canonical : mantissa < 9007199254740992 ∧ -1074 ≤ exponent ∧ exponent ≤ 971 ∧
    (4503599627370496 ≤ mantissa ∨ exponent = -1074)
deriving DecidableEq

namespace Double

def zero (negative : Bool) : Double := ⟨negative, 0, -1074, by decide⟩

instance : Inhabited Double := ⟨zero false⟩

def isZero (d : Double) : Bool := d.mantissa == 0

def signed (d : Double) (negative : Bool) : Double := { d with negative }

def ofParts? (negative : Bool) (mantissa : Nat) (exponent : Int) : Option Double :=
  if h : mantissa < 9007199254740992 ∧ -1074 ≤ exponent ∧ exponent ≤ 971 ∧
      (4503599627370496 ≤ mantissa ∨ exponent = -1074) then
    some ⟨negative, mantissa, exponent, h⟩
  else none

end Double

namespace Decimal

/-- `num / den` rounded to a natural number, a half to the even neighbour. -/
def roundHalfEven (num den : Nat) : Nat :=
  let whole := num / den
  let left := 2 * (num % den)
  if left < den || (left == den && whole % 2 == 0) then whole else whole + 1

/-- The quotient `num / den · 2 ^ (-e)` as a quotient of natural numbers. -/
def scale (num den : Nat) (e : Int) : Nat × Nat :=
  (num * Nat.pow 2 (-e).toNat, den * Nat.pow 2 e.toNat)

/-- The greatest `e` with `2 ^ e ≤ num / den`, for positive `num` and `den`. -/
def binaryExponent (num den : Nat) : Int :=
  let e : Int := (Nat.log2 num : Int) - (Nat.log2 den : Int)
  let (num, den) := scale num den e
  if num < den then e - 1 else e

end Decimal

namespace Double

/-- The double nearest to `± num / den`, for positive `num` and `den`. A mantissa that rounds up to
54 binary digits moves to the next exponent; past the greatest exponent there is no finite
double. -/
def ofRatio? (negative : Bool) (num den : Nat) : Option Double :=
  let exponent := max (-1074) (Decimal.binaryExponent num den - 52)
  let scaled := Decimal.scale num den exponent
  let mantissa := Decimal.roundHalfEven scaled.1 scaled.2
  if mantissa = 9007199254740992 then ofParts? negative 4503599627370496 (exponent + 1)
  else ofParts? negative mantissa exponent

/-- The double nearest to `± digits · 10 ^ power`. A power of ten past every finite double and a
value below half of the least positive double are answered before the power is computed. -/
def ofDecimal? (negative : Bool) (digits : Nat) (power : Int) : Option Double :=
  if digits = 0 then some (zero negative)
  else if 0 ≤ power then
    if 308 < power then none else ofRatio? negative (digits * Nat.pow 10 power.toNat) 1
  else if (Nat.log2 digits : Int) + 1 + 3 * power < -1075 then some (zero negative)
  else ofRatio? negative digits (Nat.pow 10 (-power).toNat)

def times? (a b : Double) : Option Double :=
  let negative := a.negative != b.negative
  let exponent := a.exponent + b.exponent
  if a.isZero || b.isZero then some (zero negative)
  else
    ofRatio? negative (a.mantissa * b.mantissa * Nat.pow 2 exponent.toNat)
      (Nat.pow 2 (-exponent).toNat)

def over? (a b : Double) : Option Double :=
  let negative := a.negative != b.negative
  let exponent := a.exponent - b.exponent
  if a.isZero then some (zero negative)
  else
    ofRatio? negative (a.mantissa * Nat.pow 2 exponent.toNat)
      (b.mantissa * Nat.pow 2 (-exponent).toNat)

end Double

end CommandBridge
