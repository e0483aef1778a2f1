import CommandBridge.Decimal.Shortest

/-! How the digits of a double are laid out. Numbers of moderate size stand in positional notation
with at least one place after the point, all others in scientific notation with a signed exponent
and no superfluous point. -/
namespace CommandBridge.Decimal

/-- The decimal exponents written positionally. -/
structure Layout where
  least : Int
  greatest : Int

def Layout.wire : Layout := ⟨-5, 15⟩

/-- The decimal digits of a number, without the zeros at its end, and how many those were. -/
def significant (n : Nat) : List Char × Nat :=
  let digits := (Nat.toDigits 10 n).reverse
  ((digits.dropWhile (· == '0')).reverse, (digits.takeWhile (· == '0')).length)

def signedExponent (e : Int) : List Char :=
  (if e < 0 then '-' else '+') :: Nat.toDigits 10 e.natAbs

def positional (digits : List Char) (e : Int) : List Char :=
  if e < 0 then ['0', '.'] ++ List.replicate (-e - 1).toNat '0' ++ digits
  else
    let width := e.toNat + 1
    let whole := digits.take width ++ List.replicate (width - digits.length) '0'
    whole ++ '.' :: (if digits.length ≤ width then ['0'] else digits.drop width)

def scientific (digits : List Char) (e : Int) : List Char :=
  let places := digits.drop 1
  digits.take 1 ++ (if places.isEmpty then [] else '.' :: places) ++ 'e' :: signedExponent e

def Layout.place (layout : Layout) (digits : List Char) (e : Int) : List Char :=
  if layout.least ≤ e && e ≤ layout.greatest then positional digits e else scientific digits e

def Layout.text (layout : Layout) (d : Double) : List Char :=
  let sign := if d.negative then ['-'] else []
  if d.isZero then sign ++ ['0', '.', '0']
  else
    let point := shortest d
    let (digits, zeros) := significant point.digits
    sign ++ layout.place digits (point.power + zeros + digits.length - 1)

end CommandBridge.Decimal
