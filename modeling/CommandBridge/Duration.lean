/-! Spans of time, told in the largest of the units s, ms, µs and ns that they fill at least
once. -/
namespace CommandBridge

structure Duration where
  seconds : Nat
  nanoseconds : Nat

namespace Duration

def ofParts (seconds nanoseconds : Nat) : Duration :=
  ⟨seconds + nanoseconds / 1000000000, nanoseconds % 1000000000⟩

def ofMilliseconds (ms : Nat) : Duration := ⟨ms / 1000, ms % 1000 * 1000000⟩

def milliseconds (d : Duration) : Nat := d.seconds * 1000 + d.nanoseconds / 1000000

/-- The decimal places of `part` out of `10 ^ places`, with its point, without zeros at the end. -/
def fraction (places part : Nat) : List Char :=
  let digits := Nat.toDigits 10 part
  let padded := List.replicate (places - digits.length) '0' ++ digits
  let kept := (padded.reverse.dropWhile (· == '0')).reverse
  if kept.isEmpty then [] else '.' :: kept

def text (d : Duration) : String :=
  let (places, whole, part, unit) :=
    if 0 < d.seconds then (9, d.seconds, d.nanoseconds, "s")
    else if 1000000 ≤ d.nanoseconds then (6, d.nanoseconds / 1000000, d.nanoseconds % 1000000, "ms")
    else if 1000 ≤ d.nanoseconds then (3, d.nanoseconds / 1000, d.nanoseconds % 1000, "µs")
    else (0, d.nanoseconds, 0, "ns")
  Nat.repr whole ++ String.ofList (fraction places part) ++ unit

end Duration

end CommandBridge
