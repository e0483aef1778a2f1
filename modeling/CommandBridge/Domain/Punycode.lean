/-! Characters of any script, spelled in letters, digits and hyphens of ASCII. The ASCII characters
of a text come first, with a hyphen behind them; then follow numbers, each of which says how far to
count on to the next character that is put in and its place. A number has its lowest digit first, in
the digits `a` to `z` and `0` to `9`, and ends at a digit below the threshold of its place;
thresholds adapt to the numbers before. -/
namespace CommandBridge.Domain.Punycode

def radix : Nat := 36

def firstPoint : Nat := 128

def firstBias : Nat := 72

def limit : Nat := 4294967296

def digit (n : Nat) : Char := if n < 26 then Char.ofNat (0x61 + n) else Char.ofNat (0x30 + (n - 26))

def digitValue? (c : Char) : Option Nat :=
  if c.isLower then some (c.toNat - 0x61)
  else if c.isUpper then some (c.toNat - 0x41)
  else if c.isDigit then some (c.toNat - 0x30 + 26)
  else none

/-- The threshold of a place. Places are counted in steps of the radix, from one step on. -/
def threshold (bias place : Nat) : Nat := if place ≤ bias then 1 else min 26 (place - bias)

theorem threshold_pos (bias place : Nat) : 1 ≤ threshold bias place := by
  unfold threshold
  split <;> omega

def biasOf (place number : Nat) : Nat :=
  if 455 < number then biasOf (place + radix) (number / 35) else place + 36 * number / (number + 38)
termination_by number
decreasing_by omega

/-- The bias behind a number that put in the last of some characters. The first number of a text
counts for less. -/
def adapted (number count : Nat) (isFirst : Bool) : Nat :=
  let number := if isFirst then number / 700 else number / 2
  biasOf 0 (number + number / count)

def digits (bias place number : Nat) : List Char :=
  let t := threshold bias place
  if number < t then [digit number]
  else
    digit (t + (number - t) % (radix - t)) ::
      digits bias (place + radix) ((number - t) / (radix - t))
termination_by number
decreasing_by
  have := threshold_pos bias place
  exact Nat.lt_of_le_of_lt (Nat.div_le_self _ _) (by omega)

/-- A text as far as it is spelled: its numbers, how far it has been counted since the last of them,
the bias, and how many characters are in. -/
structure Spelling where
  numbers : List Char
  count : Nat
  bias : Nat
  size : Nat

namespace Spelling

def pass (basic point : Nat) (s : Spelling) (c : Char) : Spelling :=
  if c.toNat < point then { s with count := s.count + 1 }
  else if c.toNat = point then
    { numbers := s.numbers ++ digits s.bias radix s.count
      count := 0
      bias := adapted s.count (s.size + 1) (s.size == basic)
      size := s.size + 1 }
  else s

def putIn (cs : List Char) (basic : Nat) (s : Spelling) : Nat → List Nat → Spelling
  | _, [] => s
  | last, point :: points =>
    let s := { s with count := s.count + (point - last) * (s.size + 1) }
    let s := cs.foldl (pass basic point) s
    putIn cs basic { s with count := s.count + 1 } (point + 1) points

end Spelling

def encode (cs : List Char) : List Char :=
  let basic := cs.filter (·.toNat < firstPoint)
  let others := (cs.map Char.toNat).filter (firstPoint ≤ ·)
  let points := (others.mergeSort (fun a b => decide (a ≤ b))).eraseDups
  let spelled := Spelling.putIn cs basic.length ⟨[], 0, firstBias, basic.length⟩ firstPoint points
  basic ++ (if basic.isEmpty then [] else ['-']) ++ spelled.numbers

/-- A text as far as it is read: its characters, the last code point that was put in and the index
behind it, the bias, and the number under way with the weight and place of its next digit. -/
structure Reading where
  text : List Char
  point : Nat
  index : Nat
  bias : Nat
  number : Nat
  weight : Nat
  place : Nat

namespace Reading

def putIn? (r : Reading) (number : Nat) : Option Reading :=
  let size := r.text.length + 1
  let sum := r.index + number
  let point := r.point + sum / size
  let index := sum % size
  if point.isValidChar then
    some
      { text := r.text.take index ++ Char.ofNat point :: r.text.drop index
        point
        index := index + 1
        bias := adapted number size (r.index == 0)
        number := 0
        weight := 1
        place := radix }
  else none

def read? (r : Reading) (c : Char) : Option Reading := do
  let value ← digitValue? c
  let number := r.number + value * r.weight
  let t := threshold r.bias r.place
  if limit ≤ r.index + number then none
  else if value < t then r.putIn? number
  else if limit ≤ r.weight * (radix - t) then none
  else some { r with number, weight := r.weight * (radix - t), place := r.place + radix }

end Reading

/-- The text that an ASCII spelling stands for. The last hyphen parts the ASCII characters from the
numbers; it may not stand first. -/
def decode? (cs : List Char) : Option (List Char) :=
  let numbers := (cs.reverse.takeWhile (· != '-')).reverse
  let basic := cs.take (cs.length - numbers.length - 1)
  if numbers.length + 1 = cs.length then none
  else
    match numbers.foldlM Reading.read? ⟨basic, firstPoint, 0, firstBias, 0, 1, radix⟩ with
    | some r => if r.place = radix then some r.text else none
    | none => none

end CommandBridge.Domain.Punycode
