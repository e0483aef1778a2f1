import CommandBridge.Text.Basic

/-! Parts of a file that a request may ask for instead of all of it. A part runs from one place to
another, or from one place to the end, or is a number of octets at the end. -/
namespace CommandBridge.Http

inductive Range where
  | between (first last : Nat)
  | onward (first : Nat)
  | final (count : Nat)
deriving DecidableEq

namespace Range

/-- The number that digits spell: no zero before another digit, and no more than a 64-bit word. -/
def number? (cs : List Char) : Option Nat :=
  let value := cs.foldl (fun n c => n * 10 + (c.toNat - 48)) 0
  if cs.isEmpty || !cs.all Char.isDigit || (cs.head? = some '0' && 1 < cs.length) ||
      18446744073709551615 < value then none
  else some value

/-- A part: two numbers around a hyphen, of which the second may be missing, or the first one for a
count of octets at the end. -/
def ofText? (cs : List Char) : Option Range :=
  match Text.cutAt (· == '-') cs with
  | [[], count] =>
    match number? count with
    | some count => if count = 0 then none else some (.final count)
    | none => none
  | [first, []] => (number? first).map .onward
  | [first, last] => do
    let first ← number? first
    let last ← number? last
    some (.between first last)
  | _ => none

def unspaced? (cs : List Char) : Option (List Char) :=
  if (cs.getLast?.map Text.isBlank).getD false || 1 < cs.countP Text.isBlank then none
  else some (Text.trimStart cs)

def parts? (cs : List Char) : Option (List Range) :=
  match Text.cutAt (· == '=') cs with
  | [unit, parts] =>
    if unit = "bytes".toList && !(parts.head?.map Text.isBlank).getD false then
      (Text.cutAt (· == ',') parts).mapM fun part => (unspaced? part).bind ofText?
    else none
  | _ => none

/-- The first and the last octet of a part of a file. A part that begins before the file has
none. -/
def bounds? (size : Nat) : Range → Option (Nat × Nat)
  | .between first last => some (first, min last (size - 1))
  | .onward first => some (first, size - 1)
  | .final count => if size < count then none else some (size - count, size - 1)

def overlap (a b : Nat × Nat) : Bool := a.1 ≤ b.2 && b.1 ≤ a.2

def areApart : List (Nat × Nat) → Bool
  | [] => true
  | a :: rest => !rest.any (overlap a) && areApart rest

/-- The bounds of all parts of a file that a text asks for; nothing when it is malformed, when a
part lies outside the file, or when two of them overlap. -/
def allBounds? (size : Nat) (cs : List Char) : Option (List (Nat × Nat)) := do
  let bounds ← (← parts? cs).mapM (bounds? size)
  if bounds.all (fun b => b.1 ≤ b.2) && areApart bounds then some bounds else none

end Range

end CommandBridge.Http
