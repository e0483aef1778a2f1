import CommandBridge.Decimal.Double

/-! JSON values. Numbers keep the difference between an integer that fits a 64-bit word and a
double. The members of an object stand in the order of their keys, each key once, in every value
that `Json.ofMembers` builds. -/
namespace CommandBridge

/-- A number: an integer within the signed or unsigned 64-bit range, or a finite double. -/
inductive Number where
  | int (value : Int) (inRange : -9223372036854775808 ≤ value ∧ value < 18446744073709551616)
  | double (value : Double)
deriving DecidableEq

inductive Json where
  | null
  | bool (value : Bool)
  | number (value : Number)
  | string (value : String)
  | array (items : List Json)
  | object (members : List (String × Json))
deriving Inhabited

namespace Number

/-- The number for an integer in range, and nothing for one outside it. -/
def ofInt? (n : Int) : Option Number :=
  if h : -9223372036854775808 ≤ n ∧ n < 18446744073709551616 then some (.int n h) else none

theorem small_inRange {n : Nat} (h : n < 4294967296) :
    -9223372036854775808 ≤ (n : Int) ∧ (n : Int) < 18446744073709551616 := by
  omega

end Number

namespace Json

/-- Puts a member at its place in the order of keys; a member of the same key is replaced. -/
def insert (key : String) (value : Json) : List (String × Json) → List (String × Json)
  | [] => [(key, value)]
  | (k, v) :: rest =>
    if key < k then (key, value) :: (k, v) :: rest
    else if key = k then (key, value) :: rest
    else (k, v) :: insert key value rest

/-- The object with the given members. Of two with one key the later counts. -/
def ofMembers (members : List (String × Json)) : Json :=
  .object (members.foldl (fun sorted m => insert m.1 m.2 sorted) [])

def find? (key : String) (members : List (String × Json)) : Option Json :=
  (members.find? fun m => m.1 == key).map (·.2)

def word (n : UInt32) : Json := .number (.int n.toNat (Number.small_inRange (UInt32.toNat_lt n)))

end Json

end CommandBridge
