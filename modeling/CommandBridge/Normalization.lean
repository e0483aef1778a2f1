import CommandBridge.Payload
import CommandBridge.Text.Basic

/-! Time fields. Run records carry times as 64-bit numbers, which reach the bridge as numbers or as
strings. In the records of a sequence each time field that is present is replaced by the integer at
the head of its text. -/
namespace CommandBridge

def timeFields : List String := ["lastStarted", "lastStopped", "startTime", "endTime"]

mutual

/-- The text of a value: a string itself, an array as its items between commas, any object alike. -/
def plainText : Json → List Char
  | .string s => s.toList
  | .number n => Json.numberText n
  | .bool true => ['t', 'r', 'u', 'e']
  | .bool false => ['f', 'a', 'l', 's', 'e']
  | .null => ['n', 'u', 'l', 'l']
  | .array [] => []
  | .array (v :: rest) => plainText v ++ plainTexts rest
  | .object _ => "[object Object]".toList

def plainTexts : List Json → List Char
  | [] => []
  | v :: rest => ',' :: (plainText v ++ plainTexts rest)

end

def digitsValue (digits : List Char) : Nat := digits.foldl (fun n c => n * 10 + (c.toNat - 48)) 0

/-- A sign and the digits behind it, at the head of a text without leading blanks. -/
def signedDigits (cs : List Char) : Bool × List Char :=
  match cs with
  | '-' :: rest => (true, rest.takeWhile Char.isDigit)
  | '+' :: rest => (false, rest.takeWhile Char.isDigit)
  | _ => (false, cs.takeWhile Char.isDigit)

/-- An integer as a value: exact within the signed 64-bit range, beyond it the nearest double, and
null where that is infinite. -/
def integerValue (negative : Bool) (magnitude : Nat) : Json :=
  let n : Int := if negative then -(magnitude : Int) else magnitude
  if h : -9223372036854775808 ≤ n ∧ n < 9223372036854775808 then .number (.int n ⟨h.1, by omega⟩)
  else
    match Double.ofDecimal? negative magnitude 0 with
    | some d => .number (.double d)
    | none => .null

/-- The integer at the head of a text: blanks, at most one sign, then digits up to the first
character that is none. Without digits there is no number, which is null. -/
def leadingInteger (cs : List Char) : Json :=
  let (negative, digits) := signedDigits (Text.trimStart cs)
  if digits.isEmpty then .null else integerValue negative (digitsValue digits)

def normalizeMembers (members : Members) : Members :=
  members.map fun m =>
    if timeFields.contains m.1 then (m.1, leadingInteger (plainText m.2)) else m

def normalizeItem : Json → Json
  | .object members => .object (normalizeMembers members)
  | v => v

def Payload.normalize : Payload → Payload
  | .records rs => .records (rs.map normalizeMembers)
  | .scalar (.array items) => .scalar (.array (items.map normalizeItem))
  | p => p

end CommandBridge
