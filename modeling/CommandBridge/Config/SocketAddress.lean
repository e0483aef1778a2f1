import CommandBridge.Text.Basic

/-! Socket addresses: an IPv4 address and a port, or an IPv6 address in brackets, with a numeric
zone if need be, and a port. Octets are written without leading zeros, ports may have them. An IPv6
address is shown with its longest run of zero groups cut out. -/
namespace CommandBridge

inductive SocketAddress where
  | v4 (octets : List UInt8) (port : UInt16)
  | v6 (groups : List UInt16) (zone : UInt32) (port : UInt16)

namespace SocketAddress

def digit? (radix : Nat) (c : Char) : Option Nat :=
  (Octet.hexValue? (if c.toNat < 128 then c.toNat.toUInt8 else 0)).filter (· < radix)

/-- Reads the digits of a number below `limit`; gives it with the text behind it, as every reader
here does. -/
def number? (radix limit : Nat) (cs : List Char) : Option (Nat × List Char) :=
  let digits := cs.takeWhile fun c => (digit? radix c).isSome
  let value := (digits.filterMap (digit? radix)).foldl (fun n d => n * radix + d) 0
  if digits.isEmpty || limit ≤ value then none else some (value, cs.drop digits.length)

def char? (c : Char) : List Char → Option (List Char)
  | d :: rest => if d = c then some rest else none
  | [] => none

def octet? (cs : List Char) : Option (UInt8 × List Char) := do
  let (value, rest) ← number? 10 256 cs
  let width := cs.length - rest.length
  if 3 < width || (cs.head? = some '0' && 1 < width) then none else some (value.toUInt8, rest)

def octets? (cs : List Char) : Option (List UInt8 × List Char) := do
  let (a, cs) ← octet? cs
  let (b, cs) ← octet? (← char? '.' cs)
  let (c, cs) ← octet? (← char? '.' cs)
  let (d, cs) ← octet? (← char? '.' cs)
  some ([a, b, c, d], cs)

def group? (cs : List Char) : Option (UInt16 × List Char) := do
  let (value, rest) ← number? 16 65536 cs
  if 4 < cs.length - rest.length then none else some (value.toUInt16, rest)

def separated? (first : Bool) (cs : List Char) : Option (List Char) :=
  if first then some cs else char? ':' cs

def pair (high low : UInt8) : UInt16 := high.toUInt16 * 256 + low.toUInt16

/-- Reads at most `room` groups between colons; where there is room for two, an IPv4 address may
stand for the last two. Tells whether it did. -/
def groups : Nat → Bool → List Char → List UInt16 × Bool × List Char
  | 0, _, cs => ([], false, cs)
  | room + 1, first, cs =>
    let embedded := if room = 0 then none else (separated? first cs).bind octets?
    match embedded with
    | some ([a, b, c, d], rest) => ([pair a b, pair c d], true, rest)
    | _ =>
      match (separated? first cs).bind group? with
      | none => ([], false, cs)
      | some (g, rest) =>
        let (more, embedded, rest) := groups room false rest
        (g :: more, embedded, rest)

def ipv6? (cs : List Char) : Option (List UInt16 × List Char) :=
  let (head, embedded, rest) := groups 8 true cs
  if head.length = 8 then some (head, rest)
  else if embedded then none
  else do
    let rest ← char? ':' rest
    let rest ← char? ':' rest
    let (tail, _, rest) := groups (7 - head.length) true rest
    some (head ++ List.replicate (8 - head.length - tail.length) 0 ++ tail, rest)

def port? (cs : List Char) : Option (UInt16 × List Char) := do
  let (port, rest) ← number? 10 65536 (← char? ':' cs)
  some (port.toUInt16, rest)

def v4? (cs : List Char) : Option (SocketAddress × List Char) := do
  let (octets, cs) ← octets? cs
  let (port, cs) ← port? cs
  some (.v4 octets port, cs)

def v6? (cs : List Char) : Option (SocketAddress × List Char) := do
  let (groups, cs) ← ipv6? (← char? '[' cs)
  let (zone, cs) := ((char? '%' cs).bind (number? 10 4294967296)).getD (0, cs)
  let (port, cs) ← port? (← char? ']' cs)
  some (.v6 groups zone.toUInt32 port, cs)

def ofText? (text : String) : Option SocketAddress :=
  match (v4? text.toList).or (v6? text.toList) with
  | some (address, []) => some address
  | _ => none

def octetsText (octets : List UInt8) : List Char :=
  List.intercalate ['.'] (octets.map fun b => Nat.toDigits 10 b.toNat)

def groupsText (groups : List UInt16) : List Char :=
  List.intercalate [':'] (groups.map fun g => Nat.toDigits 16 g.toNat)

/-- The longest run of at least two zero groups, the first of several: where it begins and how long
it is. -/
def zeroRun? (groups : List UInt16) : Option (Nat × Nat) :=
  let runs := (List.range 8).map fun i => (i, ((groups.drop i).takeWhile (· == 0)).length)
  let longest := runs.foldl (fun best run => if best.2 < run.2 then run else best) (0, 0)
  if 2 ≤ longest.2 then some longest else none

def ipv6Text (groups : List UInt16) : List Char :=
  match groups with
  | [0, 0, 0, 0, 0, 0xFFFF, a, b] =>
    "::ffff:".toList ++ octetsText [(a / 256).toUInt8, a.toUInt8, (b / 256).toUInt8, b.toUInt8]
  | _ =>
    match zeroRun? groups with
    | some (start, length) =>
      groupsText (groups.take start) ++ [':', ':'] ++ groupsText (groups.drop (start + length))
    | none => groupsText groups

def text : SocketAddress → String
  | .v4 octets port => String.ofList (octetsText octets ++ ':' :: Nat.toDigits 10 port.toNat)
  | .v6 groups zone port =>
    let zone := if zone = 0 then [] else '%' :: Nat.toDigits 10 zone.toNat
    String.ofList ('[' :: ipv6Text groups ++ zone ++ [']', ':'] ++ Nat.toDigits 10 port.toNat)

def invalidMessage : String := "invalid socket address syntax"

end SocketAddress

end CommandBridge
