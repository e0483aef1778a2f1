import CommandBridge.Config.SocketAddress
import CommandBridge.Domain.Basic
import CommandBridge.Text.Percent

/-! Hosts of addresses: domain names, IPv4 addresses in any of their number forms, and IPv6
addresses in brackets. Where an address leads neither to the web nor to a file, a host that is not
in brackets is a plain text. -/
namespace CommandBridge.Url

/-- A part of an IPv4 address: hexadecimal behind `0x`, octal behind a zero, decimal otherwise. -/
def ipv4Part? (cs : List Char) : Option Nat :=
  let digits (radix : Nat) (cs : List Char) : Option Nat :=
    if cs.all fun c => (SocketAddress.digit? radix c).isSome then
      some ((cs.filterMap (SocketAddress.digit? radix)).foldl (fun n d => n * radix + d) 0)
    else none
  match cs with
  | [] => none
  | '0' :: 'x' :: rest | '0' :: 'X' :: rest => digits 16 rest
  | '0' :: c :: rest => digits 8 (c :: rest)
  | cs => digits 10 cs

/-- Does a host end in a number, so that it must be an IPv4 address? -/
def endsInNumber (parts : List (List Char)) : Bool :=
  let parts := if parts.getLast? = some [] && 1 < parts.length then parts.dropLast else parts
  match parts.getLast? with
  | some part => !part.isEmpty && (part.all Char.isDigit || (ipv4Part? part).isSome)
  | none => false

/-- The IPv4 address of at most four parts; the last part fills all places that are left. -/
def ipv4? (parts : List (List Char)) : Option (List Char) := do
  let parts := if parts.getLast? = some [] && 1 < parts.length then parts.dropLast else parts
  if 4 < parts.length then none
  else
    let numbers ← parts.mapM ipv4Part?
    let last ← numbers.getLast?
    let front := numbers.dropLast
    if front.any (255 < ·) || Nat.pow 256 (5 - numbers.length) ≤ last then none
    else
      let high := (front.foldl (fun n part => n * 256 + part) 0) * Nat.pow 256 (5 - numbers.length)
      let n := high + last
      some (SocketAddress.octetsText [(n / 16777216).toUInt8, (n / 65536 % 256).toUInt8,
        (n / 256 % 256).toUInt8, (n % 256).toUInt8])

def bracketed? (cs : List Char) : Option (List Char) :=
  match SocketAddress.ipv6? (cs.drop 1) with
  | some (groups, [']']) =>
    match SocketAddress.zeroRun? groups with
    | some (start, length) =>
      some ('[' :: SocketAddress.groupsText (groups.take start) ++ [':', ':'] ++
        SocketAddress.groupsText (groups.drop (start + length)) ++ [']'])
    | none => some ('[' :: SocketAddress.groupsText groups ++ [']'])
  | _ => none

def isForbidden (c : Char) : Bool := "\x00\t\n\r #/:<>?@[\\]^|".toList.contains c

def isForbiddenInName (c : Char) : Bool :=
  isForbidden c || c.toNat ≤ 0x20 || c = '%' || c.toNat = 0x7F

def host? (cs : List Char) : Option (List Char) :=
  if cs.head? = some '[' then bracketed? cs
  else do
    let name ← Domain.toAscii? (Utf8.decodeLossy (Percent.decode (Utf8.encode cs)))
    if name.isEmpty || name.any isForbiddenInName then none
    else
      let parts := Text.cutAt (· == '.') name
      if endsInNumber parts then ipv4? parts else some name

def plainHost? (cs : List Char) : Option (List Char) :=
  if cs.head? = some '[' then bracketed? cs
  else if cs.any isForbidden then none
  else some (Percent.encode (fun _ => false) cs)

end CommandBridge.Url
