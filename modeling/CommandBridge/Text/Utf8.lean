/-! UTF-8 over lists of octets. `encode` writes the octets of each character in turn. Reading runs a
small machine that sees every octet once: it yields the characters met and one mark for each longest
run of octets that begins a character and cannot be finished, so strict reading (`decode?`) and
lenient reading (`decodeLossy`) are two views of the same scan. -/
namespace CommandBridge

abbrev Bytes := List UInt8

namespace Utf8

def encode (cs : List Char) : Bytes := cs.flatMap String.utf8EncodeChar

/-- Where the scan stands. Inside a character it holds the bits read so far, the number of octets
owed after the next one, and the range that the next one must lie in. -/
inductive Place where
  | between
  | inside (bits owed : Nat) (low high : UInt8)

/-- What one octet brings when it stands between two characters. The ranges leave out overlong
forms, surrogates and everything past the last character. -/
inductive Opening where
  | char (c : Char)
  | lead (bits owed : Nat) (low high : UInt8)
  | stray

def opening (b : UInt8) : Opening :=
  if b < 0x80 then .char (Char.ofNat b.toNat)
  else if b < 0xC2 then .stray
  else if b < 0xE0 then .lead (b.toNat - 0xC0) 0 0x80 0xBF
  else if b = 0xE0 then .lead 0 1 0xA0 0xBF
  else if b = 0xED then .lead 0xD 1 0x80 0x9F
  else if b < 0xF0 then .lead (b.toNat - 0xE0) 1 0x80 0xBF
  else if b = 0xF0 then .lead 0 2 0x90 0xBF
  else if b < 0xF4 then .lead (b.toNat - 0xF0) 2 0x80 0xBF
  else if b = 0xF4 then .lead 4 2 0x80 0x8F
  else .stray

def openWith (found : List (Option Char)) (b : UInt8) : List (Option Char) × Place :=
  match opening b with
  | .char c => (some c :: found, .between)
  | .lead bits owed low high => (found, .inside bits owed low high)
  | .stray => (none :: found, .between)

/-- One octet of the scan: a character that cannot go on is marked, and the octet starts afresh. -/
def advance (found : List (Option Char)) : Place → UInt8 → List (Option Char) × Place
  | .between, b => openWith found b
  | .inside bits owed low high, b =>
    if low ≤ b && b ≤ high then
      let bits := bits * 0x40 + (b.toNat - 0x80)
      match owed with
      | 0 => (some (Char.ofNat bits) :: found, .between)
      | owed + 1 => (found, .inside bits owed 0x80 0xBF)
    else openWith (none :: found) b

/-- Everything met in the octets, latest first: characters, and `none` for each malformed run. -/
def scan (found : List (Option Char)) : Place → Bytes → List (Option Char)
  | .between, [] => found
  | .inside .., [] => none :: found
  | place, b :: rest =>
    let (found, place) := advance found place b
    scan found place rest

def units (bytes : Bytes) : List (Option Char) := (scan [] .between bytes).reverse

def decode? (bytes : Bytes) : Option (List Char) :=
  let found := units bytes
  if found.all Option.isSome then some (found.filterMap id) else none

def wellFormedLength (bytes : Bytes) : Nat :=
  (encode (((units bytes).takeWhile Option.isSome).filterMap id)).length

def decodeLossy (bytes : Bytes) : List Char := (units bytes).map (·.getD '\uFFFD')

end Utf8

def octets (s : String) : Bytes := Utf8.encode s.toList

end CommandBridge
