import CommandBridge.Text.Utf8

/-! The alphabets of the formats: names of the octets that a grammar over octets speaks of, with the
classes of digits; blank characters; texts cut at signs; and tables of code points. -/
namespace CommandBridge

namespace Octet

abbrev tab : UInt8 := 0x09
abbrev newline : UInt8 := 0x0A
abbrev carriageReturn : UInt8 := 0x0D
abbrev space : UInt8 := 0x20
abbrev quote : UInt8 := 0x22
abbrev percent : UInt8 := 0x25
abbrev ampersand : UInt8 := 0x26
abbrev plus : UInt8 := 0x2B
abbrev comma : UInt8 := 0x2C
abbrev minus : UInt8 := 0x2D
abbrev dot : UInt8 := 0x2E
abbrev slash : UInt8 := 0x2F
abbrev zero : UInt8 := 0x30
abbrev colon : UInt8 := 0x3A
abbrev equals : UInt8 := 0x3D
abbrev openBracket : UInt8 := 0x5B
abbrev backslash : UInt8 := 0x5C
abbrev closeBracket : UInt8 := 0x5D
abbrev openBrace : UInt8 := 0x7B
abbrev closeBrace : UInt8 := 0x7D
abbrev bigE : UInt8 := 0x45
abbrev smallB : UInt8 := 0x62
abbrev smallE : UInt8 := 0x65
abbrev smallF : UInt8 := 0x66
abbrev smallN : UInt8 := 0x6E
abbrev smallR : UInt8 := 0x72
abbrev smallT : UInt8 := 0x74
abbrev smallU : UInt8 := 0x75

def isDigit (b : UInt8) : Bool := 0x30 ≤ b && b ≤ 0x39

/-- What a hexadecimal digit counts, in either case. -/
def hexValue? (b : UInt8) : Option Nat :=
  if isDigit b then some (b.toNat - 0x30)
  else if 0x61 ≤ b && b ≤ 0x66 then some (b.toNat - 0x57)
  else if 0x41 ≤ b && b ≤ 0x46 then some (b.toNat - 0x37)
  else none

/-- The number that octets spell in decimal digits, whatever octets they are. -/
def numeral (digits : Bytes) : Nat := digits.foldl (fun n b => n * 10 + (b.toNat - 0x30)) 0

end Octet

namespace Text

/-! ### Blanks -/

/-- First and last code point of each range with the property `White_Space`. -/
def blankRanges : List (Nat × Nat) :=
  [(0x09, 0x0D), (0x20, 0x20), (0x85, 0x85), (0xA0, 0xA0), (0x1680, 0x1680), (0x2000, 0x200A),
    (0x2028, 0x2029), (0x202F, 0x202F), (0x205F, 0x205F), (0x3000, 0x3000)]

def isBlank (c : Char) : Bool :=
  blankRanges.any fun range => range.1 ≤ c.toNat && c.toNat ≤ range.2

def trimStart (cs : List Char) : List Char := cs.dropWhile isBlank

def trimEnd (cs : List Char) : List Char := (cs.reverse.dropWhile isBlank).reverse

/-! ### Parts between signs -/

def cutStep (isSign : Char → Bool) (c : Char) : List (List Char) → List (List Char)
  | [] => [[c]]
  | part :: parts => if isSign c then [] :: part :: parts else (c :: part) :: parts

/-- The parts of a text between its signs: one more than there are signs. -/
def cutAt (isSign : Char → Bool) (cs : List Char) : List (List Char) :=
  cs.foldr (cutStep isSign) [[]]

/-! ### Tables of code points

A table is a text: its entries stand between blanks, and code points are written in hexadecimal
digits. -/

def hexNumber (cs : List Char) : Nat :=
  cs.foldl (fun n c => n * 16 + (Octet.hexValue? c.toNat.toUInt8).getD 0) 0

def entries (table : String) : List (List Char) := (cutAt isBlank table.toList).filter (!·.isEmpty)

def run (entry : List Char) : Nat × Nat :=
  match cutAt (· == '-') entry with
  | [first, last] => (hexNumber first, hexNumber last)
  | _ => (hexNumber entry, hexNumber entry)

def runs (table : String) : List (Nat × Nat) := (entries table).map run

def isWithin (runs : List (Nat × Nat)) (c : Char) : Bool :=
  runs.any fun run => run.1 ≤ c.toNat && c.toNat ≤ run.2

end Text

end CommandBridge
