import CommandBridge.Text.Utf8

/-! Texts in a declared encoding. A byte order mark at the head of the octets decides over any
declaration and is left out; octets that are malformed become replacement characters. Four encodings
are written out; of the others it is taken as given how octets are read in them. -/
namespace CommandBridge

/-- The encodings that are not written out: how octets are read in the one that a label tells, if it
tells one. Labels come in lower case, without blanks around them. -/
structure Encodings where
  decoder? : String → Option (Bytes → List Char)

def Encodings.none : Encodings := ⟨fun _ => .none⟩

inductive Charset where
  | utf8
  | utf16le
  | utf16be
  | windows1252
  | other (decoder : Bytes → List Char)

namespace Charset

def windows1252High : List Nat :=
  [0x20AC, 0x81, 0x201A, 0x192, 0x201E, 0x2026, 0x2020, 0x2021, 0x2C6, 0x2030, 0x160, 0x2039, 0x152,
    0x8D, 0x17D, 0x8F, 0x90, 0x2018, 0x2019, 0x201C, 0x201D, 0x2022, 0x2013, 0x2014, 0x2DC, 0x2122,
    0x161, 0x203A, 0x153, 0x9D, 0x17E, 0x178]

def windows1252Char (b : UInt8) : Char :=
  Char.ofNat (if 0x80 ≤ b && b ≤ 0x9F then windows1252High.getD (b.toNat - 0x80) 0xFFFD
    else b.toNat)

/-- The units of two octets each; one that is left over is none. -/
def units (bigEndian : Bool) : Bytes → List (Option Nat)
  | [] => []
  | [_] => [none]
  | a :: b :: rest =>
    some (if bigEndian then a.toNat * 256 + b.toNat
      else b.toNat * 256 + a.toNat) :: units bigEndian rest

/-- The characters of units: a leading and a trailing surrogate make one character, and a surrogate
that stands alone is malformed. -/
def joinSurrogates : Option Nat → List (Option Nat) → List Char
  | none, [] => []
  | some _, [] => ['\uFFFD']
  | held, none :: rest =>
    (if held.isSome then ['\uFFFD'] else []) ++ '\uFFFD' :: joinSurrogates none rest
  | none, some unit :: rest =>
    if 0xD800 ≤ unit && unit ≤ 0xDBFF then joinSurrogates (some unit) rest
    else if 0xDC00 ≤ unit && unit ≤ 0xDFFF then '\uFFFD' :: joinSurrogates none rest
    else Char.ofNat unit :: joinSurrogates none rest
  | some lead, some unit :: rest =>
    if 0xDC00 ≤ unit && unit ≤ 0xDFFF then
      Char.ofNat (0x10000 + (lead - 0xD800) * 0x400 + (unit - 0xDC00)) :: joinSurrogates none rest
    else if 0xD800 ≤ unit && unit ≤ 0xDBFF then '\uFFFD' :: joinSurrogates (some unit) rest
    else '\uFFFD' :: Char.ofNat unit :: joinSurrogates none rest

def decodeAs : Charset → Bytes → List Char
  | .utf8, bytes => Utf8.decodeLossy bytes
  | .utf16le, bytes => joinSurrogates none (units false bytes)
  | .utf16be, bytes => joinSurrogates none (units true bytes)
  | .windows1252, bytes => bytes.map windows1252Char
  | .other decoder, bytes => decoder bytes

/-- The encoding that a byte order mark tells, and the octets behind the mark. -/
def marked? : Bytes → Option (Charset × Bytes)
  | 0xEF :: 0xBB :: 0xBF :: rest => some (.utf8, rest)
  | 0xFF :: 0xFE :: rest => some (.utf16le, rest)
  | 0xFE :: 0xFF :: rest => some (.utf16be, rest)
  | _ => none

def decode (declared : Charset) (bytes : Bytes) : List Char :=
  match marked? bytes with
  | some (charset, rest) => charset.decodeAs rest
  | none => declared.decodeAs bytes

def labels : List (String × Charset) :=
  [("utf-8", .utf8), ("utf8", .utf8), ("unicode-1-1-utf-8", .utf8), ("unicode11utf8", .utf8),
    ("unicode20utf8", .utf8), ("x-unicode20utf8", .utf8), ("utf-16le", .utf16le),
    ("utf-16", .utf16le), ("unicode", .utf16le), ("ucs-2", .utf16le), ("iso-10646-ucs-2", .utf16le),
    ("csunicode", .utf16le), ("unicodefeff", .utf16le), ("utf-16be", .utf16be),
    ("unicodefffe", .utf16be), ("windows-1252", .windows1252), ("latin1", .windows1252),
    ("iso-8859-1", .windows1252), ("iso8859-1", .windows1252), ("iso88591", .windows1252),
    ("iso_8859-1", .windows1252), ("iso_8859-1:1987", .windows1252), ("iso-ir-100", .windows1252),
    ("l1", .windows1252), ("cp1252", .windows1252), ("x-cp1252", .windows1252),
    ("cp819", .windows1252), ("ibm819", .windows1252), ("csisolatin1", .windows1252),
    ("ascii", .windows1252), ("us-ascii", .windows1252), ("ansi_x3.4-1968", .windows1252)]

def ofLabel? (encodings : Encodings) (label : String) : Option Charset :=
  let isBlank (c : Char) : Bool := c = ' ' || c = '\t' || c = '\n' || c = '\r' || c = '\x0c'
  let cs := ((label.toList.dropWhile isBlank).reverse.dropWhile isBlank).reverse
  let lower := String.ofList (cs.map Char.toLower)
  ((labels.find? fun l => l.1 == lower).map (·.2)).or ((encodings.decoder? lower).map .other)

end Charset

end CommandBridge
