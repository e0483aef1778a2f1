import CommandBridge.Json.Printer
import CommandBridge.Text.Basic

/-! Percent escapes: a percent sign and two hexadecimal digits stand for an octet. In the body of a
form, pairs of a name and a value stand between ampersands, a plus sign stands for a space, and
everything else that is special is a percent escape. -/
namespace CommandBridge

namespace Percent

def escape? : Bytes → Option UInt8
  | a :: b :: _ => do
    let high ← Octet.hexValue? a
    let low ← Octet.hexValue? b
    some (high * 16 + low).toUInt8
  | _ => none

/-- Replaces the escapes in a text. A percent sign that begins no escape stays. The count is of
digits already accounted for by an escape. -/
def decodeFrom : Nat → Bytes → Bytes
  | _, [] => []
  | skip + 1, _ :: rest => decodeFrom skip rest
  | 0, b :: rest =>
    if b = Octet.percent then
      match escape? rest with
      | some octet => octet :: decodeFrom 2 rest
      | none => b :: decodeFrom 0 rest
    else b :: decodeFrom 0 rest

def decode (bytes : Bytes) : Bytes := decodeFrom 0 bytes

def upperDigit (n : Nat) : Char := if n < 10 then Char.ofNat (0x30 + n) else Char.ofNat (0x37 + n)

def escapeOctet (b : UInt8) : List Char :=
  ['%', upperDigit (b.toNat / 16), upperDigit (b.toNat % 16)]

/-- Escapes the octets of the characters that are in a set, and of those beyond ASCII. -/
def encode (inSet : Char → Bool) (cs : List Char) : List Char :=
  cs.flatMap fun c =>
    if c.toNat < 0x20 || 0x7E < c.toNat ||
      inSet c then (String.utf8EncodeChar c).flatMap escapeOctet else [c]

end Percent

namespace Form

def cut (separator : UInt8) : Bytes → Bytes → List Bytes
  | piece, [] => [piece.reverse]
  | piece, b :: rest =>
    if b = separator then piece.reverse :: cut separator [] rest
      else cut separator (b :: piece) rest

/-- The text that a name or a value spells. Octets that are no text become replacement
characters. -/
def decodePart (bytes : Bytes) : String :=
  String.ofList <| Utf8.decodeLossy <| Percent.decode <|
    bytes.map fun b => if b = Octet.plus then Octet.space else b

/-- The pair of a piece. The first equals sign ends the name; without one there is no value. -/
def pair (piece : Bytes) : String × String :=
  (decodePart (piece.takeWhile (· != Octet.equals)),
    decodePart ((piece.dropWhile (· != Octet.equals)).drop 1))

def pairs (body : Bytes) : List (String × String) :=
  ((cut Octet.ampersand [] body).filter fun piece => !piece.isEmpty).map pair

end Form

end CommandBridge
