import CommandBridge.Json.Fault
import CommandBridge.Json.Numeral

/-! The words, strings and numbers of JSON text. Each reader takes the octets from its place on and
returns what it read with the octets behind it, or the first fault with the octets behind that.
Whoever only looks at an octet and finds it wrong counts it as read. -/
namespace CommandBridge.Json

def fail {α : Type} (fault : Fault) (rest : Bytes) : Except ReadError α :=
  .error ⟨fault, rest, none⟩

def isBlank (b : UInt8) : Bool :=
  b = Octet.space || b = Octet.tab || b = Octet.newline || b = Octet.carriageReturn

def skipBlanks (bytes : Bytes) : Bytes := bytes.dropWhile isBlank

def readWord : Bytes → Bytes → Except ReadError Bytes
  | [], bytes => .ok bytes
  | _ :: _, [] => fail .endInValue []
  | w :: word, b :: rest => if b = w then readWord word rest else fail .wordExpected rest

abbrev nullTail : Bytes := [0x75, 0x6C, 0x6C]
abbrev trueTail : Bytes := [0x72, 0x75, 0x65]
abbrev falseTail : Bytes := [0x61, 0x6C, 0x73, 0x65]

/-- The unit that four hexadecimal digits spell. With fewer than four octets left the text has
ended. -/
def hexUnit : Bytes → Except ReadError Nat
  | a :: b :: c :: d :: rest =>
    match Octet.hexValue? a, Octet.hexValue? b, Octet.hexValue? c, Octet.hexValue? d with
    | some a, some b, some c, some d => .ok (((a * 16 + b) * 16 + c) * 16 + d)
    | _, _, _, _ => fail .badEscape rest
  | _ => fail .endInString []

def trailingUnit : Bytes → Except ReadError Nat
  | [] => fail .endInString []
  | a :: rest =>
    if a = Octet.backslash then
      match rest with
      | [] => fail .endInString []
      | b :: rest =>
        if b = Octet.smallU then do
          let unit ← hexUnit rest
          if 0xDC00 ≤ unit && unit ≤ 0xDFFF then .ok unit else fail .loneSurrogate (rest.drop 4)
        else fail .hexEscapeEnd rest
    else fail .hexEscapeEnd rest

def unicodeEscape (bytes : Bytes) : Except ReadError (Char × Nat) := do
  let unit ← hexUnit bytes
  if 0xDC00 ≤ unit && unit ≤ 0xDFFF then fail .loneSurrogate (bytes.drop 4)
  else if 0xD800 ≤ unit && unit ≤ 0xDBFF then
    let trailing ← trailingUnit (bytes.drop 4)
    .ok (Char.ofNat (0x10000 + (unit - 0xD800) * 0x400 + (trailing - 0xDC00)), 10)
  else .ok (Char.ofNat unit, 4)

def plainEscape? (b : UInt8) : Option Char :=
  if b = Octet.quote then some '"'
  else if b = Octet.backslash then some '\\'
  else if b = Octet.slash then some '/'
  else if b = Octet.smallB then some '\x08'
  else if b = Octet.smallF then some '\x0c'
  else if b = Octet.smallN then some '\n'
  else if b = Octet.smallR then some '\r'
  else if b = Octet.smallT then some '\t'
  else none

/-- The character that an escape stands for, and how many octets behind the backslash it takes. -/
def readEscape : Bytes → Except ReadError (Char × Nat)
  | [] => fail .endInString []
  | b :: rest =>
    match plainEscape? b with
    | some plain => .ok (plain, 1)
    | none =>
      if b = Octet.smallU then do
        let (c, used) ← unicodeEscape rest
        .ok (c, used + 1)
      else fail .badEscape rest

/-- Reads the octets of a string from behind its opening quote, escapes undone. The first argument
counts octets already accounted for by an escape; then come the octets of the string so far, latest
first. -/
def stringTail : Nat → Bytes → Bytes → Except ReadError (Bytes × Bytes)
  | _, _, [] => fail .endInString []
  | skip + 1, found, _ :: rest => stringTail skip found rest
  | 0, found, b :: rest =>
    if b = Octet.quote then .ok (found.reverse, rest)
    else if b = Octet.backslash then
      match readEscape rest with
      | .ok (c, used) => stringTail used ((String.utf8EncodeChar c).reverse ++ found) rest
      | .error e => .error e
    else if b < 0x20 then fail .controlCharacter rest
    else stringTail 0 (b :: found) rest

/-- Reads a string from behind its opening quote. Its octets are read as text when all of them are
there, so an octet before an escape may begin a character with one that the escape stands for.
Octets that are no text show as far before the place behind the closing quote as there are octets of
the string from the first one on that begins no character. -/
def readString (bytes : Bytes) : Except ReadError (String × Bytes) :=
  match stringTail 0 [] bytes with
  | .ok (found, rest) =>
    match Utf8.decode? found with
    | some cs => .ok (String.ofList cs, rest)
    | none =>
      fail .badCodePoint
        (bytes.drop (bytes.length - rest.length - (found.length - Utf8.wellFormedLength found)))
  | .error e => .error e

def readDigits (bytes : Bytes) : Bytes × Bytes := bytes.span Octet.isDigit

/-- Reads the exponent behind its letter: a sign if there is one, and digits. An exponent past the
greatest 32-bit integer makes any number but zero too large, which shows at the digit that passes
it. -/
def readExponent (isZero : Bool) (bytes : Bytes) : Except ReadError (Int × Bytes) :=
  let (negative, bytes) := match bytes with
    | b :: rest =>
        if b = Octet.minus then (true, rest)
        else if b = Octet.plus then (false, rest)
        else (false, bytes)
    | [] => (false, [])
  match readDigits bytes with
  | ([], []) => fail .endInValue []
  | ([], _ :: rest) => fail .badNumber rest
  | (digits, rest) =>
    let value := Octet.numeral digits
    if !negative && !isZero && 2147483647 < value then
      let short := (List.range digits.length).find? fun n =>
        2147483647 < Octet.numeral (digits.take (n + 1))
      fail .numberOutOfRange (bytes.drop (short.getD 0 + 1))
    else .ok (if negative then -(value : Int) else value, rest)

def readNumeral (negative : Bool) (bytes : Bytes) : Except ReadError (Numeral × Bytes) :=
  match readDigits bytes with
  | ([], []) => fail .endInValue []
  | ([], _ :: rest) => fail .badNumber rest
  | (first :: more, rest) =>
    if first = Octet.zero && !more.isEmpty then fail .badNumber (more.drop 1 ++ rest)
    else do
      let whole := first :: more
      let (fraction, rest) ← match rest with
        | b :: behind =>
          if b = Octet.dot then
            match readDigits behind with
            | ([], []) => fail .endInValue []
            | ([], _ :: rest) => fail .badNumber rest
            | (digits, rest) => .ok (digits, rest)
          else .ok ([], rest)
        | [] => .ok ([], [])
      match rest with
      | b :: behind =>
        if b = Octet.smallE || b = Octet.bigE then do
          let (exponent, rest) ← readExponent (Octet.numeral (whole ++ fraction) == 0) behind
          .ok (⟨negative, whole, fraction, some exponent⟩, rest)
        else .ok (⟨negative, whole, fraction, none⟩, rest)
      | [] => .ok (⟨negative, whole, fraction, none⟩, [])

def readNumber (negative : Bool) (bytes : Bytes) : Except ReadError (Number × Bytes) := do
  let (numeral, rest) ← readNumeral negative bytes
  match numeral.number? with
  | some n => .ok (n, rest)
  | none => fail .numberOutOfRange rest

end CommandBridge.Json
