import CommandBridge.Decimal.Layout
import CommandBridge.Json.Value
import CommandBridge.Text.Utf8

/-! The text of a JSON value: no blanks, members in the order in which they stand, and strings in
which only the quote, the backslash and the control characters below the space are escaped. -/
namespace CommandBridge

namespace Json

def hexDigit (n : Nat) : Char := if n < 10 then Char.ofNat (0x30 + n) else Char.ofNat (0x57 + n)

/-- A character within quotes. Five control characters have an escape of their own, the others go by
their number. -/
def escape (c : Char) : List Char :=
  if c = '"' then ['\\', '"']
  else if c = '\\' then ['\\', '\\']
  else if c.toNat < 0x20 then
    if c = '\n' then ['\\', 'n']
    else if c = '\r' then ['\\', 'r']
    else if c = '\t' then ['\\', 't']
    else if c = '\x08' then ['\\', 'b']
    else if c = '\x0c' then ['\\', 'f']
    else ['\\', 'u', '0', '0', hexDigit (c.toNat / 16), hexDigit (c.toNat % 16)]
  else [c]

def quoted (s : String) : List Char := '"' :: s.toList.flatMap escape ++ ['"']

def integerText (n : Int) : List Char :=
  if n < 0 then '-' :: Nat.toDigits 10 n.natAbs else Nat.toDigits 10 n.natAbs

def numberText : Number → List Char
  | .int n _ => integerText n
  | .double d => Decimal.Layout.wire.text d

mutual

/-- The text of a value. Its first item or member stands apart from the others, which have a comma
before them. -/
def text : Json → List Char
  | .null => ['n', 'u', 'l', 'l']
  | .bool true => ['t', 'r', 'u', 'e']
  | .bool false => ['f', 'a', 'l', 's', 'e']
  | .number n => numberText n
  | .string s => quoted s
  | .array [] => ['[', ']']
  | .array (v :: rest) => '[' :: (text v ++ (itemsText rest ++ [']']))
  | .object [] => ['{', '}']
  | .object ((k, v) :: rest) => '{' :: (quoted k ++ ':' :: (text v ++ (membersText rest ++ ['}'])))

def itemsText : List Json → List Char
  | [] => []
  | v :: rest => ',' :: (text v ++ itemsText rest)

def membersText : List (String × Json) → List Char
  | [] => []
  | (k, v) :: rest => ',' :: (quoted k ++ ':' :: (text v ++ membersText rest))

end

def render (v : Json) : String := String.ofList v.text

def wire (v : Json) : Bytes := Utf8.encode v.text

end Json

end CommandBridge
