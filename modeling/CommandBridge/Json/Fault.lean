import CommandBridge.Decimal.Layout
import CommandBridge.Json.Printer
import CommandBridge.Text.Quoted

/-! What can be wrong with a JSON text, and where. A fault is raised at the first octet that shows
it; it carries the octets that were still unread then, from which line and column follow. -/
namespace CommandBridge.Json

inductive Found where
  | null
  | bool (value : Bool)
  | number (value : Number)
  | string (value : String)
  | array
  | object

inductive Fault where
  | endInValue
  | endInArray
  | endInObject
  | endInString
  | colonExpected
  | arrayEndExpected
  | objectEndExpected
  | wordExpected
  | valueExpected
  | badEscape
  | badNumber
  | numberOutOfRange
  | badCodePoint
  | controlCharacter
  | keyExpected
  | loneSurrogate
  | hexEscapeEnd
  | trailingComma
  | trailingCharacters
  | tooDeep
  | wrongType (found : Found) (expected : String)
  | wrongLength (length : Nat) (expected : String)
  | missingField (name : String)
  | duplicateField (name : String)
  | unknownName (name : String)

/-- The three ways in which reading fails: the text ends too early, it is not JSON, or it is JSON of
another shape than the one wanted. -/
inductive FaultClass where
  | ended
  | malformed
  | mistyped
deriving DecidableEq

def Fault.kind : Fault → FaultClass
  | .endInValue | .endInArray | .endInObject | .endInString => .ended
  | .wrongType .. | .wrongLength .. | .missingField _ | .duplicateField _ | .unknownName _ =>
      .mistyped
  | _ => .malformed

def Found.text : Found → String
  | .null => "null"
  | .bool true => "boolean `true`"
  | .bool false => "boolean `false`"
  | .number (.int n _) => "integer `" ++ String.ofList (integerText n) ++ "`"
  | .number (.double d) => "floating point `" ++ String.ofList (Decimal.Layout.wire.text d) ++ "`"
  | .string s => "string " ++ Text.quotedForReader s
  | .array => "sequence"
  | .object => "map"

def Fault.text : Fault → String
  | .endInValue => "EOF while parsing a value"
  | .endInArray => "EOF while parsing a list"
  | .endInObject => "EOF while parsing an object"
  | .endInString => "EOF while parsing a string"
  | .colonExpected => "expected `:`"
  | .arrayEndExpected => "expected `,` or `]`"
  | .objectEndExpected => "expected `,` or `\x7d`"
  | .wordExpected => "expected ident"
  | .valueExpected => "expected value"
  | .badEscape => "invalid escape"
  | .badNumber => "invalid number"
  | .numberOutOfRange => "number out of range"
  | .badCodePoint => "invalid unicode code point"
  | .controlCharacter => "control character (\\u0000-\\u001F) found while parsing a string"
  | .keyExpected => "key must be a string"
  | .loneSurrogate => "lone leading surrogate in hex escape"
  | .hexEscapeEnd => "unexpected end of hex escape"
  | .trailingComma => "trailing comma"
  | .trailingCharacters => "trailing characters"
  | .tooDeep => "recursion limit exceeded"
  | .wrongType found expected => "invalid type: " ++ found.text ++ ", expected " ++ expected
  | .wrongLength length expected =>
    "invalid length " ++ Nat.repr length ++ ", expected " ++ expected
  | .missingField name => "missing field `" ++ name ++ "`"
  | .duplicateField name => "duplicate field `" ++ name ++ "`"
  | .unknownName name => "unknown variant `" ++ name ++ "`"

inductive Part where
  | member (key : String)
  | item (index : Nat)

def Part.text : Part → String
  | .member key => key
  | .item index => "[" ++ Nat.repr index ++ "]"

/-- A fault, the octets not yet read when it was raised, and the part of a record it was found
in. -/
structure ReadError where
  fault : Fault
  rest : Bytes
  part : Option Part := none

/-- Line and column of a place in a text. Lines count from one; the column is the number of octets
of the line that lie before the place. -/
structure Position where
  line : Nat
  column : Nat
deriving DecidableEq

def Position.after (consumed : Bytes) : Position where
  line := 1 + consumed.count 0x0A
  column := (consumed.reverse.takeWhile (· != 0x0A)).length

def ReadError.position (e : ReadError) (whole : Bytes) : Position :=
  .after (whole.take (whole.length - e.rest.length))

def ReadError.message (e : ReadError) (whole : Bytes) : String :=
  let place := e.position whole
  (match e.part with
    | some part => part.text ++ ": "
    | none => "") ++
  e.fault.text ++ " at line " ++ Nat.repr place.line ++ " column " ++ Nat.repr place.column

end CommandBridge.Json
