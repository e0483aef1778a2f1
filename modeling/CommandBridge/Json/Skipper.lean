import CommandBridge.Json.Reader

/-! Passing over a value that nobody asked for. Only its form is looked at: it may be nested to any
depth, its numbers may be of any size, and its strings are not read as text. -/
namespace CommandBridge.Json

/-- Passes over a string from behind its opening quote. The count is of octets already accounted for
by an escape. -/
def skipString : Nat → Bytes → Except ReadError Bytes
  | _, [] => fail .endInString []
  | skip + 1, _ :: rest => skipString skip rest
  | 0, b :: rest =>
    if b = Octet.quote then .ok rest
    else if b = Octet.backslash then
      match rest with
      | [] => fail .endInString []
      | c :: behind =>
        if (plainEscape? c).isSome then skipString 1 rest
        else if c = Octet.smallU then
          match hexUnit behind with
          | .ok _ => skipString 5 rest
          | .error e => .error e
        else fail .badEscape behind
    else if b < 0x20 then fail .controlCharacter (b :: rest)
    else skipString 0 rest

def skipDigits (bytes : Bytes) : Except ReadError Bytes :=
  match readDigits bytes with
  | ([], rest) => fail .badNumber rest.tail
  | (_, rest) => .ok rest

def skipExponent : Bytes → Except ReadError Bytes
  | [] => .ok []
  | b :: rest =>
    if b = Octet.smallE || b = Octet.bigE then
      match rest with
      | [] => fail .badNumber []
      | c :: behind => skipDigits (if c = Octet.plus || c = Octet.minus then behind else rest)
    else .ok (b :: rest)

def skipNumber (bytes : Bytes) : Except ReadError Bytes :=
  match readDigits bytes with
  | ([], rest) => fail .badNumber rest.tail
  | (first :: more, rest) =>
    if first = Octet.zero && !more.isEmpty then fail .badNumber (more.drop 1 ++ rest)
    else
      match rest with
      | [] => .ok []
      | b :: behind =>
        if b = Octet.dot then do
          let rest ← skipDigits behind
          skipExponent rest
        else skipExponent rest

def skipScalar (b : UInt8) (rest : Bytes) : Except ReadError Bytes :=
  if b = Octet.quote then skipString 0 rest
  else if b = Octet.minus then skipNumber rest
  else if Octet.isDigit b then skipNumber (b :: rest)
  else if b = Octet.smallN then readWord nullTail rest
  else if b = Octet.smallT then readWord trueTail rest
  else if b = Octet.smallF then readWord falseTail rest
  else fail .valueExpected rest

/-- What is open around the place reached. -/
inductive Open where
  | array
  | object
deriving DecidableEq

def Open.closer : Open → UInt8
  | .array => Octet.closeBracket
  | .object => Octet.closeBrace

def Open.endFault : Open → Fault
  | .array => .endInArray
  | .object => .endInObject

def Open.closerFault : Open → Fault
  | .array => .arrayEndExpected
  | .object => .objectEndExpected

/-- Passes over a key and its colon inside an object, and over nothing inside an array. -/
def Open.skipKey : Open → Bytes → Except ReadError Bytes
  | .array, bytes => .ok bytes
  | .object, bytes =>
    match skipBlanks bytes with
    | [] => fail .endInObject []
    | b :: rest =>
      if b = Octet.quote then do
        let rest ← skipString 0 rest
        readColon rest
      else fail .keyExpected rest

mutual

/-- Passes over a value that stands inside the given arrays and objects, and over what follows it
there. -/
def skipInside : Nat → List Open → Bytes → Except ReadError Bytes
  | 0, _, bytes => fail .endInValue bytes
  | bound + 1, opened, bytes =>
    match skipBlanks bytes with
    | [] => fail .endInValue []
    | b :: rest =>
      if b = Octet.openBracket then skipOpened bound .array opened rest
      else if b = Octet.openBrace then skipOpened bound .object opened rest
      else do
        let rest ← skipScalar b rest
        skipBehind bound opened rest

def skipOpened : Nat → Open → List Open → Bytes → Except ReadError Bytes
  | 0, _, _, bytes => fail .endInValue bytes
  | bound + 1, new, opened, bytes =>
    match skipBlanks bytes with
    | [] => fail new.endFault []
    | b :: rest =>
      if b = new.closer then skipBehind bound opened rest
      else do
        let rest ← new.skipKey (b :: rest)
        skipInside bound (new :: opened) rest

def skipBehind : Nat → List Open → Bytes → Except ReadError Bytes
  | _, [], bytes => .ok bytes
  | 0, _ :: _, bytes => fail .endInValue bytes
  | bound + 1, top :: opened, bytes =>
    match skipBlanks bytes with
    | [] => fail top.endFault []
    | b :: rest =>
      if b = Octet.comma then do
        let rest ← top.skipKey rest
        skipInside bound (top :: opened) rest
      else if b = top.closer then skipBehind bound opened rest
      else fail top.closerFault rest

end

/-- Passes over a value. Each octet is met at most twice. -/
def skipValue (bound : Nat) (bytes : Bytes) : Except ReadError Bytes :=
  skipInside (2 * bound + 2) [] bytes

end CommandBridge.Json
