import CommandBridge.Json.Lexer

/-! Reading a JSON text as a value. At most `Json.depthLimit` arrays and objects may be open at
once. The loops over items and members take a bound on the number of rounds; the length of the text
is always enough, since every round reads at least one octet. -/
namespace CommandBridge.Json

def depthLimit : Nat := 127

def readItems {α : Type} (item : Bytes → Except ReadError (α × Bytes)) :
    Nat → List α → Bytes → Except ReadError (List α × Bytes)
  | 0, _, bytes => fail .endInArray bytes
  | bound + 1, found, bytes => do
    let (v, rest) ← item bytes
    match skipBlanks rest with
    | [] => fail .endInArray []
    | b :: rest =>
      if b = Octet.closeBracket then .ok ((v :: found).reverse, rest)
      else if b = Octet.comma then
        match skipBlanks rest with
        | [] => fail .endInValue []
        | c :: behind =>
          if c = Octet.closeBracket then fail .trailingComma behind
          else readItems item bound (v :: found) (c :: behind)
      else fail .arrayEndExpected rest

def readArray {α : Type} (item : Bytes → Except ReadError (α × Bytes)) (bound : Nat)
    (bytes : Bytes) : Except ReadError (List α × Bytes) :=
  match skipBlanks bytes with
  | [] => fail .endInArray []
  | b :: rest =>
    if b = Octet.closeBracket then .ok ([], rest) else readItems item bound [] (b :: rest)

def readColon (bytes : Bytes) : Except ReadError Bytes :=
  match skipBlanks bytes with
  | [] => fail .endInObject []
  | b :: rest => if b = Octet.colon then .ok rest else fail .colonExpected rest

/-- Reads the members of an object from behind the opening quote of the first key on, up to and with
the closing brace. What is kept of the members is up to `member`, which is given each key and the
octets behind it. -/
def readMembers {σ : Type} (member : σ → String → Bytes → Except ReadError (σ × Bytes)) :
    Nat → σ → Bytes → Except ReadError (σ × Bytes)
  | 0, _, bytes => fail .endInObject bytes
  | bound + 1, kept, bytes => do
    let (key, rest) ← readString bytes
    let (kept, rest) ← member kept key rest
    match skipBlanks rest with
    | [] => fail .endInObject []
    | b :: rest =>
      if b = Octet.closeBrace then .ok (kept, rest)
      else if b = Octet.comma then
        match skipBlanks rest with
        | [] => fail .endInValue []
        | c :: behind =>
          if c = Octet.quote then readMembers member bound kept behind
          else if c = Octet.closeBrace then fail .trailingComma behind
          else fail .keyExpected behind
      else fail .objectEndExpected rest

def readObject {σ : Type} (member : σ → String → Bytes → Except ReadError (σ × Bytes)) (bound : Nat)
    (kept : σ) (bytes : Bytes) : Except ReadError (σ × Bytes) :=
  match skipBlanks bytes with
  | [] => fail .endInObject []
  | b :: rest =>
    if b = Octet.closeBrace then .ok (kept, rest)
    else if b = Octet.quote then readMembers member bound kept rest
    else fail .keyExpected rest

/-- Reads a value that is neither array nor object, given its first octet. -/
def readScalar (b : UInt8) (rest : Bytes) : Except ReadError (Json × Bytes) :=
  if b = Octet.quote then do
    let (s, rest) ← readString rest
    .ok (.string s, rest)
  else if b = Octet.minus then do
    let (n, rest) ← readNumber true rest
    .ok (.number n, rest)
  else if Octet.isDigit b then do
    let (n, rest) ← readNumber false (b :: rest)
    .ok (.number n, rest)
  else if b = Octet.smallN then do
    let rest ← readWord nullTail rest
    .ok (.null, rest)
  else if b = Octet.smallT then do
    let rest ← readWord trueTail rest
    .ok (.bool true, rest)
  else if b = Octet.smallF then do
    let rest ← readWord falseTail rest
    .ok (.bool false, rest)
  else fail .valueExpected rest

/-- Reads a value; `depth` more arrays and objects may be opened. Of two members with one key the
later counts. -/
def readValue (bound : Nat) : Nat → Bytes → Except ReadError (Json × Bytes)
  | depth, bytes =>
    match skipBlanks bytes with
    | [] => fail .endInValue []
    | b :: rest =>
      if b = Octet.openBracket then
        match depth with
        | 0 => fail .tooDeep rest
        | depth + 1 => do
          let (items, rest) ← readArray (readValue bound depth) bound rest
          .ok (.array items, rest)
      else if b = Octet.openBrace then
        match depth with
        | 0 => fail .tooDeep rest
        | depth + 1 => do
          let (members, rest) ← readObject
            (fun members key rest => do
              let rest ← readColon rest
              let (v, rest) ← readValue bound depth rest
              .ok (insert key v members, rest))
            bound [] rest
          .ok (.object members, rest)
      else readScalar b rest

/-- The thing that a whole text holds: nothing but blanks may follow it. -/
def whole {α : Type} (reading : Except ReadError (α × Bytes)) : Except ReadError α := do
  let (v, rest) ← reading
  match skipBlanks rest with
  | [] => .ok v
  | _ :: rest => fail .trailingCharacters rest

def read (bytes : Bytes) : Except ReadError Json := whole (readValue bytes.length depthLimit bytes)

end CommandBridge.Json
