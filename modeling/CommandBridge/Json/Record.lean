import CommandBridge.Json.Skipper

/-! Records on the wire. A schema names the fields of a record in order; each field has a kind,
which is the type of what it holds. A record is read from an object, in any order of members and
with unknown ones passed over, or from an array of its fields in order. It can be read straight from
a text, where the first fault from the left counts, or from a value that has been read before. -/
namespace CommandBridge.Json

inductive Kind where
  | text
  | any
  | list
  | textOrNull

abbrev Kind.Holds : Kind → Type
  | .text => String
  | .any => Json
  | .list => List Json
  | .textOrNull => Option String

/-- A field: its name, its kind, what it holds when an object has no such member, and whether that
also stands for it when an array ends before it. -/
structure Field where
  name : String
  kind : Kind
  whenMissing : Option kind.Holds
  maybeLast : Bool

def Field.required (name : String) (kind : Kind) : Field := ⟨name, kind, none, false⟩

def Field.optional (name : String) (kind : Kind) (v : kind.Holds) : Field :=
  ⟨name, kind, some v, true⟩

def Field.optionalMember (name : String) (kind : Kind) (v : kind.Holds) : Field :=
  ⟨name, kind, some v, false⟩

structure Schema where
  name : String
  fields : List Field

def Schema.expected (s : Schema) : String := "struct " ++ s.name

def Schema.expectedItems (s : Schema) : String :=
  s.expected ++ " with " ++ Nat.repr s.fields.length ++
    (if s.fields.length = 1 then " element" else " elements")

def Slots : List Field → Type
  | [] => Unit
  | f :: fields => f.kind.Holds × Slots fields

def Gathered : List Field → Type
  | [] => Unit
  | f :: fields => Option f.kind.Holds × Gathered fields

def Gathered.empty : (fields : List Field) → Gathered fields
  | [] => ()
  | _ :: fields => (none, Gathered.empty fields)

def within {α : Type} (part : Part) : Except ReadError α → Except ReadError α
  | .ok v => .ok v
  | .error e => .error { e with part := some part }

def Found.of : Json → Found
  | .null => .null
  | .bool b => .bool b
  | .number n => .number n
  | .string s => .string s
  | .array _ => .array
  | .object _ => .object

/-- The error for a value of the wrong kind, given its first octet. Such a value is read to its end,
unless it is an array or an object; if that fails, its own fault counts. -/
def mistyped (expected : String) (b : UInt8) (rest : Bytes) : ReadError :=
  if b = Octet.openBracket then ⟨.wrongType .array expected, b :: rest, none⟩
  else if b = Octet.openBrace then ⟨.wrongType .object expected, b :: rest, none⟩
  else
    match readScalar b rest with
    | .ok (v, rest) => ⟨.wrongType (.of v) expected, rest, none⟩
    | .error e => e

def readText (bytes : Bytes) : Except ReadError (String × Bytes) :=
  match skipBlanks bytes with
  | [] => fail .endInValue []
  | b :: rest => if b = Octet.quote then readString rest else .error (mistyped "a string" b rest)

def Kind.read (bound depth : Nat) : (kind : Kind) → Bytes → Except ReadError (kind.Holds × Bytes)
  | .text, bytes => readText bytes
  | .any, bytes => readValue bound depth bytes
  | .list, bytes =>
    match skipBlanks bytes with
    | [] => fail .endInValue []
    | b :: rest =>
      if b = Octet.openBracket then
        match depth with
        | 0 => fail .tooDeep rest
        | depth + 1 => readArray (readValue bound depth) bound rest
      else .error (mistyped "a sequence" b rest)
  | .textOrNull, bytes =>
    match skipBlanks bytes with
    | [] => fail .endInValue []
    | b :: rest =>
      if b = Octet.smallN then
        (readWord nullTail rest).map fun rest => (none, rest)
      else (readText (b :: rest)).map fun r => (some r.1, r.2)

def Kind.ofJson? : (kind : Kind) → Json → Option kind.Holds
  | .text, .string s => some s
  | .any, v => some v
  | .list, .array items => some items
  | .textOrNull, .null => some none
  | .textOrNull, .string s => some (some s)
  | _, _ => none

/-- Where reading stands once an object has been given up: behind blanks, and behind the closing
brace if that comes next. -/
def givenUp (bytes : Bytes) : Bytes :=
  match skipBlanks bytes with
  | [] => []
  | b :: rest => if b = Octet.closeBrace then rest else b :: rest

def Gathered.member? (bound depth : Nat) :
    (fields : List Field) → Gathered fields → String → Bytes →
    Option (Except ReadError (Gathered fields × Bytes))
  | [], _, _, _ => none
  | f :: fields, (slot, more), key, bytes =>
    if key = f.name then
      some <|
        match slot with
        | some _ => fail (.duplicateField f.name) (givenUp bytes)
        | none => do
          let rest ← readColon bytes
          let (v, rest) ← within (.member key) (f.kind.read bound depth rest)
          .ok ((some v, more), rest)
    else (Gathered.member? bound depth fields more key bytes).map fun reading =>
      reading.map fun r => ((slot, r.1), r.2)

def Gathered.member (bound depth : Nat) (fields : List Field) (gathered : Gathered fields)
    (key : String) (bytes : Bytes) : Except ReadError (Gathered fields × Bytes) :=
  match Gathered.member? bound depth fields gathered key bytes with
  | some reading => reading
  | none => do
    let rest ← readColon bytes
    let rest ← within (.member key) (skipValue bound rest)
    .ok (gathered, rest)

def Gathered.slots : (fields : List Field) → Gathered fields → Except Fault (Slots fields)
  | [], _ => .ok ()
  | f :: fields, (slot, more) =>
    match slot.or f.whenMissing with
    | some v => (Gathered.slots fields more).map fun slots => (v, slots)
    | none => .error (.missingField f.name)

def readArrayEnd (bytes : Bytes) : Except ReadError Bytes :=
  match skipBlanks bytes with
  | [] => fail .endInArray []
  | b :: rest =>
    if b = Octet.closeBracket then .ok rest
    else if b = Octet.comma then
      match skipBlanks rest with
      | [] => fail .trailingCharacters []
      | c :: behind =>
        fail (if c = Octet.closeBracket then .trailingComma else .trailingCharacters) behind
    else fail .trailingCharacters rest

/-- The octets at which the next item of an array begins; nothing at the closing bracket. -/
def nextItem (index : Nat) (bytes : Bytes) : Except ReadError (Option Bytes) :=
  match skipBlanks bytes with
  | [] => fail .endInArray []
  | b :: rest =>
    if b = Octet.closeBracket then .ok none
    else if index = 0 then .ok (some (b :: rest))
    else if b = Octet.comma then
      match skipBlanks rest with
      | [] => fail .endInValue []
      | c :: behind =>
          if c = Octet.closeBracket then fail .trailingComma behind
          else .ok (some (c :: behind))
    else fail .arrayEndExpected rest

def Slots.readItems (bound depth : Nat) (expected : String) : (fields : List Field) → Nat → Bytes →
    Except ReadError (Slots fields × Bytes)
  | [], _, bytes => (readArrayEnd bytes).map fun rest => ((), rest)
  | f :: fields, index, bytes => do
    let next ← nextItem index bytes
    match next with
    | some bytes =>
      let (v, rest) ← within (.item index) (f.kind.read bound depth bytes)
      let (slots, rest) ← Slots.readItems bound depth expected fields (index + 1) rest
      .ok ((v, slots), rest)
    | none =>
      match f.maybeLast, f.whenMissing with
      | true, some v =>
        let (slots, rest) ← Slots.readItems bound depth expected fields (index + 1) bytes
        .ok ((v, slots), rest)
      | _, _ => fail (.wrongLength index expected) ((skipBlanks bytes).drop 1)

def Schema.read (s : Schema) (bytes : Bytes) : Except ReadError (Slots s.fields) :=
  let bound := bytes.length
  let depth := depthLimit - 1
  whole <|
    match skipBlanks bytes with
    | [] => fail .endInValue []
    | b :: rest =>
      if b = Octet.openBracket then Slots.readItems bound depth s.expectedItems s.fields 0 rest
      else if b = Octet.openBrace then do
        let (gathered, rest) ← readObject (Gathered.member bound depth s.fields) bound
          (Gathered.empty s.fields) rest
        match gathered.slots with
        | .ok slots => .ok (slots, rest)
        | .error fault => fail fault rest
      else .error (mistyped s.expected b rest)

def Slots.ofMembers? : (fields : List Field) → List (String × Json) → Option (Slots fields)
  | [], _ => some ()
  | f :: fields, members => do
    let v ← match find? f.name members with
      | some v => f.kind.ofJson? v
      | none => f.whenMissing
    let slots ← Slots.ofMembers? fields members
    some (v, slots)

def Slots.ofItems? : (fields : List Field) → List Json → Option (Slots fields)
  | [], [] => some ()
  | [], _ :: _ => none
  | f :: fields, v :: items => do
    let v ← f.kind.ofJson? v
    let slots ← Slots.ofItems? fields items
    some (v, slots)
  | f :: fields, [] => do
    let v ← if f.maybeLast then f.whenMissing else none
    let slots ← Slots.ofItems? fields []
    some (v, slots)

def Schema.ofJson? (s : Schema) : Json → Option (Slots s.fields)
  | .object members => Slots.ofMembers? s.fields members
  | .array items => Slots.ofItems? s.fields items
  | _ => none

/-- A type of records: its schema, the record with given fields, and the members that are written
for a record, in order. -/
structure Record (α : Type) where
  schema : Schema
  ofSlots : Slots schema.fields → α
  members : α → List (String × Json)

namespace Record

variable {α : Type} (record : Record α)

def read (bytes : Bytes) : Except ReadError α := (record.schema.read bytes).map record.ofSlots

def ofJson? (v : Json) : Option α := (record.schema.ofJson? v).map record.ofSlots

def toJson (r : α) : Json := .ofMembers (record.members r)

def text (r : α) : String := (Json.object (record.members r)).render

end Record

end CommandBridge.Json
