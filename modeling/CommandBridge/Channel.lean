import CommandBridge.Json.Record

/-! The command channels. A channel is a group of backend methods; commands reach it by its name,
and every call on it carries a context next to its arguments. -/
namespace CommandBridge

inductive Channel where
  | metadata
  | far
  | gateway
  | monitor
  | manager
deriving DecidableEq, Repr

namespace Channel

def all : List Channel := [.metadata, .far, .gateway, .monitor, .manager]

def name : Channel → String
  | .metadata => "metadata"
  | .far => "far"
  | .gateway => "gateway"
  | .monitor => "monitor"
  | .manager => "manager"

def ofName? (name : String) : Option Channel := all.find? fun c => c.name == name

def unknownMessage (name : String) : String := "unknown channel: " ++ name

/-- The context of a call: gateway calls go by the caller's key, all others by the API version. -/
def context (version : String) : Channel → String
  | .gateway => "apikey"
  | _ => version

def normalizes : Channel → Bool
  | .manager => true
  | _ => false

def toJson (c : Channel) : Json := .string c.name

def readNothing (c : Channel) (bytes : Bytes) : Except Json.ReadError (Channel × Bytes) := do
  let rest ← Json.readColon bytes
  match Json.skipBlanks rest with
  | [] => Json.fail .endInValue []
  | b :: rest =>
    if b = Octet.smallN then
      let rest ← Json.readWord Json.nullTail rest
      match Json.skipBlanks rest with
      | [] => Json.fail .endInObject []
      | b :: rest =>
        if b = Octet.closeBrace then .ok (c, rest) else Json.fail .valueExpected (b :: rest)
    else .error (Json.mistyped "unit" b rest)

/-- The channel that a text spells: its name as a string, or an object whose one key is the name and
whose value is null. -/
def read (bytes : Bytes) : Except Json.ReadError Channel :=
  Json.whole <|
    match Json.skipBlanks bytes with
    | [] => Json.fail .endInValue []
    | b :: rest =>
      if b = Octet.quote then do
        let (name, rest) ← Json.readString rest
        match ofName? name with
        | some c => .ok (c, rest)
        | none => Json.fail (.unknownName name) rest
      else if b = Octet.openBrace then do
        let (name, rest) ← Json.readText rest
        match ofName? name with
        | none => Json.fail (.unknownName name) rest
        | some c => readNothing c rest
      else Json.fail .valueExpected rest

def ofJson? : Json → Option Channel
  | .string name => ofName? name
  | .object [(name, .null)] => ofName? name
  | _ => none

end Channel

end CommandBridge
