import CommandBridge.Http.Message

/-! The request that turns a connection into a socket: which of its headers must say what. -/
namespace CommandBridge.Http

inductive HandshakeFault where
  | notUpgrading
  | otherProtocol
  | otherVersion
  | noKey
  | noConnection
deriving DecidableEq

namespace HandshakeFault

def text : HandshakeFault → String
  | .notUpgrading => "Connection header did not include 'upgrade'"
  | .otherProtocol => "`Upgrade` header did not include 'websocket'"
  | .otherVersion => "`Sec-WebSocket-Version` header did not include '13'"
  | .noKey => "`Sec-WebSocket-Key` header missing"
  | .noConnection => "WebSocket request couldn't be upgraded since no upgrade state was present"

def status : HandshakeFault → Nat
  | .noConnection => 426
  | _ => 400

end HandshakeFault

namespace Handshake

def lower (bytes : Bytes) : Bytes := bytes.map fun b => if 0x41 ≤ b && b ≤ 0x5A then b + 0x20 else b

def occurs (part : Bytes) : Bytes → Bool
  | [] => part.isEmpty
  | b :: rest => part.isPrefixOf (b :: rest) || occurs part rest

def mentions (r : Request) (name word : String) : Bool :=
  match r.header? name with
  | some value => (Utf8.decode? value).isSome && occurs (octets word) (lower value)
  | none => false

def isWord (r : Request) (name word : String) : Bool :=
  (r.header? name).map lower == some (octets word)

/-- The first thing wrong with a handshake. A request without a live connection beneath it cannot be
turned into a socket. -/
def fault? (r : Request) (connected : Bool) : Option HandshakeFault :=
  if !mentions r "connection" "upgrade" then some .notUpgrading
  else if !isWord r "upgrade" "websocket" then some .otherProtocol
  else if !isWord r "sec-websocket-version" "13" then some .otherVersion
  else if (r.header? "sec-websocket-key").isNone then some .noKey
  else if !connected then some .noConnection
  else none

/-- The answer to a handshake. Only looking in full opens a socket. -/
def response (r : Request) (connected : Bool) : Response :=
  if r.method != "GET" then .text 405 "Request method must be `GET`"
  else
    match fault? r connected with
    | some fault => .text fault.status fault.text
    | none => .empty 101

end Handshake

end CommandBridge.Http
