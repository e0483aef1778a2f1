import CommandBridge.Message
import CommandBridge.ServiceError

/-! The bridge between dashboards and a backend, as a state that many tasks work on. Connections and
tasks are numbered in the order in which they come up, and a task keeps what it has yet to do.
Whatever can happen between two steps of one task is a step of another, so every interleaving is a
list of steps. -/
namespace CommandBridge

/-- What a task has yet to do. A new connection is announced before its greeting is put together; an
archive is reported once its call has ended and its addressee is known; a key is saved before it is
adopted. -/
inductive Task where
  | announced (link : Nat)
  | greeting (link : Nat) (key : Option String)
  | commanding (link : Nat) (channel : Channel) (command : Command)
  | uploading (file : String)
  | uploaded (file : String) (result : Except Failure Payload)
  | reporting (file : String) (result : Except Failure Payload) (target : Option Nat)
  | accepted (key : String)
  | emptied (key : String)
  | saved (key : String)
  | finished

/-- What becomes visible in a step: a call of the backend, an event for a connection, with whether
it was still open to take it, or the answer to a request. Each belongs to a task. -/
inductive Effect where
  | called (task : Nat) (call : Call)
  | emitted (task link : Nat) (event : Event) (delivered : Bool)
  | answered (task : Nat) (response : Http.Response)

/-- Where a connection stands: it has not been greeted yet, it takes part, or it is closed. -/
inductive LinkState where
  | opening
  | greeted
  | closed
deriving DecidableEq

/-- The state of a bridge: what it is called, its connections and which one is active, the key that
calls carry, the content of the file that keeps the key, and the tasks. -/
structure Bridge where
  name : String
  version : String
  links : List LinkState
  active : Option Nat
  liveKey : Option String
  keyFile : Option Bytes
  tasks : List Task

namespace Bridge

def keyIn (content : Option Bytes) : Option String :=
  (content.bind Utf8.decode?).map String.ofList

def storedKey (b : Bridge) : Option String := keyIn b.keyFile

/-- A bridge at its start. Calls carry the key that is kept. -/
def start (name version : String) (keyFile : Option Bytes) : Bridge where
  name := name
  version := version
  links := []
  active := none
  liveKey := keyIn keyFile
  keyFile := keyFile
  tasks := []

/-- Does a connection take events? It does so from the first, also before its greeting. -/
def isOpen (b : Bridge) (link : Nat) : Bool := b.links.getD link .closed != .closed

def isGreeted (b : Bridge) (link : Nat) : Bool := b.links.getD link .opening != .opening

def setLink (b : Bridge) (link : Nat) (state : LinkState) : Bridge :=
  { b with links := b.links.set link state }

def setTask (b : Bridge) (task : Nat) (next : Task) : Bridge :=
  { b with tasks := b.tasks.set task next }

def addTask (b : Bridge) (next : Task) : Bridge := { b with tasks := b.tasks ++ [next] }

def emission (b : Bridge) (task link : Nat) (event : Event) : Effect :=
  .emitted task link event (b.isOpen link)

def uploadAccount : String := "developer"

def uploadStatus (file : String) : Except Failure Payload → UploadStatus
  | .ok _ => ⟨file, "deployed", none⟩
  | .error failure => ⟨file, "failed", some failure.value⟩

def uploadResponse (file : String) : Except Failure Payload → Http.Response
  | .ok result =>
    .ofText 200 "application/json"
      (Json.object [("file", .string file), ("result", result.toJson)]).render
  | .error failure => (ServiceError.upload failure).response

def adoptedResponse : Http.Response := .text 200 "true"

def unsavedResponse : Http.Response := (ServiceError.credentialWrite "file not writable").response

end Bridge

end CommandBridge
