import CommandBridge.Connection

/-! A bridge with the sockets of its connections. What a loop hands on is received by the bridge,
what the bridge emits for a connection is queued for its loop, and a loop that ends closes its
connection. -/
namespace CommandBridge

def Effect.eventFor? (link : Nat) : Effect → Option Event
  | .emitted _ l event _ => if l = link then some event else none
  | _ => none

def Step.isOfLoop : Step → Bool
  | .receive _ _ | .close _ => true
  | _ => false

/-- What can happen next: a step that comes from no loop, a message that is sent to a connection, or
an occasion for its loop to read or to write. -/
inductive Move where
  | step (s : Step) (apart : s.isOfLoop = false)
  | send (link : Nat) (message : Incoming)
  | turn (link : Nat) (o : Occasion) (own : o.event? = none)

def Move.step? : Move → Option Step
  | .step s _ => some s
  | _ => none

/-- The steps in which a turn of a loop comes to the bridge: each text that is handed on is
received, and with the end of the loop its connection closes. -/
def Connection.steps (link : Nat) (before after : Connection) : List Step :=
  ((after.handled.drop before.handled.length).map fun content =>
    Step.receive link (.text content)) ++
    if before.running && !after.running then [.close link] else []

/-- A bridge and the socket of each connection, also of those that have yet to come up. -/
structure Hub where
  bridge : Bridge
  sockets : Nat → Dialogue

namespace Hub

def start (name version : String) (keyFile : Option Bytes) : Hub :=
  ⟨.start name version keyFile, fun _ => .start []⟩

/-- Does the loop of a connection take an occasion? It begins once the connection has been
greeted. -/
def takes (h : Hub) (link : Nat) (o : Occasion) : Bool :=
  h.bridge.isGreeted link && (h.sockets link).isReady o

/-- What a move does on a socket, before anything is queued there. -/
def socket (h : Hub) (m : Move) (link : Nat) : Dialogue :=
  match m with
  | .step _ _ => h.sockets link
  | .send l message => if l = link then (h.sockets link).send [message] else h.sockets link
  | .turn l o _ => if l = link ∧ h.takes link o then (h.sockets link).step o else h.sockets link

def stepsIn (h : Hub) (m : Move) : List Step :=
  match m with
  | .step s _ => [s]
  | .send link _ | .turn link _ _ => (h.sockets link).loop.steps link (h.socket m link).loop

/-- The bridge takes its steps, and the events are queued that it emits in them. -/
def move (h : Hub) (m : Move) : Hub × List Effect :=
  let (bridge, seen) := h.bridge.run (h.stepsIn m)
  let queued (link : Nat) : List Occasion := (seen.filterMap (Effect.eventFor? link)).map .queue
  (⟨bridge, fun link => (h.socket m link).run (queued link)⟩, seen)

def run (h : Hub) : List Move → Hub × List Effect
  | [] => (h, [])
  | m :: rest =>
    let (h, seen) := h.move m
    let (h, later) := h.run rest
    (h, seen ++ later)

end Hub

end CommandBridge
