import CommandBridge.Bridge.Step

/-! The loop of one connection. It reads what comes in and writes the events that are queued for it,
whichever is ready, until the connection is closed or something fails. What it has not read yet
waits on its socket. -/
namespace CommandBridge

inductive Turn where
  | queue (event : Event)
  | read (message : Incoming)
  | write (succeeds : Bool)

structure Connection where
  queued : List Event
  handled : List String
  written : List String
  running : Bool

namespace Connection

def start : Connection := ⟨[], [], [], true⟩

/-- Texts are handed on. A close, a failure and the end of what comes in end the loop. -/
def read (c : Connection) : Incoming → Connection
  | .text content => { c with handled := c.handled ++ [content] }
  | .binary | .ping | .pong => c
  | .close | .failure | .ended => { c with running := false }

/-- The first event in the queue is taken out and written. A failure ends the loop. -/
def write (c : Connection) (succeeds : Bool) : Connection :=
  match c.queued with
  | [] => c
  | event :: rest =>
    if succeeds then { c with queued := rest, written := c.written ++ [event.text] }
    else { c with queued := rest, running := false }

/-- One turn. Events for a loop that has ended vanish. -/
def turn (c : Connection) (t : Turn) : Connection :=
  if !c.running then c
  else
    match t with
    | .queue event => { c with queued := c.queued ++ [event] }
    | .read message => c.read message
    | .write succeeds => c.write succeeds

def run (c : Connection) (turns : List Turn) : Connection := turns.foldl turn c

end Connection

/-- What can happen next to a loop: an event is queued for it, or one of its two sides is ready, the
one that reads or the one that writes. -/
inductive Occasion where
  | queue (event : Event)
  | read
  | write (succeeds : Bool)

def Occasion.event? : Occasion → Option Event
  | .queue event => some event
  | _ => none

/-- The loop of a connection, and the messages from the other side that it has not read. -/
structure Dialogue where
  loop : Connection
  unread : List Incoming

namespace Dialogue

def start (messages : List Incoming) : Dialogue := ⟨.start, messages⟩

def send (d : Dialogue) (messages : List Incoming) : Dialogue := ⟨d.loop, d.unread ++ messages⟩

/-- The turn that the loop takes. Behind the last message it reads that there will be no more. -/
def turn (d : Dialogue) : Occasion → Turn
  | .queue event => .queue event
  | .read => .read (d.unread.headD .ended)
  | .write succeeds => .write succeeds

def step (d : Dialogue) (o : Occasion) : Dialogue where
  loop := d.loop.turn (d.turn o)
  unread := match o with
    | .read => if d.loop.running then d.unread.tail else d.unread
    | _ => d.unread

def run (d : Dialogue) (occasions : List Occasion) : Dialogue := occasions.foldl step d

/-- Need a loop not wait for the next message, if it is about to read? -/
def isReady (d : Dialogue) : Occasion → Bool
  | .read => !d.unread.isEmpty
  | .queue _ | .write _ => true

end Dialogue

end CommandBridge
