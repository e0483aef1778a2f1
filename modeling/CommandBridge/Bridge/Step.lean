import CommandBridge.Bridge.Basic
import CommandBridge.KeyPost

/-! The steps of the bridge. Each is one action that nothing can divide. A step that does not fit
what its task has yet to do changes nothing. -/
namespace CommandBridge

inductive Incoming where
  | text (content : String)
  | binary
  | ping
  | pong
  | close
  | failure
  | ended

def Frame.routeOfText? (text : String) : Option (Channel × Command) :=
  match Frame.record.read (octets text) with
  | .ok frame => frame.route?
  | .error _ => none

/-- The steps. A connection opens, its greeting reads the key and is sent; something comes in on a
connection; a call of the backend ends; a connection closes; an archive comes in, its report reads
which connection is active and is made; a key comes in, is saved, either at one stroke or by
emptying the file and filling it again, and is adopted. Filling may fail behind a number of
octets. -/
inductive Step where
  | connect
  | readKey (task : Nat)
  | greet (task : Nat)
  | receive (link : Nat) (message : Incoming)
  | endCall (task : Nat) (outcome : Outcome)
  | close (link : Nat)
  | upload (file : String) (archive : Bytes)
  | readActive (task : Nat)
  | report (task : Nat)
  | postKey (request : Http.Request)
  | saveKey (task : Nat) (succeeds : Bool)
  | emptyFile (task : Nat) (succeeds : Bool)
  | fillFile (task : Nat) (failsBehind : Option Nat)
  | adoptKey (task : Nat)

namespace Bridge

/-- The new connection is the active one at once, before it is greeted. -/
def connect (b : Bridge) : Bridge × List Effect :=
  ({ b with
      links := b.links ++ [.opening]
      active := some b.links.length
      tasks := b.tasks ++ [.announced b.links.length] }, [])

def readKey (b : Bridge) (task : Nat) : Bridge × List Effect :=
  match b.tasks[task]? with
  | some (.announced link) => (b.setTask task (.greeting link b.liveKey), [])
  | _ => (b, [])

def greet (b : Bridge) (task : Nat) : Bridge × List Effect :=
  match b.tasks[task]? with
  | some (.greeting link key) =>
    ((b.setTask task .finished).setLink link .greeted,
      [b.emission task link (.env ⟨b.name, b.version, key⟩)])
  | _ => (b, [])

def dispatch (b : Bridge) (link : Nat) (channel : Channel) (command : Command) :
    Bridge × List Effect :=
  (b.addTask (.commanding link channel command),
    [.called b.tasks.length (.ofCommand b.version channel command)])

/-- A connection closes once it has been greeted; then events for it vanish. -/
def close (b : Bridge) (link : Nat) : Bridge × List Effect :=
  (if b.isGreeted link then b.setLink link .closed else b, [])

/-- A text that is a command on a channel is taken up, any other is dropped. The connection closes
when it is closed from the other side, when it fails and when it ends. -/
def receive (b : Bridge) (link : Nat) : Incoming → Bridge × List Effect
  | .text content =>
    match Frame.routeOfText? content with
    | some (channel, command) =>
        if b.isGreeted link then b.dispatch link channel command
        else (b, [])
    | none => (b, [])
  | .binary | .ping | .pong => (b, [])
  | .close | .failure | .ended => b.close link

/-- The end of a command's call is told on the connection that the command came in on. The end of an
upload's call is kept; one that broke off leaves nothing to tell. -/
def endCall (b : Bridge) (task : Nat) (outcome : Outcome) : Bridge × List Effect :=
  match b.tasks[task]? with
  | some (.commanding link channel command) =>
    (b.setTask task .finished, [b.emission task link (command.settle channel outcome)])
  | some (.uploading file) =>
    match outcome with
    | .done result => (b.setTask task (.uploaded file (.ok result)), [])
    | .failed failure => (b.setTask task (.uploaded file (.error failure)), [])
    | .aborted _ _ => (b.setTask task .finished, [])
  | _ => (b, [])

def upload (b : Bridge) (file : String) (archive : Bytes) : Bridge × List Effect :=
  (b.addTask (.uploading file), [.called b.tasks.length (.upload uploadAccount file archive)])

def readActive (b : Bridge) (task : Nat) : Bridge × List Effect :=
  match b.tasks[task]? with
  | some (.uploaded file result) => (b.setTask task (.reporting file result b.active), [])
  | _ => (b, [])

def report (b : Bridge) (task : Nat) : Bridge × List Effect :=
  match b.tasks[task]? with
  | some (.reporting file result target) =>
    (b.setTask task .finished,
      (target.map fun link => b.emission task link (.upload (uploadStatus file result))).toList ++
        [.answered task (uploadResponse file result)])
  | _ => (b, [])

def postKey (b : Bridge) (request : Http.Request) : Bridge × List Effect :=
  match KeyPost.ofRequest request with
  | .ok post => (b.addTask (.accepted post.key), [])
  | .error e =>
    (b.addTask .finished, [.answered b.tasks.length (ServiceError.invalidRequest e.text).response])

def giveUpKey (b : Bridge) (task : Nat) : Bridge × List Effect :=
  (b.setTask task .finished, [.answered task unsavedResponse])

/-- Replaces the whole content of the file, or fails and leaves it as it was. -/
def saveKey (b : Bridge) (task : Nat) (succeeds : Bool) : Bridge × List Effect :=
  match b.tasks[task]? with
  | some (.accepted key) =>
    if succeeds then ({ b.setTask task (.saved key) with keyFile := some (octets key) }, [])
    else b.giveUpKey task
  | _ => (b, [])

/-- Opens the file for writing, which empties it, or fails and leaves it as it was. -/
def emptyFile (b : Bridge) (task : Nat) (succeeds : Bool) : Bridge × List Effect :=
  match b.tasks[task]? with
  | some (.accepted key) =>
    if succeeds then ({ b.setTask task (.emptied key) with keyFile := some [] }, [])
    else b.giveUpKey task
  | _ => (b, [])

def fillFile (b : Bridge) (task : Nat) (failsBehind : Option Nat) : Bridge × List Effect :=
  match b.tasks[task]? with
  | some (.emptied key) =>
    match failsBehind with
    | none => ({ b.setTask task (.saved key) with keyFile := some (octets key) }, [])
    | some n => { b with keyFile := some ((octets key).take n) }.giveUpKey task
  | _ => (b, [])

def adoptKey (b : Bridge) (task : Nat) : Bridge × List Effect :=
  match b.tasks[task]? with
  | some (.saved key) =>
    ({ b.setTask task .finished with liveKey := some key }, [.answered task adoptedResponse])
  | _ => (b, [])

def step (b : Bridge) : Step → Bridge × List Effect
  | .connect => b.connect
  | .readKey task => b.readKey task
  | .greet task => b.greet task
  | .receive link message => b.receive link message
  | .endCall task outcome => b.endCall task outcome
  | .close link => b.close link
  | .upload file archive => b.upload file archive
  | .readActive task => b.readActive task
  | .report task => b.report task
  | .postKey request => b.postKey request
  | .saveKey task succeeds => b.saveKey task succeeds
  | .emptyFile task succeeds => b.emptyFile task succeeds
  | .fillFile task failsBehind => b.fillFile task failsBehind
  | .adoptKey task => b.adoptKey task

def run (b : Bridge) : List Step → Bridge × List Effect
  | [] => (b, [])
  | s :: rest =>
    let (b, seen) := b.step s
    let (b, later) := b.run rest
    (b, seen ++ later)

end Bridge

end CommandBridge
