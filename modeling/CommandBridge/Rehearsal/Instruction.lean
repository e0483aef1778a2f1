import CommandBridge.Rehearsal.Answering

/-! The instructions of a rehearsal, and what is told of each. -/
namespace CommandBridge

inductive Instruction where
  | script (method : String) (outcome : Outcome) (gated : Bool)
  | release (method : String)
  | connect (label : String)
  | close (label : String)
  | send (label frame : String)
  | handle (label : String) (channel : Channel) (command : Command)
  | emit (label : String) (event : Event)
  | active
  | setKey (key : String)
  | keys
  | change (change : FileTree.Change)
  | show (path : String)
  | expect (deliveries : List Delivery)
  | upload (call : Call)
  | request (request : Http.Request)

inductive Told where
  | nothing
  | released (found : Bool)
  | bound
  | closed
  | unreadable (kind : Json.FaultClass)
  | dropped
  | routed (done : Bool)
  | sent (delivered : Bool)
  | activeLink (link : Option (String × Bool))
  | keys (live stored : Option String)
  | content (content : Option Bytes)
  | outcome (outcome : Option Outcome)
  | response (response : Option Http.Response)

/-- What comes of an instruction: what is told of it, the events that open connections received,
each with the label of its connection, the calls of the backend, and what the network's peer saw. -/
structure Outturn where
  told : Told
  events : List (String × Event)
  calls : List Call
  sightings : List Sighting

namespace Rehearsal

def delivered (r : Rehearsal) (effects : List Effect) : List (String × Event) :=
  effects.filterMap fun
    | .emitted _ link event true => some (r.label link, event)
    | _ => none

def callsIn (effects : List Effect) : List Call :=
  effects.filterMap fun
    | .called _ call => some call
    | _ => none

def isDone (effects : List Effect) : Bool :=
  effects.any fun
    | .emitted .. => true
    | _ => false

def tell (told : Told) (result : Rehearsal × List Effect) : Outturn × Rehearsal :=
  (⟨told, result.1.delivered result.2, callsIn result.2, []⟩, result.1)

def tellOnly (r : Rehearsal) (told : Told) : Outturn × Rehearsal := (⟨told, [], [], []⟩, r)

/-- A new connection is announced and greeted. Its label is taken from any older one, which
closes. -/
def connect (r : Rehearsal) (label : String) : Outturn × Rehearsal :=
  let task := r.nextTask
  let older := ((r.link? label).map Step.close).toList
  let labels := r.labels.filter (fun l => l.1 != label) ++ [(label, r.bridge.links.length)]
  tell .bound ({ r with labels }.run (Step.connect :: .readKey task :: .greet task :: older))

def send (r : Rehearsal) (label frame : String) : Outturn × Rehearsal :=
  match Frame.record.read (octets frame), r.link? label with
  | .error e, _ => r.tellOnly (.unreadable e.fault.kind)
  | .ok _, none => r.tellOnly .dropped
  | .ok parsed, some link =>
    if parsed.route?.isNone then r.tellOnly .dropped
    else
      let result := r.runCalling (.receive link (.text frame))
      tell (.routed (isDone result.2)) result

def handle (r : Rehearsal) (label : String) (channel : Channel) (command : Command) :
    Outturn × Rehearsal :=
  match r.link? label with
  | none => r.tellOnly .nothing
  | some link =>
    let (bridge, seen) := r.bridge.dispatch link channel command
    let (r, later) := { r with bridge }.settle seen
    tell .nothing (r, seen ++ later)

def release (r : Rehearsal) (method : String) : Outturn × Rehearsal :=
  let (found, script) := r.script.release method
  let r := { r with script }
  match found with
  | none => r.tellOnly (.released false)
  | some none => r.tellOnly (.released true)
  | some (some (task, outcome)) => tell (.released true) (r.run [.endCall task outcome])

def emit (r : Rehearsal) (label : String) (event : Event) : Outturn × Rehearsal :=
  let isOpen := ((r.link? label).map r.bridge.isOpen).getD false
  (⟨.sent isOpen, if isOpen then [(label, event)] else [], [], []⟩, r)

def callDirectly (r : Rehearsal) (call : Call) : Outturn × Rehearsal :=
  let (outcome, r) := r.call r.nextTask call
  (⟨.outcome outcome, [], [call], []⟩, r)

def carryOut (r : Rehearsal) : Instruction → Outturn × Rehearsal
  | .script method outcome gated =>
    { r with script := r.script.add method outcome gated }.tellOnly .nothing
  | .release method => r.release method
  | .connect label => r.connect label
  | .close label => tell .closed (r.run ((r.link? label).map Step.close).toList)
  | .send label frame => r.send label frame
  | .handle label channel command => r.handle label channel command
  | .emit label event => r.emit label event
  | .active =>
    r.tellOnly (.activeLink (r.bridge.active.map fun link => (r.label link, !r.bridge.isOpen link)))
  | .setKey key => { r with bridge := { r.bridge with liveKey := some key } }.tellOnly .nothing
  | .keys => r.tellOnly (.keys r.bridge.liveKey r.bridge.storedKey)
  | .change change =>
    { r with files := r.files.changed r.working change }.seeKeyFile.tellOnly .nothing
  | .show path => r.tellOnly (.content (r.files.read? r.working path.toList))
  | .expect deliveries =>
    { r with network := { r.network with replies := r.network.replies ++ deliveries } }.tellOnly
      .nothing
  | .upload call => r.callDirectly call
  | .request request =>
    let (answered, r) := r.respond request
    tell (.response answered.response) (r, answered.effects)

/-- Performs an instruction. Only a scripted backend tells of its calls. -/
def perform (r : Rehearsal) (i : Instruction) : Outturn × Rehearsal :=
  let (outturn, after) := r.carryOut i
  ({ outturn with
      calls := if r.backend = .scripted then outturn.calls else []
      sightings := after.network.seen.drop r.network.seen.length }, after)

end Rehearsal

end CommandBridge
