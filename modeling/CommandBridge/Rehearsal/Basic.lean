import CommandBridge.Bridge.Step
import CommandBridge.Lookup
import CommandBridge.Outgoing.Backend
import CommandBridge.Rehearsal.Script

/-! A rehearsal runs a bridge in surroundings that are all known: a tree of files, a network and a
backend, which follows a script or is reached over the network. Whatever a step sets going runs on
until it ends or waits, before the next step is made. -/
namespace CommandBridge

inductive BackendKind where
  | scripted
  | remote
deriving DecidableEq

/-- The surroundings, among them the encodings that replies may come in, the version that is
installed, the bridge, and the labels of connections. All files are as old as each other: they were
written a number of seconds after the beginning of 1970. -/
structure Rehearsal where
  settings : Settings
  files : FileTree
  written : Nat
  working : Place
  network : Network
  encodings : Encodings
  backend : BackendKind
  localVersion : String
  script : Script
  bridge : Bridge
  labels : List (String × Nat)

namespace Rehearsal

def start (settings : Settings) (files : FileTree) (written : Nat) (working : Place)
    (network : Network) (encodings : Encodings) (backend : BackendKind) : Rehearsal where
  settings := settings
  files := files
  written := written
  working := working
  network := network
  encodings := encodings
  backend := backend
  localVersion := Lookup.versionIn (files.read? working settings.versionFile.toList)
  script := .empty
  bridge :=
    .start settings.envName settings.apiVersion (files.read? working settings.credentialPath)
  labels := []

def call (r : Rehearsal) (task : Nat) (call : Call) : Option Outcome × Rehearsal :=
  match r.backend with
  | .scripted =>
    let (outcome, script) := r.script.call task call
    (outcome, { r with script })
  | .remote =>
    let request := RemoteBackend.request r.settings.backendUrl r.bridge.liveKey call
    let (fetched, network) := Fetch.runIfBuilt r.encodings none r.network request
    (RemoteBackend.outcome? fetched, { r with network })

def run (r : Rehearsal) (steps : List Step) : Rehearsal × List Effect :=
  let (bridge, seen) := r.bridge.run steps
  ({ r with bridge }, seen)

/-- Puts the call among some effects to the backend. Where it ends at once, its task goes on. -/
def settle (r : Rehearsal) : List Effect → Rehearsal × List Effect
  | [] => (r, [])
  | .called task call :: _ =>
    let (outcome, r) := r.call task call
    match outcome with
    | some outcome => r.run [.endCall task outcome]
    | none => (r, [])
  | _ :: rest => r.settle rest

def runCalling (r : Rehearsal) (s : Step) : Rehearsal × List Effect :=
  let (r, seen) := r.run [s]
  let (r, later) := r.settle seen
  (r, seen ++ later)

def nextTask (r : Rehearsal) : Nat := r.bridge.tasks.length

def link? (r : Rehearsal) (label : String) : Option Nat :=
  (r.labels.find? fun l => l.1 == label).map (·.2)

def label (r : Rehearsal) (link : Nat) : String :=
  ((r.labels.find? fun l => l.2 == link).map (·.1)).getD ""

def seeKeyFile (r : Rehearsal) : Rehearsal :=
  { r with
    bridge := { r.bridge with keyFile := r.files.read? r.working r.settings.credentialPath } }

def writeKeyFile (r : Rehearsal) : Rehearsal :=
  match r.bridge.keyFile with
  | some content =>
    { r with files := (r.files.write? r.working r.settings.credentialPath content).getD r.files }
  | none => r

def isKeyFileWritable (r : Rehearsal) : Bool :=
  (r.files.write? r.working r.settings.credentialPath []).isSome

end Rehearsal

end CommandBridge
