import CommandBridge.Message

/-! A backend that follows a script: for each method a queue of outcomes, one for each call. An
outcome may stand behind a gate, which holds the call that takes it until the gate is opened. -/
namespace CommandBridge

/-- An outcome for a call of a method, with the number of its gate, if it has one. -/
structure Cue where
  method : String
  outcome : Outcome
  gate : Option Nat

/-- A gate: the method it was set up for, whether it is open, and the call that it holds, as its
task and the outcome to come. -/
structure Gate where
  method : String
  isOpen : Bool
  held : Option (Nat × Outcome)

structure Script where
  cues : List Cue
  gates : List Gate

namespace Script

def empty : Script := ⟨[], []⟩

def uploadMethod : String := "upload"

def methodOf : Call → String
  | .invoke _ _ method _ => method
  | .upload .. => uploadMethod

/-- What a call comes to when the script says nothing of it: it is told back. -/
def echo : Call → Outcome
  | .invoke channel context method params =>
    .done (.raw (Call.invoke channel context method params).toJson.render)
  | .upload account file archive => .done (.scalar (Call.upload account file archive).toJson)

def add (s : Script) (method : String) (outcome : Outcome) (gated : Bool) : Script where
  cues := s.cues ++ [⟨method, outcome, if gated then some s.gates.length else none⟩]
  gates := if gated then s.gates ++ [⟨method, false, none⟩] else s.gates

def next? (method : String) : List Cue → Option (Cue × List Cue)
  | [] => none
  | cue :: rest =>
    if cue.method = method then some (cue, rest)
    else (next? method rest).map fun found => (found.1, cue :: found.2)

def call (s : Script) (task : Nat) (call : Call) : Option Outcome × Script :=
  match next? (methodOf call) s.cues with
  | none => (some (echo call), s)
  | some (cue, cues) =>
    let s := { s with cues }
    match cue.gate.bind fun n => (s.gates[n]?).map fun gate => (n, gate) with
    | none => (some cue.outcome, s)
    | some (n, gate) =>
      if gate.isOpen then (some cue.outcome, s)
      else (none, { s with gates := s.gates.set n { gate with held := some (task, cue.outcome) } })

def release (s : Script) (method : String) : Option (Option (Nat × Outcome)) × Script :=
  match s.gates.findIdx? fun gate => gate.method == method && !gate.isOpen with
  | none => (none, s)
  | some n =>
    let held := (s.gates[n]?).bind (·.held)
    (some held,
      { s with gates := s.gates.modify n fun gate => { gate with isOpen := true, held := none } })

end Script

end CommandBridge
