import Mathlib
import CommandBridge.Connection
import CommandBridge.Proofs.Run

/-! Frames that are dropped leave no trace. Put in anywhere among the steps of a bridge, and
anywhere among the turns of a connection's loop, they change nothing that can be seen of either. -/
namespace CommandBridge

/-- What comes in to no avail: a text that is no frame, a frame of an event that is no channel, a
frame without a first argument, or with one that is no command, and all that is neither text nor the
end of a connection. -/
inductive Incoming.Dropped : Incoming → Prop
  | unread {text e} : Frame.record.read (octets text) = .error e → Dropped (.text text)
  | unknown {text frame} : Frame.record.read (octets text) = .ok frame →
      frame.event ∉ ["metadata", "far", "gateway", "monitor", "manager"] → Dropped (.text text)
  | missing {text event} : Frame.record.read (octets text) = .ok ⟨event, []⟩ → Dropped (.text text)
  | malformed {text event v rest} : Frame.record.read (octets text) = .ok ⟨event, v :: rest⟩ →
      Command.record.ofJson? v = none → Dropped (.text text)
  | binary : Dropped .binary
  | ping : Dropped .ping
  | pong : Dropped .pong

def Step.Drops (s : Step) : Prop := ∃ link message, s = .receive link message ∧ message.Dropped

def Turn.Drops (t : Turn) : Prop := ∃ message, t = .read message ∧ message.Dropped

/-- A list with more items of a kind put in anywhere. -/
inductive Interspersed {α : Type} (Extra : α → Prop) : List α → List α → Prop
  | nil : Interspersed Extra [] []
  | kept {few many} (a : α) : Interspersed Extra few many →
      Interspersed Extra (a :: few) (a :: many)
  | extra {few many a} : Extra a → Interspersed Extra few many → Interspersed Extra few (a :: many)

theorem Channel.ofName?_eq_none_iff {name : String} :
    ofName? name = none ↔ name ∉ ["metadata", "far", "gateway", "monitor", "manager"] := by
  constructor
  · intro unknown known
    have all := List.find?_eq_none.mp unknown
    simp only [List.mem_cons, List.not_mem_nil, or_false] at known
    rcases known with rfl | rfl | rfl | rfl | rfl
    · exact all .metadata (by decide) rfl
    · exact all .far (by decide) rfl
    · exact all .gateway (by decide) rfl
    · exact all .monitor (by decide) rfl
    · exact all .manager (by decide) rfl
  · intro other
    refine List.find?_eq_none.mpr fun channel _ same => other ?_
    rw [← eq_of_beq same]
    cases channel <;> simp [Channel.name]

namespace Frame

theorem route?_eq_none_of_unknown {frame : Frame}
    (other : frame.event ∉ ["metadata", "far", "gateway", "monitor", "manager"]) :
    frame.route? = none := by
  rw [route?, Channel.ofName?_eq_none_iff.mpr other]
  rfl

theorem route?_eq_none_of_command? {frame : Frame} (other : frame.command? = none) :
    frame.route? = none := by
  rw [route?, other]
  cases Channel.ofName? frame.event <;> rfl

theorem routeOfText?_eq_none_iff {text : String} :
    routeOfText? text = none ↔ (Incoming.text text).Dropped := by
  constructor
  · intro nowhere
    cases read : Frame.record.read (octets text) with
    | error e => exact .unread read
    | ok frame =>
        obtain ⟨event, args⟩ := frame
        rw [routeOfText?, read] at nowhere
        cases known : Channel.ofName? event with
        | none => exact .unknown read (Channel.ofName?_eq_none_iff.mp known)
        | some channel =>
            cases args with
            | nil => exact .missing read
            | cons v rest =>
                refine .malformed read ?_
                cases command : Command.record.ofJson? v with
                | none => rfl
                | some c => simp [route?, known, command?, command] at nowhere
  · intro dropped
    generalize same : Incoming.text text = message at dropped
    cases dropped with
    | unread read =>
        cases same
        rw [routeOfText?, read]
    | unknown read other =>
        cases same
        rw [routeOfText?, read]
        exact route?_eq_none_of_unknown other
    | missing read =>
        cases same
        rw [routeOfText?, read]
        exact route?_eq_none_of_command? rfl
    | malformed read other =>
        cases same
        rw [routeOfText?, read]
        exact route?_eq_none_of_command? other
    | binary | ping | pong => cases same

end Frame

namespace Bridge

theorem step_of_drops {s : Step} (drops : s.Drops) (b : Bridge) : b.step s = (b, []) := by
  obtain ⟨link, message, rfl, dropped⟩ := drops
  cases message with
  | text content => simp only [step, receive, Frame.routeOfText?_eq_none_iff.mpr dropped]
  | binary | ping | pong => rfl
  | close | failure | ended => cases dropped

theorem run_of_interspersed {few many : List Step} (more : Interspersed Step.Drops few many)
    (b : Bridge) :
    b.run many = b.run few := by
  -- A step of both runs leads to another state, so the induction is over all states.
  induction more generalizing b with
  | nil => rfl
  | kept s _ ih => rw [run_cons, run_cons, ih]
  | extra drops _ ih =>
      rw [run_cons, step_of_drops drops, ih]
      rfl

end Bridge

namespace Connection

/-- A connection's loop with the texts alone that lead to a command among those handed on. -/
def heeded (c : Connection) : Connection :=
  { c with handled := c.handled.filter fun text => (Frame.routeOfText? text).isSome }

theorem heeded_commands (c : Connection) :
    c.heeded.handled.filterMap Frame.routeOfText? = c.handled.filterMap Frame.routeOfText? := by
  simp only [heeded, List.filterMap_filter]
  congr
  funext text
  cases Frame.routeOfText? text <;> rfl

theorem heeded_turn (c : Connection) (t : Turn) : (c.heeded.turn t).heeded = (c.turn t).heeded := by
  obtain ⟨queued, handled, written, running⟩ := c
  cases running with
  | false => simp [turn, heeded]
  | true =>
      cases t with
      | queue event => simp [turn, heeded]
      | read message => cases message <;> simp [turn, read, heeded]
      | write succeeds =>
          cases queued with
          | nil => simp [turn, write, heeded]
          | cons event rest => cases succeeds <;> simp [turn, write, heeded]

theorem heeded_turn_of_drops {t : Turn} (drops : t.Drops) (c : Connection) :
    (c.turn t).heeded = c.heeded := by
  obtain ⟨message, rfl, dropped⟩ := drops
  obtain ⟨queued, handled, written, running⟩ := c
  cases running with
  | false => rfl
  | true =>
      cases message with
      | text content => simp [turn, read, heeded, Frame.routeOfText?_eq_none_iff.mpr dropped]
      | binary | ping | pong => rfl
      | close | failure | ended => cases dropped

theorem heeded_run_of_interspersed {few many : List Turn} (more : Interspersed Turn.Drops few many)
    {c c' : Connection} (same : c.heeded = c'.heeded) :
    (c.run many).heeded = (c'.run few).heeded := by
  induction more generalizing c c' with
  | nil => exact same
  | kept t _ ih =>
      refine ih ?_
      rw [← heeded_turn c, same, heeded_turn]
  | extra drops _ ih =>
      refine ih ?_
      rw [heeded_turn_of_drops drops, same]

end Connection

/-- Dropped frames leave no trace. A run with more of them, on whichever connections they come in
and whenever, has the same calls, the same events on every connection, the same answers and the same
order of all these; it ends with the same active connection, the same keys, and the same connections
open and closed. The loop of a connection that reads more of them queues and writes the same events,
hands on the same commands, and goes on if it would have gone on. -/
theorem dropped_leave_no_trace :
    (∀ (b : Bridge) {few many : List Step}, Interspersed Step.Drops few many →
      b.run many = b.run few) ∧
    ∀ (c : Connection) {few many : List Turn}, Interspersed Turn.Drops few many →
      (c.run many).written = (c.run few).written ∧ (c.run many).queued = (c.run few).queued ∧
      (c.run many).handled.filterMap Frame.routeOfText? =
        (c.run few).handled.filterMap Frame.routeOfText? ∧
      (c.run many).running = (c.run few).running := by
  refine ⟨fun b few many more => Bridge.run_of_interspersed more b, ?_⟩
  intro c few many more
  have same := Connection.heeded_run_of_interspersed more (c := c) rfl
  refine ⟨(congrArg Connection.written same :), (congrArg Connection.queued same :), ?_,
    (congrArg Connection.running same :)⟩
  rw [← Connection.heeded_commands (c.run many), same, Connection.heeded_commands]

/-- Dropped frames before a command, on its connection and on one that nobody has opened. -/
theorem dropped_leave_no_trace_junk :
    let command := "[\"far\",[[\"list\",\"p\",\"i\"]]]"
    let unread := "not json"
    let unknown := "[\"nowhere\",[[\"list\"]]]"
    let malformed := "[\"far\",[\"list\"]]"
    let few : List Step := [.connect, .readKey 0, .greet 0, .receive 0 (.text command)]
    let many : List Step := [.connect, .receive 0 (.text unread), .readKey 0, .greet 0,
      .receive 0 (.text unknown), .receive 7 (.text malformed), .receive 0 .ping,
      .receive 0 (.text command)]
    let reads : List Turn :=
      [.read (.text unknown), .read .pong, .read (.text command), .read (.text malformed)]
    let b := Bridge.start "local" "v2" none
    Interspersed Step.Drops few many ∧ b.run many = b.run few ∧
      Interspersed Turn.Drops [.read (.text command)] reads ∧
      (Connection.start.run reads).handled.filterMap Frame.routeOfText? =
        [(.far, ⟨"list", .string "p", .string "i"⟩)] := by
  intro command unread unknown malformed few many reads b
  have no_frame : (Incoming.text unread).Dropped := Frame.routeOfText?_eq_none_iff.mp (by cbv)
  have no_channel : (Incoming.text unknown).Dropped := Frame.routeOfText?_eq_none_iff.mp (by cbv)
  have no_command : (Incoming.text malformed).Dropped := Frame.routeOfText?_eq_none_iff.mp (by cbv)
  have steps : Interspersed Step.Drops few many :=
    .kept _ (.extra ⟨_, _, rfl, no_frame⟩ (.kept _ (.kept _ (.extra ⟨_, _, rfl, no_channel⟩
      (.extra ⟨_, _, rfl, no_command⟩ (.extra ⟨_, _, rfl, .ping⟩ (.kept _ .nil)))))))
  have turns : Interspersed Turn.Drops [.read (.text command)] reads :=
    .extra ⟨_, rfl, no_channel⟩
      (.extra ⟨_, rfl, .pong⟩ (.kept _ (.extra ⟨_, rfl, no_command⟩ .nil)))
  refine ⟨steps, dropped_leave_no_trace.1 b steps, turns, ?_⟩
  exact (dropped_leave_no_trace.2 Connection.start turns).2.2.1.trans (by cbv)

end CommandBridge
