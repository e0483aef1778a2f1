import CommandBridge.Proofs.Fetching
import CommandBridge.Proofs.Frames
import CommandBridge.Proofs.Presentation
import CommandBridge.Rehearsal.Basic

/-! A backend that is reached over the network and one that is not are told apart by nobody: what a
dashboard is told of a command is the same, and the backend is asked for what the dashboard asked
for. -/
namespace CommandBridge

open Json (DoublesReadBack Nested depthLimit)

theorem Payload.decoded_ofJson (v : Json) : (ofJson v).decoded = ofJson v := by
  cases sorted : ofJson v with
  | raw text => exact absurd sorted (ofJson_ne_raw v text)
  | _ => rfl

theorem Payload.parse?_render {v : Json} (nested : Nested depthLimit v)
    (doubles : DoublesReadBack v) :
    parse? v.render = some v := by
  rw [parse?, Json.octets_render, Json.read_wire nested doubles]
  rfl

/-- A result that is the text of a value ends a command like the value, sorted. -/
theorem Command.settle_raw (command : Command) (channel : Channel) {text : String} {v : Json}
    (read : Payload.parse? text = some v) :
    command.settle channel (.done (.raw text)) = command.settle channel (.done (.ofJson v)) := by
  have shown : (if channel.normalizes then (Payload.raw text).decoded.normalize
    else .raw text).toJson =
      (if channel.normalizes then (Payload.ofJson v).decoded.normalize else .ofJson v).toJson := by
    split
    · rw [Payload.decoded_raw_of_some read, Payload.decoded_ofJson]
    · rw [Payload.toJson_raw_of_some read, Payload.toJson_ofJson]
  exact congrArg (fun params => Event.exec none ⟨command.method, params, command.id⟩) shown

theorem Bridge.endCall_of_settle {b : Bridge} {task link : Nat} {channel : Channel}
    {command : Command} (pending : b.tasks[task]? = some (.commanding link channel command))
    {outcome outcome' : Outcome}
    (same : command.settle channel outcome = command.settle channel outcome') :
    b.step (.endCall task outcome) = b.step (.endCall task outcome') := by
  simp only [step, endCall, pending, same]

namespace RemoteBackend

theorem read_body (version : String) (channel : Channel) {command : Command}
    (nested : Nested (depthLimit - 1) command.params) (doubles : DoublesReadBack command.params) :
    Json.read (body (.ofCommand version channel command)) =
      .ok (.object [("context", .string (channel.context version)),
        ("method", .string command.method), ("params", command.params)]) := by
  refine Json.read_wire (.object ?_ ?_) ?_
  · simp only [Json.InOrder, List.pairwise_cons, List.forall_mem_cons]
    exact ⟨⟨by decide, by decide, nofun⟩, ⟨by decide, nofun⟩, nofun, .nil⟩
  · simp only [List.forall_mem_cons]
    exact ⟨.string _, .string _, nested, List.forall_mem_nil _⟩
  · refine Json.doublesReadBack_object ?_
    simp only [List.forall_mem_cons]
    exact ⟨Json.doublesReadBack_string _, Json.doublesReadBack_string _, doubles,
      List.forall_mem_nil _⟩

/-- Where a text comes of a call, the first thing that the peer sees is a request with the call in
its body. -/
theorem seen_of_text {encodings : Encodings} {limit : Option Duration} {n : Network}
    {address : String} {key : Option String} {call : Call} {status : Nat} {text : String}
    (fetched : (Fetch.runIfBuilt encodings limit n (request address key call)).1 =
      .text status text) :
    ∃ outgoing more, (Fetch.runIfBuilt encodings limit n (request address key call)).2.seen =
        n.seen ++ .request outgoing :: more ∧ outgoing.body = body call := by
  cases built : request address key call with
  | error e =>
      rw [built] at fetched
      cases fetched
  | ok outgoing =>
      rw [built] at fetched
      obtain ⟨new, seen, -, first, taken⟩ := Fetch.run_seen encodings limit n outgoing
      obtain ⟨more, rfl⟩ := List.head?_eq_some_iff.mp (first (taken status text fetched))
      refine ⟨outgoing, more, seen, ?_⟩
      obtain ⟨url, -, -, rfl⟩ := Fetch.request?_built built
      rfl

end RemoteBackend

namespace Rehearsal

/-- What comes of a command does not depend on whether its backend is reached over the network. A
reply of a status of success with the text of a value ends the command like the value, sorted; a
reply of any other status like the failure of that status. The peer sees a request first whose body
is read as the context, the method and the arguments, which are those that stand in the command's
frame. -/
theorem backends_interchangeable (r : Rehearsal) (remote : r.backend = .remote) (task : Nat)
    (channel : Channel) (command : Command) (status : Nat) (text : String)
    (answered : (Fetch.runIfBuilt r.encodings none r.network
      (RemoteBackend.request r.settings.backendUrl r.bridge.liveKey
        (.ofCommand r.bridge.version channel command))).1 = .text status text) :
    let called := r.call task (.ofCommand r.bridge.version channel command)
    ∃ outcome outgoing more, called.1 = some outcome ∧
      called.2.network.seen = r.network.seen ++ .request outgoing :: more ∧
      (∀ v, 200 ≤ status → status < 300 → text = v.render → Nested 127 v → DoublesReadBack v →
        ∀ (b : Bridge) (link : Nat), b.tasks[task]? = some (.commanding link channel command) →
          b.step (.endCall task outcome) = b.step (.endCall task (.done (.ofJson v)))) ∧
      (¬ (200 ≤ status ∧ status < 300) →
        ∀ b : Bridge, b.step (.endCall task outcome) =
          b.step (.endCall task (.failed (.status status.toUInt32 text)))) ∧
      ∀ frame, Frame.routeOfText? frame = some (channel, command) → DoublesReadBack command.params →
        Json.read outgoing.body =
          .ok (.object [("context", .string (channel.context r.bridge.version)),
            ("method", .string command.method), ("params", command.params)]) := by
  intro called
  have ended : called.1 = RemoteBackend.outcome? (.text status text) := by
    simp only [called, Rehearsal.call, remote, answered]
  obtain ⟨outgoing, more, seen, body⟩ := RemoteBackend.seen_of_text answered
  refine ⟨_, outgoing, more, ended, ?_, ?_, ?_, ?_⟩
  · simp only [called, Rehearsal.call, remote]
    exact seen
  · rintro v least less rfl nested doubles b link pending
    have success : (200 ≤ status && status < 300) = true := by simp [least, less]
    rw [if_pos success]
    exact Bridge.endCall_of_settle pending (command.settle_raw channel
      (Payload.parse?_render nested doubles))
  · intro other b
    rw [if_neg (by simpa using other)]
  · intro frame route doubles
    rw [body]
    exact RemoteBackend.read_body _ channel ((Frame.params_nested route).mono (by decide)) doubles

def withReply (status : Nat) (final : isInterim status = false) (body : Bytes) : Rehearsal :=
  .start { Settings.defaults with backendUrl := "http://[::1]" } ⟨[]⟩ 0 []
    ⟨some "[::1]".toList, false, [.replied ⟨status, [], body, .whole, 0, final⟩], []⟩ .none .remote

def listCommand : Command := ⟨"list", .string "p", .null⟩

def textOf? : Fetched → Option (Nat × String)
  | .text status text => some (status, text)
  | _ => none

theorem eq_text_of_textOf? {fetched : Fetched} {status : Nat} {text : String}
    (known : textOf? fetched = some (status, text)) : fetched = .text status text := by
  cases fetched with
  | text status' text' =>
      cases known
      rfl
  | _ => cases known

/-- A sequence that a peer gives, and a refusal. -/
theorem backends_interchangeable_half :
    let given := withReply 200 rfl Json.halfShare.wire
    let refused := withReply 404 rfl (octets "none")
    let b := ((Bridge.start "local" "v2" none).dispatch 0 .manager listCommand).1
    (∃ outcome outgoing more,
      (given.call 0 (.ofCommand given.bridge.version .manager listCommand)).1 = some outcome ∧
      (given.call 0 (.ofCommand given.bridge.version .manager listCommand)).2.network.seen =
        given.network.seen ++ .request outgoing :: more ∧
      b.step (.endCall 0 outcome) = b.step (.endCall 0 (.done (.ofJson Json.halfShare))) ∧
      Json.read outgoing.body =
        .ok (.object [("context", .string (Channel.manager.context given.bridge.version)),
          ("method", .string "list"), ("params", .string "p")])) ∧
    ∃ outcome,
      (refused.call 0 (.ofCommand refused.bridge.version .manager listCommand)).1 = some outcome ∧
      b.step (.endCall 0 outcome) = b.step (.endCall 0 (.failed (.status 404 "none"))) := by
  intro given refused b
  constructor
  · obtain ⟨outcome, outgoing, more, ended, seen, alike, -, body⟩ :=
      backends_interchangeable given rfl 0 .manager listCommand 200 Json.halfShare.render
        (eq_text_of_textOf? (by decide +kernel))
    have pending : b.tasks[0]? = some (.commanding 0 .manager listCommand) := rfl
    exact ⟨outcome, outgoing, more, ended, seen,
      alike Json.halfShare (by decide) (by decide) rfl (Json.nested_halfShare.mono (by decide))
        Json.doublesReadBack_halfShare b 0 pending,
      body _ (listCommand.routeOfText? .manager ⟨.string "p", .null⟩
        ⟨Json.doublesReadBack_string "p", Json.doublesReadBack_null⟩)
          (Json.doublesReadBack_string "p")⟩
  · obtain ⟨outcome, -, -, ended, -, -, failed, -⟩ :=
      backends_interchangeable refused rfl 0 .manager listCommand 404 "none"
        (eq_text_of_textOf? (by decide +kernel))
    exact ⟨outcome, ended, failed (by decide) b⟩

end Rehearsal

end CommandBridge
