import CommandBridge.Connection
import CommandBridge.Proofs.Json.Yields

/-! What is written to a dashboard loses nothing: the text of an event is read as the frame of the
event, and the event is read back from the arguments of the frame. -/
namespace CommandBridge

open Json (DoublesReadBack Nested depthLimit)

theorem Frame.gathers (f : Frame) : Frame.record.Gathers f := rfl

theorem Frame.reads_back (f : Frame) (nested : ∀ v ∈ f.args, Nested (depthLimit - 2) v)
    (doubles : ∀ v ∈ f.args, DoublesReadBack v) : Frame.record.read (octets f.text) = .ok f := by
  refine Json.Record.read_text f.gathers ?_ ?_
  · simp only [Frame.record, List.forall_mem_cons]
    exact ⟨.string f.event, .array nested, List.forall_mem_nil _⟩
  · simp only [Frame.record, List.forall_mem_cons]
    exact ⟨Json.doublesReadBack_string f.event, Json.doublesReadBack_array doubles,
      List.forall_mem_nil _⟩

/-- The arguments in a frame that is read are nested less deep than the frame may be. -/
theorem Frame.args_nested {bytes : Bytes} {f : Frame} (read : Frame.record.read bytes = .ok f) :
    ∀ v ∈ f.args, Nested (depthLimit - 2) v := by
  unfold Json.Record.read at read
  cases slots : Frame.record.schema.read bytes with
  | error e => rw [slots] at read; cases read
  | ok held =>
      rw [slots] at read
      cases read
      have defaults : Json.DefaultsKeep (depthLimit - 1) Frame.record.schema.fields := by
        refine List.forall_mem_cons.mpr ⟨nofun, List.forall_mem_singleton.mpr ?_⟩
        rintro _ ⟨⟩
        exact .array nofun
      exact Nested.items (Json.Schema.read_keeps defaults slots).2.1

theorem Command.params_nested {depth : Nat} {v : Json} {command : Command}
    (nested : Nested (depth + 1) v) (read : Command.record.ofJson? v = some command) :
    Nested depth command.params ∧ Nested depth command.id := by
  obtain ⟨slots, gathered, rfl⟩ := Option.map_eq_some_iff.mp read
  have defaults : Json.DefaultsKeep depth Command.record.schema.fields := by
    refine List.forall_mem_cons.mpr ⟨nofun, List.forall_mem_cons.mpr
      ⟨?_, List.forall_mem_singleton.mpr ?_⟩⟩
    · rintro _ ⟨⟩
      exact .null
    · rintro _ ⟨⟩
      exact .null
  have kept := Json.Schema.ofJson?_keeps nested defaults gathered
  exact ⟨kept.2.1, kept.2.2.1⟩

theorem Frame.params_nested {text : String} {channel : Channel} {command : Command}
    (route : Frame.routeOfText? text = some (channel, command)) :
    Nested (depthLimit - 3) command.params := by
  unfold Frame.routeOfText? at route
  split at route
  · rename_i f read
    obtain ⟨_, -, route⟩ := Option.bind_eq_some_iff.mp route
    obtain ⟨_, carried, same⟩ := Option.bind_eq_some_iff.mp route
    cases same
    obtain ⟨v, first, read'⟩ := Option.bind_eq_some_iff.mp carried
    exact (Command.params_nested (Frame.args_nested read v (List.mem_of_head? first)) read').1
  · cases route

theorem Command.ofJson?_toJson (c : Command) :
    Command.record.ofJson? (Command.record.toJson c) = some c := by
  rw [Json.Record.ofJson?_toJson (by simp [Command.record])]
  rfl

theorem Channel.ofName?_name (channel : Channel) : ofName? channel.name = some channel := by
  cases channel <;> rfl

/-- A frame of a channel's name and a command leads to the channel and the command. -/
theorem Command.routeOfText? (channel : Channel) (c : Command)
    (nested : Nested 124 c.params ∧ Nested 124 c.id)
    (doubles : DoublesReadBack c.params ∧ DoublesReadBack c.id) :
    Frame.routeOfText? (Frame.mk channel.name [Command.record.toJson c]).text =
      some (channel, c) := by
  have shallow : ∀ v ∈ [Command.record.toJson c], Nested (depthLimit - 2) v := by
    refine List.forall_mem_singleton.mpr (Json.nested_ofMembers ?_)
    simp only [Command.record, List.forall_mem_cons]
    exact ⟨.string c.method, nested.1, nested.2, List.forall_mem_nil _⟩
  have alike : ∀ v ∈ [Command.record.toJson c], DoublesReadBack v := by
    refine List.forall_mem_singleton.mpr (Json.doublesReadBack_ofMembers ?_)
    simp only [Command.record, List.forall_mem_cons]
    exact ⟨Json.doublesReadBack_string c.method, doubles.1, doubles.2, List.forall_mem_nil _⟩
  rw [Frame.routeOfText?, Frame.reads_back _ shallow alike]
  simp only [Frame.route?, Channel.ofName?_name, Frame.command?, List.head?_cons, Option.bind_some,
    Command.ofJson?_toJson]
  rfl

theorem Greeting.ofJson?_toJson (g : Greeting) :
    Greeting.record.ofJson? (Greeting.record.toJson g) = some g := by
  rw [Json.Record.ofJson?_toJson (by simp [Greeting.record])]
  obtain ⟨name, version, credential⟩ := g
  cases credential with
  | none => rfl
  | some key => rfl

theorem Answer.ofJson?_toJson (a : Answer) :
    Answer.record.ofJson? (Answer.record.toJson a) = some a := by
  rw [Json.Record.ofJson?_toJson (by simp [Answer.record])]
  rfl

/-- An error that is null is not told from none. -/
theorem UploadStatus.ofJson?_toJson (u : UploadStatus) :
    UploadStatus.record.ofJson? (UploadStatus.record.toJson u) =
      some { u with error := u.error.bind Json.unlessNull } := by
  obtain ⟨file, status, error⟩ := u
  cases error with
  | none =>
      rw [Json.Record.ofJson?_toJson (by simp [UploadStatus.record])]
      rfl
  | some e =>
      rw [Json.Record.ofJson?_toJson (by simp [UploadStatus.record])]
      rfl

namespace Event

/-- The values in an event that may be any. -/
def values : Event → List Json
  | .env _ => []
  | .exec error answer => (error.map Failure.value).toList ++ [answer.params, answer.id]
  | .upload status => status.error.toList

/-- What holds of the values in an event, of every string and of null, and of an object where it
holds of its members, holds of the arguments of the frame. -/
theorem forall_args {P Q : Json → Prop} (string : ∀ s, P (.string s)) (null : P .null)
    (weaker : ∀ v, P v → Q v)
    (object : ∀ members, (∀ m ∈ members, P m.2) → Q (Json.ofMembers members)) (e : Event)
    (values : ∀ v ∈ e.values, P v) : ∀ v ∈ e.frame.args, Q v := by
  cases e with
  | env greeting =>
      have key : P ((greeting.credential.map Json.string).getD .null) := by
        cases greeting.credential with
        | none => exact null
        | some key => exact string key
      refine List.forall_mem_singleton.mpr (object _ ?_)
      simp only [Greeting.record, List.forall_mem_cons]
      exact ⟨string _, string _, key, List.forall_mem_nil _⟩
  | exec error answer =>
      have failure : P ((error.map Failure.value).getD .null) := by
        cases error with
        | none => exact null
        | some failure => exact values _ List.mem_cons_self
      refine List.forall_mem_cons.mpr ⟨weaker _ failure, List.forall_mem_singleton.mpr
        (object _ ?_)⟩
      simp only [Answer.record, List.forall_mem_cons]
      exact ⟨string _, values _ (by simp [Event.values]), values _ (by simp [Event.values]),
        List.forall_mem_nil _⟩
  | upload status =>
      refine List.forall_mem_singleton.mpr (object _ fun m among => ?_)
      rcases List.mem_append.mp among with named | failed
      · simp only [List.mem_cons, List.not_mem_nil, or_false] at named
        rcases named with rfl | rfl
        · exact string _
        · exact string _
      · obtain ⟨error, some, rfl⟩ := List.mem_map.mp (Option.toList_map .. ▸ failed)
        exact values _ some

/-- The text that is written for an event is not empty and is read as the frame of the event, and
the arguments of the frame are read as what the event carries. Only an upload's error that is null
is read as none. -/
theorem nothing_lost (e : Event) (nested : ∀ v ∈ e.values, Nested 124 v)
    (doubles : ∀ v ∈ e.values, DoublesReadBack v) :
    (∀ (c : Connection) (later : List Event), c.running = true → c.queued = e :: later →
      (c.turn (.write true)).written = c.written ++ [e.text]) ∧
    e.text ≠ "" ∧ Frame.record.read (octets e.text) = .ok e.frame ∧
    match e with
    | .env greeting =>
        ∃ told, e.frame = ⟨"env", [told]⟩ ∧ Greeting.record.ofJson? told = some greeting
    | .exec error answer =>
        ∃ told, e.frame = ⟨"exec", [(error.map Failure.value).getD .null, told]⟩ ∧
        Answer.record.ofJson? told = some answer
    | .upload status => ∃ told, e.frame = ⟨"upload", [told]⟩ ∧
        UploadStatus.record.ofJson? told =
            some { status with error := status.error.bind Json.unlessNull } := by
  have read : Frame.record.read (octets e.text) = .ok e.frame := by
    refine e.frame.reads_back ?_ ?_
    · exact forall_args (P := Nested 124) .string .null (fun v within => within.mono (by decide))
        (fun members => Json.nested_ofMembers) e nested
    · exact forall_args (P := DoublesReadBack) Json.doublesReadBack_string Json.doublesReadBack_null
        (fun v doubles => doubles) (fun members => Json.doublesReadBack_ofMembers) e doubles
  refine ⟨?_, ?_, read, ?_⟩
  · intro c later running queued
    simp only [Connection.turn, running, Connection.write, queued]
    rfl
  · intro empty
    rw [empty] at read
    cases read
  · cases e with
    | env greeting => exact ⟨_, rfl, greeting.ofJson?_toJson⟩
    | exec error answer => exact ⟨_, rfl, answer.ofJson?_toJson⟩
    | upload status => exact ⟨_, rfl, status.ofJson?_toJson⟩

theorem nothing_lost_half :
    let e := Event.exec none ⟨"list", .halfShare, .string "1"⟩
    (∀ v ∈ e.values, Nested 124 v) ∧ (∀ v ∈ e.values, DoublesReadBack v) ∧
      Frame.record.read (octets e.text) = .ok e.frame := by
  intro e
  have nested : ∀ v ∈ e.values, Nested 124 v := List.forall_mem_cons.mpr
    ⟨Json.nested_halfShare.mono (by decide), List.forall_mem_singleton.mpr (.string "1")⟩
  have doubles : ∀ v ∈ e.values, DoublesReadBack v := List.forall_mem_cons.mpr
    ⟨Json.doublesReadBack_halfShare, List.forall_mem_singleton.mpr
      (Json.doublesReadBack_string "1")⟩
  exact ⟨nested, doubles, (nothing_lost e nested doubles).2.2.1⟩

end Event

end CommandBridge
