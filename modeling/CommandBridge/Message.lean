import CommandBridge.Channel
import CommandBridge.Normalization

/-! The records that travel between dashboard and bridge. Every text frame is an event with its
arguments. Dashboards send commands, one as the first argument of a frame named after its channel;
the bridge sends `env` on connecting, `exec` for each command that has ended, and `upload` for an
archive. -/
namespace CommandBridge

open Json (Field Record)

structure Frame where
  event : String
  args : List Json

namespace Frame

def record : Record Frame where
  schema := ⟨"EventFrame", [.required "event" .text, .optional "args" .list []]⟩
  ofSlots := fun (event, args, _) => ⟨event, args⟩
  members f := [("event", .string f.event), ("args", .array f.args)]

def text (f : Frame) : String := record.text f

end Frame

/-- A command: its method, the arguments, and an identity of the caller's choice that comes back
with the answer. -/
structure Command where
  method : String
  params : Json
  id : Json

namespace Command

def record : Record Command where
  schema := ⟨"CommandRequest", [.required "method" .text, .optional "params" .any .null,
    .optional "id" .any .null]⟩
  ofSlots := fun (method, params, id, _) => ⟨method, params, id⟩
  members c := [("method", .string c.method), ("params", c.params), ("id", c.id)]

def text (c : Command) : String := record.text c

end Command

def Frame.command? (f : Frame) : Option Command := f.args.head?.bind Command.record.ofJson?

def Frame.route? (f : Frame) : Option (Channel × Command) := do
  let channel ← Channel.ofName? f.event
  let command ← f.command?
  some (channel, command)

structure Greeting where
  name : String
  version : String
  credential : Option String

def Greeting.record : Record Greeting where
  schema := ⟨"EnvAnnouncement", [.required "name" .text, .required "version" .text,
    .optionalMember "credential" .textOrNull none]⟩
  ofSlots := fun (name, version, credential, _) => ⟨name, version, credential⟩
  members g := [("name", .string g.name), ("version", .string g.version),
    ("credential", (g.credential.map Json.string).getD .null)]

structure Answer where
  method : String
  params : Json
  id : Json

def Answer.record : Record Answer where
  schema :=
    ⟨"ExecPayload", [.required "method" .text, .required "params" .any, .required "id" .any]⟩
  ofSlots := fun (method, params, id, _) => ⟨method, params, id⟩
  members a := [("method", .string a.method), ("params", a.params), ("id", a.id)]

def Json.unlessNull : Json → Option Json
  | .null => none
  | v => some v

/-- What became of an archive. The error is written only where there is one. -/
structure UploadStatus where
  file : String
  status : String
  error : Option Json

def UploadStatus.record : Record UploadStatus where
  schema := ⟨"UploadStatus", [.required "file" .text, .required "status" .text,
    .optionalMember "error" .any .null]⟩
  ofSlots := fun (file, status, error, _) => ⟨file, status, error.unlessNull⟩
  members u := [("file", .string u.file), ("status", .string u.status)] ++
    (u.error.map fun e => ("error", e)).toList

structure Versions where
  current : String
  newest : String

def Versions.record : Record Versions where
  schema := ⟨"VersionResponse", [.required "current" .text, .required "newest" .text]⟩
  ofSlots := fun (current, newest, _) => ⟨current, newest⟩
  members v := [("current", .string v.current), ("newest", .string v.newest)]

structure KeyPost where
  key : String

def KeyPost.record : Record KeyPost where
  schema := ⟨"CredentialRequest", [.required "apiKey" .text]⟩
  ofSlots := fun (key, _) => ⟨key⟩
  members p := [("apiKey", .string p.key)]

inductive Event where
  | env (greeting : Greeting)
  | exec (error : Option Failure) (answer : Answer)
  | upload (status : UploadStatus)

namespace Event

/-- The frame of an event. The error slot of `exec` is null when the call succeeded. -/
def frame : Event → Frame
  | .env greeting => ⟨"env", [Greeting.record.toJson greeting]⟩
  | .exec error answer =>
    ⟨"exec", [(error.map Failure.value).getD .null, Answer.record.toJson answer]⟩
  | .upload status => ⟨"upload", [UploadStatus.record.toJson status]⟩

def text (e : Event) : String := e.frame.text

end Event

def Command.answer (c : Command) (error : Option Failure) (result : Payload) : Event :=
  .exec error ⟨c.method, result.toJson, c.id⟩

/-- The event that ends a command: a failure is told as it is, with no result; a result on a channel
that normalizes is read and its time fields become numbers. -/
def Command.settle (c : Command) (channel : Channel) (outcome : Outcome) : Event :=
  let (error, result) : Option Failure × Payload :=
    match outcome with
    | .done result => (none, result)
    | .failed failure => (some failure, .scalar .null)
    | .aborted task words => (some (.ofAbort task words), .scalar .null)
  c.answer error (if channel.normalizes then result.decoded.normalize else result)

/-- A call: a command on a channel, in a context, or an archive for an account. -/
inductive Call where
  | invoke (channel : Channel) (context method : String) (params : Json)
  | upload (account file : String) (archive : Bytes)

namespace Call

def ofCommand (version : String) (channel : Channel) (command : Command) : Call :=
  .invoke channel (channel.context version) command.method command.params

/-- The call as a value. Of an archive only the size is told. -/
def toJson : Call → Json
  | .invoke channel context method params =>
    .ofMembers [("channel", .string channel.name), ("context", .string context),
      ("method", .string method), ("params", params)]
  | .upload account file archive =>
    .ofMembers [("account", .string account),
      ("bytes", ((Number.ofInt? archive.length).map Json.number).getD .null),
      ("file", .string file)]

end Call

end CommandBridge
