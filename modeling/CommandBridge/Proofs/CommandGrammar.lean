import CommandBridge.Proofs.Accounting
import CommandBridge.Proofs.Dropping
import CommandBridge.Proofs.Frames
import CommandBridge.Proofs.Json.Schemas

/-! Which texts are commands. The grammar says it of the octets, and whatever is read of a text is
what it says: a frame from the text, then a command from the first argument of the frame. -/
namespace CommandBridge

open Json (Blanks Enclosed MemberText Passes depthLimit find?)

/-- The octets of a frame. An object has one member `event`, a string, and one member `args`, an
array, or none, which is the same as no arguments; what other members it has need be of the form of
values only. An array has the event, and the array of arguments behind it or nothing. -/
inductive Frame.Body : Bytes → Frame → Prop
  | object {members inside m m' event args} : Enclosed Octet.closeBrace MemberText members inside →
      members.filter (·.1 = "event") = [m] → Json.Spells (depthLimit - 1) m.2 (.string event) →
      members.filter (·.1 = "args") = [m'] → Json.Spells (depthLimit - 1) m'.2 (.array args) →
      (∀ other ∈ members, other.1 ∉ ["event", "args"] → Passes none other.2) →
      Frame.Body (Octet.openBrace :: inside) ⟨event, args⟩
  | eventMember {members inside m event} : Enclosed Octet.closeBrace MemberText members inside →
      members.filter (·.1 = "event") = [m] → Json.Spells (depthLimit - 1) m.2 (.string event) →
      members.filter (·.1 = "args") = [] →
      (∀ other ∈ members, other.1 ∉ ["event", "args"] → Passes none other.2) →
      Frame.Body (Octet.openBrace :: inside) ⟨event, []⟩
  | array {inside event args} :
      Enclosed Octet.closeBracket (fun item text => Json.Spells (depthLimit - 1) text item)
        [.string event, .array args] inside →
      Frame.Body (Octet.openBracket :: inside) ⟨event, args⟩
  | eventItem {inside event} :
      Enclosed Octet.closeBracket (fun item text => Json.Spells (depthLimit - 1) text item)
        [.string event] inside →
      Frame.Body (Octet.openBracket :: inside) ⟨event, []⟩

def Frame.Spelled (text : Bytes) (frame : Frame) : Prop :=
  ∃ before body after, Blanks before ∧ Blanks after ∧ text = before ++ (body ++ after) ∧
    Frame.Body body frame

/-- A value tells a command: an object of which the member `method` is a string, or an array of the
method, the parameters and the identity, of which the last ones may be missing. What is missing is
null. -/
inductive Command.Told : Json → Command → Prop
  | object {members method} : find? "method" members = some (.string method) →
      Command.Told (.object members)
        ⟨method, (find? "params" members).getD .null, (find? "id" members).getD .null⟩
  | method (method) : Command.Told (.array [.string method]) ⟨method, .null, .null⟩
  | params (method params) : Command.Told (.array [.string method, params]) ⟨method, params, .null⟩
  | id (method params id) : Command.Told (.array [.string method, params, id]) ⟨method, params, id⟩

/-- A text asks for a command on a channel: it spells a frame of which the event is the name of the
channel and the first argument tells the command. -/
def Asks (text : Bytes) (channel : Channel) (command : Command) : Prop :=
  ∃ first rest, Frame.Spelled text ⟨channel.name, first :: rest⟩ ∧ Command.Told first command

/-- Values that are the same but for members of an object that no command has. -/
inductive Command.Alike : Json → Json → Prop
  | same (v) : Command.Alike v v
  | object {members members'} :
      (∀ name ∈ ["method", "params", "id"], find? name members = find? name members') →
      Command.Alike (.object members) (.object members')

namespace Frame

variable {members : List (String × Bytes)} {event : String} {args : List Json}

theorem others_iff {P : String × Bytes → Prop} :
    (∀ m ∈ (members.filter (·.1 ≠ "event")).filter (·.1 ≠ "args"), P m) ↔
      ∀ m ∈ members, m.1 ∉ ["event", "args"] → P m := by
  constructor
  · intro all m within noField
    obtain ⟨noEvent, noArgs⟩ : m.1 ≠ "event" ∧ m.1 ≠ "args" := by simpa using noField
    apply all m
    apply List.mem_filter.mpr
    exact ⟨List.mem_filter.mpr ⟨within, by simpa using noEvent⟩, by simpa using noArgs⟩
  · intro all m within
    obtain ⟨within, noArgs⟩ := List.mem_filter.mp within
    obtain ⟨within, noEvent⟩ := List.mem_filter.mp within
    apply all m within
    simpa using ⟨by simpa using noEvent, by simpa using noArgs⟩

theorem event_among_iff {found : List (String × Bytes)} :
    Json.Field.Among (depthLimit - 1) (.required "event" .text) found event ↔
      ∃ m, found = [m] ∧ Json.Spells (depthLimit - 1) m.2 (.string event) := by
  refine Json.Field.among_iff.trans ?_
  simp only [Json.Field.required, reduceCtorEq, and_false, false_or]
  exact exists_congr fun m => and_congr Iff.rfl Json.Kind.spells_text_iff

theorem args_among_iff {found : List (String × Bytes)} :
    Json.Field.Among (depthLimit - 1) (.optional "args" .list []) found args ↔
      found = [] ∧ args = [] ∨ ∃ m, found = [m] ∧
      Json.Spells (depthLimit - 1) m.2 (.array args) := by
  refine Json.Field.among_iff.trans (or_congr (and_congr Iff.rfl ?_) (exists_congr fun m => ?_))
  · exact (Option.some.injEq _ _).to_iff.trans eq_comm
  · exact and_congr Iff.rfl Json.Kind.spells_list_iff

theorem among_iff :
    Json.Slots.Among (depthLimit - 1) record.schema.fields members (event, args, ()) ↔
    (∃ m, members.filter (·.1 = "event") = [m] ∧ Json.Spells (depthLimit - 1) m.2 (.string event)) ∧
    (members.filter (·.1 = "args") = [] ∧ args = [] ∨
      ∃ m, members.filter (·.1 = "args") = [m] ∧ Json.Spells (depthLimit - 1) m.2 (.array args)) ∧
    ∀ other ∈ members, other.1 ∉ ["event", "args"] → Passes none other.2 := by
  have same := Json.filter_filter_other (show "args" ≠ "event" by decide) members
  exact and_congr event_among_iff (and_congr (same ▸ args_among_iff) others_iff)

theorem ofItems?_iff {items : List Json} :
    Json.Slots.ofItems? record.schema.fields items = some (event, args, ()) ↔
      items = [.string event, .array args] ∨ items = [.string event] ∧ args = [] := by
  constructor
  · intro of
    cases items with
    | nil => cases of
    | cons first rest =>
        obtain ⟨isEvent, later⟩ := Json.Slots.ofItems?_cons_iff.mp of
        obtain rfl := Json.Kind.ofJson?_text_iff.mp isEvent
        cases rest with
        | nil =>
            obtain ⟨-, same, -⟩ := Json.Slots.ofItems?_nil_iff.mp later
            exact .inr ⟨rfl, (Option.some.inj same).symm⟩
        | cons second rest =>
            obtain ⟨areArgs, ends⟩ := Json.Slots.ofItems?_cons_iff.mp later
            obtain rfl := Json.Kind.ofJson?_list_iff.mp areArgs
            cases rest with
            | nil => exact .inl rfl
            | cons third rest => cases ends
  · rintro (rfl | ⟨rfl, rfl⟩) <;> rfl

theorem spells_iff {body : Bytes} {frame : Frame} : record.Spells body frame ↔ Body body frame := by
  constructor
  · rintro ⟨⟨event, args, ⟨⟩⟩, spells, rfl⟩
    rcases spells with ⟨members, inside, rfl, enclosed, among⟩ | ⟨items, inside, rfl, enclosed, of⟩
    · obtain ⟨⟨m, one, isEvent⟩, ⟨none, rfl⟩ | ⟨m', one', areArgs⟩, others⟩ := among_iff.mp among
      · exact .eventMember enclosed one isEvent none others
      · exact .object enclosed one isEvent one' areArgs others
    · rcases ofItems?_iff.mp of with rfl | ⟨rfl, rfl⟩
      · exact .array enclosed
      · exact .eventItem enclosed
  · intro body
    refine ⟨(frame.event, frame.args, ()), ?_, rfl⟩
    cases body with
    | object enclosed one isEvent one' areArgs others =>
        have among := among_iff.mpr ⟨⟨_, one, isEvent⟩, .inr ⟨_, one', areArgs⟩, others⟩
        exact .inl ⟨_, _, rfl, enclosed, among⟩
    | eventMember enclosed one isEvent none others =>
        have among := among_iff.mpr ⟨⟨_, one, isEvent⟩, .inl ⟨none, rfl⟩, others⟩
        exact .inl ⟨_, _, rfl, enclosed, among⟩
    | array enclosed => exact .inr ⟨_, _, rfl, enclosed, ofItems?_iff.mpr (.inl rfl)⟩
    | eventItem enclosed => exact .inr ⟨_, _, rfl, enclosed, ofItems?_iff.mpr (.inr ⟨rfl, rfl⟩)⟩

/-- The texts that are read as a frame are those that spell it. -/
theorem read_iff_spelled {text : Bytes} {frame : Frame} :
    record.read text = .ok frame ↔ Spelled text frame := by
  simp only [Json.Record.read_eq_ok_iff, spells_iff]
  rfl

end Frame

namespace Command

variable {method : String} {params id : Json}

theorem orNull_iff {name : String} {members : Members} {held : Json} :
    (match find? name members with
      | some v => Json.Kind.any.ofJson? v
      | none => some Json.null) = some held ↔ held = (find? name members).getD .null := by
  cases find? name members with
  | none => exact (Option.some.injEq _ _).to_iff.trans eq_comm
  | some v => exact (Option.some.injEq _ _).to_iff.trans eq_comm

theorem ofMembers?_iff {members : Members} :
    Json.Slots.ofMembers? record.schema.fields members = some (method, params, id, ()) ↔
      find? "method" members = some (.string method) ∧
      params = (find? "params" members).getD .null ∧
        id = (find? "id" members).getD .null := by
  refine Json.Slots.ofMembers?_cons_iff.trans (and_congr ?_ ?_)
  · change (match find? "method" members with
      | some v => Json.Kind.text.ofJson? v
      | none => none) = some method ↔ _
    cases find? "method" members with
    | none => exact ⟨nofun, nofun⟩
    | some v => exact Json.Kind.ofJson?_text_iff.trans (Option.some.injEq _ _).to_iff.symm
  · refine Json.Slots.ofMembers?_cons_iff.trans (and_congr orNull_iff ?_)
    refine Json.Slots.ofMembers?_cons_iff.trans
      ((and_congr orNull_iff ?_).trans (and_true _).to_iff)
    exact iff_of_true rfl trivial

theorem ofItems?_iff {items : List Json} :
    Json.Slots.ofItems? record.schema.fields items = some (method, params, id, ()) ↔
      items = [.string method] ∧ params = .null ∧ id = .null ∨
        items = [.string method, params] ∧ id = .null ∨ items = [.string method, params, id] := by
  constructor
  · intro of
    cases items with
    | nil => cases of
    | cons first rest =>
        obtain ⟨isMethod, later⟩ := Json.Slots.ofItems?_cons_iff.mp of
        obtain rfl := Json.Kind.ofJson?_text_iff.mp isMethod
        cases rest with
        | nil =>
            obtain ⟨-, same, later'⟩ := Json.Slots.ofItems?_nil_iff.mp later
            obtain ⟨-, same', -⟩ := Json.Slots.ofItems?_nil_iff.mp later'
            exact .inl ⟨rfl, (Option.some.inj same).symm, (Option.some.inj same').symm⟩
        | cons second rest =>
            obtain ⟨same, later'⟩ := Json.Slots.ofItems?_cons_iff.mp later
            obtain rfl := Option.some.inj same
            cases rest with
            | nil =>
                obtain ⟨-, same', -⟩ := Json.Slots.ofItems?_nil_iff.mp later'
                exact .inr (.inl ⟨rfl, (Option.some.inj same').symm⟩)
            | cons third rest =>
                obtain ⟨same', ends⟩ := Json.Slots.ofItems?_cons_iff.mp later'
                obtain rfl := Option.some.inj same'
                cases rest with
                | nil => exact .inr (.inr rfl)
                | cons fourth rest => cases ends
  · rintro (⟨rfl, rfl, rfl⟩ | ⟨rfl, rfl⟩ | rfl) <;> rfl

theorem ofJson?_of_slots {v : Json} (of : record.schema.ofJson? v = some (method, params, id, ())) :
    record.ofJson? v = some ⟨method, params, id⟩ := by
  rw [Json.Record.ofJson?, of]
  rfl

/-- The values that are read as a command are those that tell it. -/
theorem ofJson?_eq_some_iff {v : Json} {c : Command} : record.ofJson? v = some c ↔ Told v c := by
  constructor
  · intro read
    obtain ⟨⟨method, params, id, ⟨⟩⟩, of, rfl⟩ := Option.map_eq_some_iff.mp read
    change Told v ⟨method, params, id⟩
    cases v with
    | object members =>
        obtain ⟨isMethod, rfl, rfl⟩ := ofMembers?_iff.mp of
        exact .object isMethod
    | array items =>
        rcases ofItems?_iff.mp of with ⟨rfl, rfl, rfl⟩ | ⟨rfl, rfl⟩ | rfl
        · exact .method method
        · exact .params method params
        · exact .id method params id
    | _ => cases of
  · intro told
    cases told with
    | object isMethod => exact ofJson?_of_slots (ofMembers?_iff.mpr ⟨isMethod, rfl, rfl⟩)
    | method method => exact ofJson?_of_slots (ofItems?_iff.mpr (.inl ⟨rfl, rfl, rfl⟩))
    | params method params => exact ofJson?_of_slots (ofItems?_iff.mpr (.inr (.inl ⟨rfl, rfl⟩)))
    | id method params id => exact ofJson?_of_slots (ofItems?_iff.mpr (.inr (.inr rfl)))

end Command

theorem Channel.ofName?_eq_some_iff {name : String} {channel : Channel} :
    ofName? name = some channel ↔ name = channel.name := by
  constructor
  · intro known
    exact (eq_of_beq (List.find?_some (p := fun c : Channel => c.name == name) known)).symm
  · rintro rfl
    exact ofName?_name channel

namespace Frame

theorem route?_eq_some_iff {frame : Frame} {channel : Channel} {command : Command} :
    frame.route? = some (channel, command) ↔
      ∃ first rest, frame = ⟨channel.name, first :: rest⟩ ∧ Command.Told first command := by
  obtain ⟨event, args⟩ := frame
  constructor
  · intro route
    obtain ⟨channel', known, later⟩ := Option.bind_eq_some_iff.mp route
    obtain ⟨command', read, same⟩ := Option.bind_eq_some_iff.mp later
    cases same
    obtain rfl := Channel.ofName?_eq_some_iff.mp known
    cases args with
    | nil => cases read
    | cons first rest => exact ⟨first, rest, rfl, Command.ofJson?_eq_some_iff.mp read⟩
  · rintro ⟨first, rest, same, told⟩
    cases same
    have read := Command.ofJson?_eq_some_iff.mpr told
    simp only [route?, Channel.ofName?_name, command?, List.head?_cons, Option.bind_some, read]
    rfl

/-- A text leads to a command on a channel when it asks for it. -/
theorem routeOfText?_eq_some_iff {text : String} {channel : Channel} {command : Command} :
    routeOfText? text = some (channel, command) ↔ Asks (octets text) channel command := by
  constructor
  · intro route
    unfold routeOfText? at route
    split at route
    · rename_i frame read
      obtain ⟨first, rest, rfl, told⟩ := route?_eq_some_iff.mp route
      exact ⟨first, rest, read_iff_spelled.mp read, told⟩
    · cases route
  · rintro ⟨first, rest, spelled, told⟩
    have route : Frame.route? ⟨channel.name, first :: rest⟩ = some (channel, command) :=
      route?_eq_some_iff.mpr ⟨first, rest, rfl, told⟩
    simp only [routeOfText?, read_iff_spelled.mpr spelled, route]

end Frame

theorem Command.Alike.told {v v' : Json} (alike : Command.Alike v v') {command : Command}
    (told : Command.Told v command) : Command.Told v' command := by
  cases alike with
  | same => exact told
  | @object members members' same =>
      cases told with
      | object isMethod =>
          rw [same "params" (by decide), same "id" (by decide)]
          exact .object ((same "method" (by decide)).symm.trans isMethod)

theorem Command.Alike.symm {v v' : Json} (alike : Command.Alike v v') : Command.Alike v' v := by
  cases alike with
  | same => exact .same v
  | object same => exact .object fun name known => (same name known).symm

theorem Frame.routeOfText?_congr {text text' : String} {event : String} {first first' : Json}
    {rest rest' : List Json} (spelled : Frame.Spelled (octets text) ⟨event, first :: rest⟩)
    (spelled' : Frame.Spelled (octets text') ⟨event, first' :: rest'⟩)
    (alike : Command.Alike first first') :
    Frame.routeOfText? text = Frame.routeOfText? text' := by
  refine Option.ext fun ⟨channel, command⟩ => ?_
  simp only [Frame.routeOfText?, Frame.read_iff_spelled.mpr spelled,
    Frame.read_iff_spelled.mpr spelled']
  rw [Frame.route?_eq_some_iff, Frame.route?_eq_some_iff]
  constructor
  · rintro ⟨_, _, same, told⟩
    cases same
    exact ⟨first', rest', rfl, alike.told told⟩
  · rintro ⟨_, _, same, told⟩
    cases same
    exact ⟨first, rest, rfl, alike.symm.told told⟩

namespace Bridge

theorem dispatch_injective {b : Bridge} {link : Nat} {channel channel' : Channel}
    {command command' : Command}
    (same : b.dispatch link channel command = b.dispatch link channel' command') :
    channel = channel' ∧ command = command' := by
  have tasks := congrArg (fun after => after.1.tasks) same
  simpa [dispatch, addTask] using tasks

theorem dispatch_ne (b : Bridge) (link : Nat) (channel : Channel) (command : Command) :
    b.dispatch link channel command ≠ (b, []) := by
  intro same
  exact List.cons_ne_nil _ _ (congrArg Prod.snd same)

/-- A bridge takes up the commands of its grammar, and nothing else. Of a text that comes in on a
connection that has been greeted, a command is taken up exactly when the text asks for it: its task
is started on the channel, and the backend is called with its method and its parameters. A text that
asks for nothing changes nothing and shows nothing. Arguments behind the first one and members that
no frame and no command has are of no influence. -/
theorem exactly_commands_taken {b : Bridge} {link : Nat} (greeted : b.isGreeted link = true)
    (text : String) :
    (∀ channel command,
      b.step (.receive link (.text text)) =
          (b.addTask (.commanding link channel command),
            [.called b.tasks.length (.invoke channel (channel.context b.version) command.method
              command.params)]) ↔
        Asks (octets text) channel command) ∧
    (b.step (.receive link (.text text)) = (b, []) ↔
      ∀ channel command, ¬ Asks (octets text) channel command) ∧
    ∀ {text' event first first' rest rest'}, Frame.Spelled (octets text) ⟨event, first :: rest⟩ →
      Frame.Spelled (octets text') ⟨event, first' :: rest'⟩ → Command.Alike first first' →
      b.step (.receive link (.text text)) = b.step (.receive link (.text text')) := by
  have takes : ∀ channel command, Frame.routeOfText? text = some (channel, command) →
      b.step (.receive link (.text text)) = b.dispatch link channel command :=
    fun _ _ route => step_receive_of_greeted route greeted
  have drops : Frame.routeOfText? text = none → b.step (.receive link (.text text)) = (b, []) := by
    intro nowhere
    simp only [step, receive, nowhere]
  refine ⟨fun channel command => ?_, ?_, fun spelled spelled' alike => ?_⟩
  · rw [← Frame.routeOfText?_eq_some_iff]
    constructor
    · intro taken
      cases route : Frame.routeOfText? text with
      | none =>
          rw [drops route] at taken
          exact absurd taken.symm (dispatch_ne b link channel command)
      | some target =>
          have same : b.dispatch link target.1 target.2 = b.dispatch link channel command :=
            (takes _ _ route).symm.trans taken
          obtain ⟨rfl, rfl⟩ := dispatch_injective same
          rfl
    · exact takes channel command
  · simp only [← Frame.routeOfText?_eq_some_iff]
    constructor
    · intro dropped channel command route
      rw [takes _ _ route] at dropped
      exact dispatch_ne b link channel command dropped
    · intro nothing
      refine drops (Option.eq_none_iff_forall_ne_some.mpr ?_)
      exact fun target => nothing target.1 target.2
  · simp only [step, receive, Frame.routeOfText?_congr spelled spelled' alike]

/-- A command next to a member that no frame has, a number past all doubles, and a frame with two
events. -/
theorem exactly_commands_taken_next_to :
    ((start "local" "v2" none).run [.connect, .readKey 0, .greet 0]).1.isGreeted 0 = true ∧
      Asks (octets "\x7b\"n\":1e999,\"event\":\"far\",\"args\":[[\"list\"],null]\x7d")
        .far ⟨"list", .null, .null⟩ ∧
      ∀ channel command,
        ¬ Asks (octets "\x7b\"event\":\"far\",\"event\":\"far\",\"args\":[[\"list\"]]\x7d")
          channel command := by
  have greeted : ((start "local" "v2" none).run [.connect, .readKey 0, .greet 0]).1.isGreeted 0 =
    true := rfl
  have asked :
    Frame.routeOfText? "\x7b\"n\":1e999,\"event\":\"far\",\"args\":[[\"list\"],null]\x7d" =
      some (.far, ⟨"list", .null, .null⟩) := by cbv
  have nowhere :
      Frame.routeOfText? "\x7b\"event\":\"far\",\"event\":\"far\",\"args\":[[\"list\"]]\x7d" =
          none := by
    cbv
  refine ⟨greeted, ((exactly_commands_taken greeted _).1 _ _).mp ?_,
    (exactly_commands_taken greeted _).2.1.mp ?_⟩
  · exact step_receive_of_greeted asked greeted
  · simp only [step, receive, nowhere]

end Bridge

end CommandBridge
