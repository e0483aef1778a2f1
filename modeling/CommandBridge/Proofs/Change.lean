import CommandBridge.Bridge.Step

/-! What one step can do to a bridge, and what can be seen of it. Every fact about runs rests on the
two lists given here, so a step that is altered alters one case of each. -/
namespace CommandBridge

/-- The task that a step goes on with. Any other step starts a task or is about none. -/
def Step.task? : Step → Option Nat
  | .readKey t | .greet t | .endCall t _ | .readActive t | .report t | .saveKey t _ | .emptyFile t _
  | .fillFile t _ | .adoptKey t => some t
  | .connect | .receive .. | .close _ | .upload .. | .postKey _ => none

def Step.endsLink (link : Nat) : Step → Prop
  | .close l | .receive l .close | .receive l .failure | .receive l .ended => l = link
  | _ => False

def Effect.task : Effect → Nat
  | .called t _ | .emitted t _ _ _ | .answered t _ => t

/-- The steps that a task waits for. A finished task waits for none. -/
def Task.Awaits (t : Nat) : Task → Step → Prop
  | .announced _, s => s = .readKey t
  | .greeting _ _, s => s = .greet t
  | .commanding .., s | .uploading _, s => ∃ outcome, s = .endCall t outcome
  | .uploaded _ _, s => s = .readActive t
  | .reporting .., s => s = .report t
  | .accepted _, s => ∃ succeeds, s = .saveKey t succeeds ∨ s = .emptyFile t succeeds
  | .emptied _, s => ∃ failsBehind, s = .fillFile t failsBehind
  | .saved _, s => s = .adoptKey t
  | .finished, _ => False

def Outcome.result? : Outcome → Option (Except Failure Payload)
  | .done result => some (.ok result)
  | .failed failure => some (.error failure)
  | .aborted _ _ => none

namespace Bridge

@[simp] theorem setTask_tasks (b : Bridge) (task : Nat) (next : Task) :
    (b.setTask task next).tasks = b.tasks.set task next := rfl

@[simp] theorem addTask_tasks (b : Bridge) (next : Task) :
    (b.addTask next).tasks = b.tasks ++ [next] := rfl

def Unready (b : Bridge) (s : Step) : Prop :=
  ∀ t, s.task? = some t → ∀ task, b.tasks[t]? = some task → ¬ task.Awaits t s

theorem task?_of_endsLink {s : Step} {link : Nat} (ends : s.endsLink link) : s.task? = none := by
  cases s with
  | receive | close => rfl
  | _ => exact ends.elim

theorem unready_of_endsLink {b : Bridge} {s : Step} {link : Nat} (ends : s.endsLink link) :
    b.Unready s := by
  intro t about
  cases (task?_of_endsLink ends).symm.trans about

/-- The changes that a step can make, each with what the task or the connection must have been like.
A step that fits none of them changes nothing. -/
inductive Change (b : Bridge) : Step → Bridge → List Effect → Prop
  | idle {s} : b.Unready s → Change b s b []
  | connected : Change b .connect b.connect.1 []
  | keyRead {t link} : b.tasks[t]? = some (.announced link) →
      Change b (.readKey t) (b.setTask t (.greeting link b.liveKey)) []
  | greeted {t link key} : b.tasks[t]? = some (.greeting link key) →
      Change b (.greet t) ((b.setTask t .finished).setLink link .greeted)
        [b.emission t link (.env ⟨b.name, b.version, key⟩)]
  | takenUp {link text channel command} : Frame.routeOfText? text = some (channel, command) →
      b.isGreeted link = true →
      Change b (.receive link (.text text)) (b.addTask (.commanding link channel command))
        [.called b.tasks.length (.ofCommand b.version channel command)]
  | closed {s link} : s.endsLink link → b.isGreeted link = true →
      Change b s (b.setLink link .closed) []
  | settled {t link channel command} (outcome : Outcome) :
      b.tasks[t]? = some (.commanding link channel command) →
      Change b (.endCall t outcome) (b.setTask t .finished)
        [b.emission t link (command.settle channel outcome)]
  | uploadKept {t file outcome result} : b.tasks[t]? = some (.uploading file) →
      outcome.result? = some result →
      Change b (.endCall t outcome) (b.setTask t (.uploaded file result)) []
  | uploadBroken {t file outcome} : b.tasks[t]? = some (.uploading file) → outcome.result? = none →
      Change b (.endCall t outcome) (b.setTask t .finished) []
  | uploadTaken (file : String) (archive : Bytes) :
      Change b (.upload file archive) (b.addTask (.uploading file))
        [.called b.tasks.length (.upload uploadAccount file archive)]
  | activeRead {t file result} : b.tasks[t]? = some (.uploaded file result) →
      Change b (.readActive t) (b.setTask t (.reporting file result b.active)) []
  | reported {t file result target} : b.tasks[t]? = some (.reporting file result target) →
      Change b (.report t) (b.setTask t .finished)
        ((target.map fun link => b.emission t link (.upload (uploadStatus file result))).toList ++
          [.answered t (uploadResponse file result)])
  | keyTaken {request post} : KeyPost.ofRequest request = .ok post →
      Change b (.postKey request) (b.addTask (.accepted post.key)) []
  | keyRefused {request e} : KeyPost.ofRequest request = .error e →
      Change b (.postKey request) (b.addTask .finished)
        [.answered b.tasks.length (ServiceError.invalidRequest e.text).response]
  | keySaved {t key} : b.tasks[t]? = some (.accepted key) →
      Change b (.saveKey t true) { b.setTask t (.saved key) with keyFile := some (octets key) } []
  | keyUnsaved {t key} (s : Step) : s = .saveKey t false ∨ s = .emptyFile t false →
      b.tasks[t]? = some (.accepted key) →
      Change b s (b.setTask t .finished) [.answered t unsavedResponse]
  | fileEmptied {t key} : b.tasks[t]? = some (.accepted key) →
      Change b (.emptyFile t true) { b.setTask t (.emptied key) with keyFile := some [] } []
  | fileFilled {t key} : b.tasks[t]? = some (.emptied key) →
      Change b (.fillFile t none) { b.setTask t (.saved key) with keyFile := some (octets key) } []
  | fileSpoilt {t key} (n : Nat) : b.tasks[t]? = some (.emptied key) →
      Change b (.fillFile t (some n))
        { b.setTask t .finished with keyFile := some ((octets key).take n) }
          [.answered t unsavedResponse]
  | keyAdopted {t key} : b.tasks[t]? = some (.saved key) →
      Change b (.adoptKey t) { b.setTask t .finished with liveKey := some key }
        [.answered t adoptedResponse]

theorem unready {b : Bridge} {s : Step} {t : Nat} (about : s.task? = some t)
    (others : ∀ task, b.tasks[t]? = some task → ¬ task.Awaits t s) : b.Unready s := by
  intro t' about'
  cases about.symm.trans about'
  exact others

theorem receive_change (b : Bridge) (link : Nat) (message : Incoming) :
    Change b (.receive link message) (b.receive link message).1 (b.receive link message).2 := by
  cases message with
  | text content =>
    simp only [receive]
    split
    · rename_i channel command route
      split
      · exact .takenUp route ‹_›
      · exact .idle nofun
    · exact .idle nofun
  | binary => exact .idle nofun
  | ping => exact .idle nofun
  | pong => exact .idle nofun
  | close | failure | ended =>
    simp only [receive, close]
    split
    · exact .closed rfl ‹_›
    · exact .idle nofun

theorem endCall_change (b : Bridge) (t : Nat) (outcome : Outcome) :
    Change b (.endCall t outcome) (b.endCall t outcome).1 (b.endCall t outcome).2 := by
  unfold endCall
  split
  · exact .settled outcome ‹_›
  · cases outcome with
    | done result => exact .uploadKept ‹_› rfl
    | failed failure => exact .uploadKept ‹_› rfl
    | aborted task words => exact .uploadBroken ‹_› rfl
  · exact .idle (unready rfl fun task known awaits => by cases task <;> simp_all [Task.Awaits])

theorem saveKey_change (b : Bridge) (t : Nat) (succeeds : Bool) :
    Change b (.saveKey t succeeds) (b.saveKey t succeeds).1 (b.saveKey t succeeds).2 := by
  unfold saveKey
  split
  · cases succeeds with
    | true => exact .keySaved ‹_›
    | false => exact .keyUnsaved _ (.inl rfl) ‹_›
  · exact .idle (unready rfl fun task known awaits => by cases task <;> simp_all [Task.Awaits])

theorem emptyFile_change (b : Bridge) (t : Nat) (succeeds : Bool) :
    Change b (.emptyFile t succeeds) (b.emptyFile t succeeds).1 (b.emptyFile t succeeds).2 := by
  unfold emptyFile
  split
  · cases succeeds with
    | true => exact .fileEmptied ‹_›
    | false => exact .keyUnsaved _ (.inr rfl) ‹_›
  · exact .idle (unready rfl fun task known awaits => by cases task <;> simp_all [Task.Awaits])

theorem fillFile_change (b : Bridge) (t : Nat) (failsBehind : Option Nat) :
    Change b (.fillFile t failsBehind) (b.fillFile t failsBehind).1
      (b.fillFile t failsBehind).2 := by
  unfold fillFile
  split
  · cases failsBehind with
    | none => exact .fileFilled ‹_›
    | some n => exact .fileSpoilt n ‹_›
  · exact .idle (unready rfl fun task known awaits => by cases task <;> simp_all [Task.Awaits])

theorem step_change (b : Bridge) (s : Step) : Change b s (b.step s).1 (b.step s).2 := by
  cases s with
  | connect => exact .connected
  | readKey t =>
    simp only [step, readKey]
    split
    · exact .keyRead ‹_›
    · exact .idle (unready rfl fun task known awaits => by cases task <;> simp_all [Task.Awaits])
  | greet t =>
    simp only [step, greet]
    split
    · exact .greeted ‹_›
    · exact .idle (unready rfl fun task known awaits => by cases task <;> simp_all [Task.Awaits])
  | receive link message => exact receive_change b link message
  | endCall t outcome => exact endCall_change b t outcome
  | close link =>
    simp only [step, close]
    split
    · exact .closed rfl ‹_›
    · exact .idle nofun
  | upload file archive => exact .uploadTaken file archive
  | readActive t =>
    simp only [step, readActive]
    split
    · exact .activeRead ‹_›
    · exact .idle (unready rfl fun task known awaits => by cases task <;> simp_all [Task.Awaits])
  | report t =>
    simp only [step, report]
    split
    · exact .reported ‹_›
    · exact .idle (unready rfl fun task known awaits => by cases task <;> simp_all [Task.Awaits])
  | postKey request =>
    simp only [step, postKey]
    split
    · exact .keyTaken ‹_›
    · exact .keyRefused ‹_›
  | saveKey t succeeds => exact saveKey_change b t succeeds
  | emptyFile t succeeds => exact emptyFile_change b t succeeds
  | fillFile t failsBehind => exact fillFile_change b t failsBehind
  | adoptKey t =>
    simp only [step, adoptKey]
    split
    · exact .keyAdopted ‹_›
    · exact .idle (unready rfl fun task known awaits => by cases task <;> simp_all [Task.Awaits])

/-! ### Effects -/

theorem mem_reported {b : Bridge} {t : Nat} {target : Option Nat} {event : Event}
    {response : Http.Response} {e : Effect}
    (made : e ∈ (target.map fun link => b.emission t link event).toList ++ [.answered t response]) :
    (∃ link, target = some link ∧ e = b.emission t link event) ∨ e = .answered t response := by
  cases target with
  | none => exact .inr (List.mem_singleton.mp made)
  | some link =>
      rcases List.mem_cons.mp made with emitted | answered
      · exact .inl ⟨link, rfl, emitted⟩
      · exact .inr (List.mem_singleton.mp answered)

/-- What a task must have been like to send an event to a connection. -/
inductive Sends (b : Bridge) (s : Step) (t link : Nat) : Event → Prop
  | greeting {key} : s = .greet t → b.tasks[t]? = some (.greeting link key) →
      Sends b s t link (.env ⟨b.name, b.version, key⟩)
  | settling {channel command outcome} : b.tasks[t]? = some (.commanding link channel command) →
      Sends b s t link (command.settle channel outcome)
  | reporting {file result} : s = .report t →
      b.tasks[t]? = some (.reporting file result (some link)) →
      Sends b s t link (.upload (uploadStatus file result))

/-- The effects that a step can have. -/
inductive Brings (b : Bridge) : Step → Effect → Prop
  | invoked {link text channel command} : Frame.routeOfText? text = some (channel, command) →
      b.isGreeted link = true →
      Brings b (.receive link (.text text))
        (.called b.tasks.length (.ofCommand b.version channel command))
  | uploaded (file : String) (archive : Bytes) :
      Brings b (.upload file archive) (.called b.tasks.length (.upload uploadAccount file archive))
  | sent {s t link event} : b.Sends s t link event → Brings b s (b.emission t link event)
  | answered {s t response} : Brings b s (.answered t response)

section Effects
variable {b b' : Bridge} {s : Step} {seen : List Effect} {t link : Nat} {event : Event}
  {delivered : Bool}

theorem Change.brings (change : Change b s b' seen) {e : Effect} (made : e ∈ seen) :
    b.Brings s e := by
  cases change with
  | idle | connected | keyRead | closed | uploadKept | uploadBroken | activeRead | keyTaken
  | keySaved | fileEmptied | fileFilled => cases made
  | takenUp route greeted =>
      cases List.mem_singleton.mp made
      exact .invoked route greeted
  | uploadTaken file archive =>
      cases List.mem_singleton.mp made
      exact .uploaded file archive
  | greeted task =>
      cases List.mem_singleton.mp made
      exact .sent (.greeting rfl task)
  | settled outcome task =>
      cases List.mem_singleton.mp made
      exact .sent (.settling task)
  | reported task =>
      rcases mem_reported made with ⟨link, rfl, rfl⟩ | rfl
      · exact .sent (.reporting rfl task)
      · exact .answered
  | keyRefused | keyUnsaved | fileSpoilt | keyAdopted =>
      cases List.mem_singleton.mp made
      exact .answered

theorem Change.sends (change : Change b s b' seen) (made : .emitted t link event delivered ∈ seen) :
    b.Sends s t link event := by
  cases change.brings made with
  | sent sends => exact sends

/-- An event is said to be delivered just where its connection is open. -/
theorem Change.emitted_delivered (change : Change b s b' seen)
    (made : .emitted t link event delivered ∈ seen) : delivered = b.isOpen link := by
  cases change.brings made with
  | sent => rfl

end Effects

end Bridge

end CommandBridge
