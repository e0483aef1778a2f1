import CommandBridge.Proofs.Accounting
import CommandBridge.Proofs.ErrorSlot
import CommandBridge.Proofs.KeyStores

/-! Commands do not influence one another. What a command is answered depends on its channel, on the
command itself and on the end of its call, and the answer is sent in the step in which the call
ends. So whatever else happens, answers come in the order in which calls end, and other orders bring
the same answers. -/
namespace CommandBridge

/-- The name of the task that a call ran as, where it is told. -/
def Outcome.taskName : Outcome → String
  | .aborted task _ => task
  | .done _ | .failed _ => ""

def Outcome.named (task : String) : Outcome → Outcome
  | .aborted _ words => .aborted task words
  | .done result => .done result
  | .failed failure => .failed failure

theorem Outcome.named_taskName (outcome : Outcome) (task : String) :
    (outcome.named task).named outcome.taskName = outcome := by
  cases outcome <;> rfl

/-- The text of an answer with words as its error: all but the words is the same for all words. -/
theorem text_exec_message (answer : Answer) : ∃ front back : List Char, ∀ words : String,
    (Event.exec (some (.message words)) answer).text.toList =
      front ++ (words.toList.flatMap Json.escape ++ back) := by
  refine ⟨Event.answerHead.toList ++ ['"'],
    '"' :: ',' :: ((Answer.record.toJson answer).text ++ [']', '}']), fun words => ?_⟩
  rw [Event.text_exec]
  simp [Event.slot, Failure.message, Json.text, Json.quoted]

theorem ofAbort_eq (words : Option String) : ∃ behind : String, ∀ task : String,
    Failure.ofAbort task words =
      .message ("backend call aborted: " ++ ("task " ++ task ++ behind)) :=
  ⟨_, fun task => by simp only [Failure.ofAbort, String.append_assoc]; rfl⟩

theorem text_settle_named (command : Command) (channel : Channel) (outcome : Outcome) :
    ∃ front back : List Char, ∀ task : String,
      (command.settle channel (outcome.named task)).text.toList =
        front ++ ((outcome.named task).taskName.toList.flatMap Json.escape ++ back) := by
  cases outcome with
  | done result =>
      exact ⟨(command.settle channel (.done result)).text.toList, [], fun task => by
        simp [Outcome.named, Outcome.taskName]⟩
  | failed failure =>
      exact ⟨(command.settle channel (.failed failure)).text.toList, [], fun task => by
        simp [Outcome.named, Outcome.taskName]⟩
  | aborted _ words =>
      obtain ⟨front, back, told⟩ := text_exec_message ⟨command.method,
        (if channel.normalizes then (Payload.scalar .null).decoded.normalize
          else .scalar .null).toJson,
        command.id⟩
      obtain ⟨behind, split⟩ := ofAbort_eq words
      refine ⟨front ++ ("backend call aborted: ".toList ++ "task ".toList).flatMap Json.escape,
        behind.toList.flatMap Json.escape ++ back, fun task => ?_⟩
      have settled : command.settle channel (.aborted task words) =
        .exec (some (Failure.ofAbort task words))
          ⟨command.method, (if channel.normalizes then (Payload.scalar .null).decoded.normalize
            else .scalar .null).toJson, command.id⟩ := rfl
      rw [Outcome.named, settled, split, told]
      simp only [Outcome.taskName, String.toList_append, List.flatMap_append, List.append_assoc]

namespace Bridge

/-- The answers to commands that some effects bring to one connection, each with its task, in
order. -/
def answersOn (link : Nat) (seen : List Effect) : List (Nat × Event) :=
  seen.filterMap fun
    | .emitted task l (.exec error answer) _ =>
        if l = link then some (task, .exec error answer) else none
    | _ => none

/-- What a connection is told when the call of a task ends, if the task is a command of it that is
pending. -/
def ending? (link : Nat) (b : Bridge) (ended : Nat × Outcome) : Option (Nat × Event) :=
  match b.tasks[ended.1]? with
  | some (.commanding l channel command) =>
    if l = link then some (ended.1, command.settle channel ended.2) else none
  | _ => none

def completion? (link : Nat) (b : Bridge) : Step → Option (Nat × Event)
  | .endCall task outcome => b.ending? link (task, outcome)
  | _ => none

def endsOf (tasks : List Nat) (steps : List Step) : List (Nat × Outcome) :=
  steps.filterMap fun
    | .endCall task outcome => if task ∈ tasks then some (task, outcome) else none
    | _ => none

section Ending
variable {b : Bridge} {link t : Nat}

theorem ending?_of_commanding {l : Nat} {channel : Channel} {command : Command}
    (pending : b.tasks[t]? = some (.commanding l channel command)) (outcome : Outcome) :
    b.ending? link (t, outcome) =
      if l = link then some (t, command.settle channel outcome) else none := by
  simp only [ending?, pending]

theorem ending?_eq_none
    (idle : ∀ l channel command, b.tasks[t]? ≠ some (.commanding l channel command))
    (outcome : Outcome) : b.ending? link (t, outcome) = none := by
  unfold ending?
  split
  · exact absurd ‹_› (idle _ _ _)
  · rfl

end Ending

theorem answersOn_append (link : Nat) (seen later : List Effect) :
    answersOn link (seen ++ later) = answersOn link seen ++ answersOn link later :=
  List.filterMap_append ..

theorem answersOn_settle (b : Bridge) (t l link : Nat) (command : Command) (channel : Channel)
    (outcome : Outcome) :
    answersOn link [b.emission t l (command.settle channel outcome)] =
      (if l = link then some (t, command.settle channel outcome) else none).toList := by
  obtain ⟨error, params, settled⟩ := settle_echoes command channel outcome
  rw [settled]
  by_cases same : l = link <;> simp [answersOn, emission, same]

/-- A connection is told of a command in the step that ends its call, and in no other step. -/
theorem Change.answersOn_eq {b b' : Bridge} {s : Step} {seen : List Effect}
    (change : Change b s b' seen) (link : Nat) :
    answersOn link seen = (b.completion? link s).toList := by
  cases change with
  | idle unready =>
      cases s with
      | endCall t outcome =>
          have idle : ∀ l channel command, b.tasks[t]? ≠ some (.commanding l channel command) :=
            fun _ _ _ held => unready t rfl _ held ⟨outcome, rfl⟩
          rw [completion?, ending?_eq_none idle]
          rfl
      | _ => rfl
  | settled outcome held => rw [answersOn_settle, completion?, ending?_of_commanding held]
  | uploadKept held | uploadBroken held =>
      rw [completion?, ending?_eq_none fun _ _ _ other => by cases held.symm.trans other]
      rfl
  | closed ends =>
      cases s with
      | endCall => exact ends.elim
      | _ => rfl
  | reported held =>
      rename_i target
      cases target <;> rfl
  | keyUnsaved s kind => rcases kind with rfl | rfl <;> rfl
  | connected | keyRead | greeted | takenUp | uploadTaken | activeRead | keyTaken | keyRefused
  | keySaved | fileEmptied | fileFilled | fileSpoilt | keyAdopted => rfl

/-- A connection is told of commands in the order in which their calls end, whatever else
happens. -/
theorem run_answersOn (link : Nat) (b : Bridge) (steps : List Step) :
    answersOn link (b.run steps).2 = along (completion? link) b steps := by
  induction steps generalizing b with
  | nil => rfl
  | cons s rest ih =>
      rw [run_cons, answersOn_append, (step_change b s).answersOn_eq, ih]
      rfl

theorem mem_of_mem_endsOf {tasks : List Nat} {steps : List Step} {ended : Nat × Outcome}
    (within : ended ∈ endsOf tasks steps) : ended.1 ∈ tasks := by
  obtain ⟨s, -, ends⟩ := List.mem_filterMap.mp within
  split at ends
  · split at ends
    · cases ends
      assumption
    · cases ends
  · cases ends

theorem endsOf_cons_self {tasks : List Nat} {t : Nat} (among : t ∈ tasks) (outcome : Outcome)
    (rest : List Step) :
    endsOf tasks (.endCall t outcome :: rest) = (t, outcome) :: endsOf tasks rest := by
  simp [endsOf, among]

theorem endsOf_cons_of_ne {tasks : List Nat} {s : Step}
    (other : ∀ t ∈ tasks, ∀ outcome, s ≠ .endCall t outcome) (rest : List Step) :
    endsOf tasks (s :: rest) = endsOf tasks rest := by
  cases s with
  | endCall t outcome =>
      have apart : t ∉ tasks := fun among => other t among outcome rfl
      simp [endsOf, apart]
  | _ => rfl

theorem filter_completion? {tasks : List Nat} {s : Step} (b : Bridge) (link : Nat)
    (other : ∀ t ∈ tasks, ∀ outcome, s ≠ .endCall t outcome) :
    (b.completion? link s).toList.filter (fun told => told.1 ∈ tasks) = [] := by
  refine List.filter_eq_nil_iff.mpr fun told within among => ?_
  cases s with
  | endCall t outcome =>
      have told_eq : told.1 = t := by
        rw [Option.mem_toList, completion?, ending?] at within
        split at within
        · split at within
          · cases within
            rfl
          · cases within
        · cases within
      exact other t (told_eq ▸ of_decide_eq_true among) outcome rfl
  | _ => cases within

theorem tasks_eq_of_ne {b : Bridge} {s : Step} {t link : Nat} {channel : Channel}
    {command : Command} (pending : b.tasks[t]? = some (.commanding link channel command))
    (other : ∀ outcome, s ≠ .endCall t outcome) :
    (b.step s).1.tasks[t]? = some (.commanding link channel command) :=
  ((step_change b s).of_not_awaits pending fun ⟨outcome, same⟩ => other outcome same).1

/-- Of pending commands a connection is told in the order in which their calls end, whatever else
happens in between. -/
theorem filter_run_answersOn (link : Nat) (tasks : List Nat) {steps : List Step} {b : Bridge}
    (once : ((endsOf tasks steps).map Prod.fst).Nodup)
    (pending : ∀ ended ∈ endsOf tasks steps,
      ∃ l channel command, b.tasks[ended.1]? = some (.commanding l channel command)) :
    (answersOn link (b.run steps).2).filter (fun told => told.1 ∈ tasks) =
      (endsOf tasks steps).filterMap (b.ending? link) := by
  induction steps generalizing b with
  | nil => rfl
  | cons s rest ih =>
      rw [run_cons, answersOn_append, (step_change b s).answersOn_eq, List.filter_append]
      -- The commands whose calls end later are still pending behind the step, and tell the same.
      have later : (∀ ended ∈ endsOf tasks rest, ∀ outcome, s ≠ .endCall ended.1 outcome) →
          ((endsOf tasks rest).map Prod.fst).Nodup → (∀ ended ∈ endsOf tasks rest,
            ∃ l channel command, b.tasks[ended.1]? = some (.commanding l channel command)) →
          (answersOn link ((b.step s).1.run rest).2).filter (fun told => told.1 ∈ tasks) =
            (endsOf tasks rest).filterMap (b.ending? link) := by
        intro others once pending
        rw [ih once]
        · refine List.filterMap_congr fun ended within => ?_
          obtain ⟨l, channel, command, held⟩ := pending ended within
          rw [ending?, ending?, held, tasks_eq_of_ne held (others ended within)]
        · intro ended within
          obtain ⟨l, channel, command, held⟩ := pending ended within
          exact ⟨l, channel, command, tasks_eq_of_ne held (others ended within)⟩
      by_cases ends : ∃ t ∈ tasks, ∃ outcome, s = .endCall t outcome
      · obtain ⟨t, among, outcome, rfl⟩ := ends
        rw [endsOf_cons_self among] at once pending ⊢
        obtain ⟨fresh, once⟩ := List.nodup_cons.mp once
        rw [later _ once fun ended within => pending ended (List.mem_cons_of_mem _ within),
          completion?, List.filterMap_cons]
        · obtain ⟨l, channel, command, held⟩ := pending (t, outcome) List.mem_cons_self
          rw [ending?_of_commanding held]
          by_cases same : l = link <;> simp [same, among]
        · rintro ended within outcome' same
          cases same
          exact fresh (List.mem_map.mpr ⟨ended, within, rfl⟩)
      · have other : ∀ t ∈ tasks, ∀ outcome, s ≠ .endCall t outcome :=
          fun t among outcome same => ends ⟨t, among, outcome, same⟩
        rw [endsOf_cons_of_ne other] at once pending ⊢
        rw [filter_completion? b link other, List.nil_append]
        exact later (fun ended within => other ended.1 (mem_of_mem_endsOf within)) once pending

/-- The call of a command that came in with a frame is under way behind some steps. -/
def UnderWay (b : Bridge) (before : List Step) (task link : Nat) (channel : Channel)
    (command : Command) : Prop :=
  ∃ later, b.TakesUp before task link channel command later ∧ endings task later = []

theorem UnderWay.stands {b : Bridge} {before : List Step} {task link : Nat} {channel : Channel}
    {command : Command} (underWay : b.UnderWay before task link channel command) :
    b.Stands before task (.commanding link channel command)
      [.called task (.ofCommand b.version channel command)] := by
  obtain ⟨later, ⟨earlier, text, rfl, route, greeted, rfl⟩, none⟩ := underWay
  rw [← run_version b earlier]
  exact .begin (step_receive_of_greeted route greeted) (List.forall_mem_singleton.mpr rfl)
    (not_ends_of_endings none)

/-- The end of a call is told in its own step, and nothing else is ever told of the command. -/
theorem UnderWay.told {b : Bridge} {before : List Step} {task link : Nat} {channel : Channel}
    {command : Command} (underWay : b.UnderWay before task link channel command) (outcome : Outcome)
    (after : List Step) :
    ((b.run before).1.step (.endCall task outcome)).2 =
        [.emitted task link (command.settle channel outcome) ((b.run before).1.isOpen link)] ∧
      effectsOf task (b.run (before ++ .endCall task outcome :: after)).2 =
        [.called task (.ofCommand b.version channel command),
          .emitted task link (command.settle channel outcome) ((b.run before).1.isOpen link)] := by
  have stood := underWay.stands
  have ends := step_endCall_of_commanding stood.task outcome
  constructor
  · rw [ends]
    rfl
  · exact (stood.move ends (List.forall_mem_singleton.mpr rfl) fun _ _ => id).seen

/-- Two runs from any states in which the call of one command ends alike, but for the name of its
task. Each run tells of it in the step that ends the call, which reaches the connection if that is
still open, and never again; and the texts are the same but for the name of the task. In every run a
connection is told of commands in the order in which their calls end. Where the calls of pending
commands end in one order or another, and with whatever else in between, a connection is told of
them in that order, and of the same. A frame is taken up whatever is pending, and a task goes on
from where it was, whatever has happened since. -/
theorem answers_independent :
    (∀ (b b' : Bridge) (before before' after after' : List Step) (task task' link link' : Nat)
        (channel : Channel) (command : Command) (outcome outcome' : Outcome),
      b.UnderWay before task link channel command →
      b'.UnderWay before' task' link' channel command →
      outcome.named "" = outcome'.named "" →
      let delivered := (b.run before).1.isOpen link
      let delivered' := (b'.run before').1.isOpen link'
      ∃ event event' front back,
        ((b.run before).1.step (.endCall task outcome)).2 = [.emitted task link event delivered] ∧
        ((b'.run before').1.step (.endCall task' outcome')).2 =
          [.emitted task' link' event' delivered'] ∧
        effectsOf task (b.run (before ++ .endCall task outcome :: after)).2 =
          [.called task (.ofCommand b.version channel command),
            .emitted task link event delivered] ∧
        effectsOf task' (b'.run (before' ++ .endCall task' outcome' :: after')).2 =
          [.called task' (.ofCommand b'.version channel command),
            .emitted task' link' event' delivered'] ∧
        event.text.toList = front ++ (outcome.taskName.toList.flatMap Json.escape ++ back) ∧
        event'.text.toList = front ++ (outcome'.taskName.toList.flatMap Json.escape ++ back)) ∧
    (∀ (b : Bridge) (steps : List Step) (link : Nat),
      answersOn link (b.run steps).2 = along (completion? link) b steps) ∧
    (∀ (b : Bridge) (tasks : List Nat) (steps steps' : List Step) (link : Nat),
      ((endsOf tasks steps).map Prod.fst).Nodup →
      (∀ ended ∈ endsOf tasks steps,
        ∃ l channel command, b.tasks[ended.1]? = some (.commanding l channel command)) →
      (endsOf tasks steps').Perm (endsOf tasks steps) →
      (answersOn link (b.run steps').2).filter (fun told => told.1 ∈ tasks) =
          (endsOf tasks steps').filterMap (b.ending? link) ∧
        ((answersOn link (b.run steps').2).filter fun told => told.1 ∈ tasks).Perm
          ((answersOn link (b.run steps).2).filter fun told => told.1 ∈ tasks)) ∧
    (∀ (b : Bridge) (link : Nat) (text : String) (channel : Channel) (command : Command),
      Frame.routeOfText? text = some (channel, command) → b.isGreeted link = true →
      b.step (.receive link (.text text)) = (b.addTask (.commanding link channel command),
        [.called b.tasks.length (.ofCommand b.version channel command)])) ∧
    ∀ (b : Bridge) (t : Nat) (task : Task) (steps : List Step), b.tasks[t]? = some task →
      (∀ s ∈ steps, ¬ task.Awaits t s) → (b.run steps).1.tasks[t]? = some task := by
  refine ⟨?_, fun b steps link => run_answersOn link b steps, ?_, ?_, ?_⟩
  · intro b b' before before' after after' task task' link link' channel command outcome
      outcome' underWay
      underWay' alike delivered delivered'
    obtain ⟨front, back, split⟩ := text_settle_named command channel (outcome.named "")
    obtain ⟨now, all⟩ := underWay.told outcome after
    obtain ⟨now', all'⟩ := underWay'.told outcome' after'
    have text := split outcome.taskName
    have text' := split outcome'.taskName
    rw [outcome.named_taskName] at text
    rw [alike, outcome'.named_taskName] at text'
    exact ⟨_, _, front, back, now, now', all, all', text, text'⟩
  · intro b tasks steps steps' link once pending perm
    have once' : ((endsOf tasks steps').map Prod.fst).Nodup :=
      (perm.map Prod.fst).nodup_iff.mpr once
    have pending' : ∀ ended ∈ endsOf tasks steps',
        ∃ l channel command, b.tasks[ended.1]? = some (.commanding l channel command) :=
      fun ended within => pending ended (perm.mem_iff.mp within)
    have ordered' := filter_run_answersOn link tasks once' pending'
    refine ⟨ordered', ?_⟩
    rw [ordered', filter_run_answersOn link tasks once pending]
    exact perm.filterMap _
  · intro b link text channel command route greeted
    exact step_receive_of_greeted route greeted
  · intro b t task steps held idle
    exact (run_of_not_awaits held idle).1

def listFrame : Step := .receive 0 (.text "[\"far\",[[\"list\",\"p\",\"i\"]]]")

theorem route_listFrame : Frame.routeOfText? "[\"far\",[[\"list\",\"p\",\"i\"]]]" =
    some (.far, ⟨"list", .string "p", .string "i"⟩) := by cbv

def asking (times : Nat) : List Step :=
  [.connect, .readKey 0, .greet 0] ++ List.replicate times listFrame

theorem run_asking (name version : String) (keyFile : Option Bytes) (times : Nat) :
    ((start name version keyFile).run (asking times)).1 =
      { start name version keyFile with
        links := [.greeted]
        active := some 0
        tasks := .finished ::
          List.replicate times (.commanding 0 .far ⟨"list", .string "p", .string "i"⟩) } := by
  induction times with
  | zero => rfl
  | succ times ih =>
      have more : asking (times + 1) = asking times ++ [listFrame] := by
        rw [asking, asking, List.replicate_succ', List.append_assoc]
      have greeted : ((start name version keyFile).run (asking times)).1.isGreeted 0 = true := by
        rw [ih]
        rfl
      rw [more, run_concat, listFrame, step_receive_of_greeted route_listFrame greeted, ih,
        List.replicate_succ']
      rfl

/-- A command whose call breaks off, alone and behind another one; and two commands whose calls end
in one order and in the other. -/
theorem answers_independent_asking :
    let list : Command := ⟨"list", .string "p", .string "i"⟩
    let b := start "local" "v2" none
    let b' := start "remote" "v3" (some [])
    let both := ((start "local" "v2" none).run (asking 2)).1
    let steps : List Step := [.endCall 1 (.failed ⟨.null⟩), .connect, .endCall 2 (.done (.raw "1"))]
    (b.UnderWay (asking 1) 1 0 .far list ∧ b'.UnderWay (asking 2) 2 0 .far list ∧
      ∃ event event' front back,
        ((b.run (asking 1)).1.step (.endCall 1 (.aborted "7" none))).2 = [.emitted 1 0 event true] ∧
        ((b'.run (asking 2)).1.step (.endCall 2 (.aborted "12" none))).2 =
          [.emitted 2 0 event' true] ∧
        event.text.toList = front ++ ("7".toList.flatMap Json.escape ++ back) ∧
        event'.text.toList = front ++ ("12".toList.flatMap Json.escape ++ back)) ∧
    ((answersOn 0 (both.run steps.reverse).2).filter fun told => told.1 ∈ [1, 2]).Perm
      ((answersOn 0 (both.run steps).2).filter fun told => told.1 ∈ [1, 2]) := by
  intro list b b' both steps
  have underWay : b.UnderWay (asking 1) 1 0 .far list :=
    ⟨[], ⟨asking 0, _, rfl, route_listFrame, rfl, rfl⟩, rfl⟩
  have underWay' : b'.UnderWay (asking 2) 2 0 .far list := by
    refine ⟨[], ⟨asking 1, _, rfl, route_listFrame, ?_, ?_⟩, rfl⟩ <;> rw [run_asking] <;> rfl
  have pending : ∀ ended ∈ endsOf [1, 2] steps,
      ∃ l channel command, both.tasks[ended.1]? = some (.commanding l channel command) := by
    intro ended within
    have known := mem_of_mem_endsOf within
    refine ⟨0, .far, list, ?_⟩
    rw [show both = _ from run_asking ..]
    rcases List.mem_cons.mp known with first | second
    · rw [first]
      rfl
    · rw [List.mem_singleton.mp second]
      rfl
  obtain ⟨alike, -, orders, -, -⟩ := answers_independent
  obtain ⟨event, event', front, back, now, now', -, -, text, text'⟩ :=
    alike b b' (asking 1) (asking 2) [] [] 1 2 0 0 .far list (.aborted "7" none)
      (.aborted "12" none)
      underWay underWay' rfl
  have isOpen : (b.run (asking 1)).1.isOpen 0 = true := by rw [run_asking]; rfl
  have isOpen' : (b'.run (asking 2)).1.isOpen 0 = true := by rw [run_asking]; rfl
  rw [isOpen] at now
  rw [isOpen'] at now'
  refine ⟨⟨underWay, underWay', event, event', front, back, now, now', text, text'⟩, ?_⟩
  exact (orders both [1, 2] steps steps.reverse 0 (by decide) pending (List.Perm.swap ..)).2

end Bridge

end CommandBridge
