import Mathlib
import CommandBridge.Proofs.Tasks

/-! Every command is accounted for. The frame that brings a command starts a task of its own; all
that this task ever does is to call the backend at once and to tell the end of the call on the
connection of the frame. Nothing else calls a method or answers a command. -/
namespace CommandBridge.Bridge

/-- How the call of a task ends among some steps. Of several ends the first counts. -/
def endings (task : Nat) (steps : List Step) : List Outcome :=
  steps.filterMap fun
    | .endCall t outcome => if t = task then some outcome else none
    | _ => none

/-- In a run a text comes in on a greeted connection and spells a command; a new task takes it up,
and `later` is what happens from then on. -/
def TakesUp (b : Bridge) (steps : List Step) (task link : Nat) (channel : Channel)
    (command : Command) (later : List Step) : Prop :=
  ∃ earlier text, steps = earlier ++ .receive link (.text text) :: later ∧
    Frame.routeOfText? text = some (channel, command) ∧ (b.run earlier).1.isGreeted link = true ∧
    task = (b.run earlier).1.tasks.length

theorem endings_cons_of_ne {task : Nat} {s : Step} (other : ∀ outcome, s ≠ .endCall task outcome)
    (rest : List Step) : endings task (s :: rest) = endings task rest := by
  cases s with
  | endCall t outcome =>
      have ne : t ≠ task := fun same => other outcome (same ▸ rfl)
      simp [endings, ne]
  | _ => rfl

theorem endings_cons_self (task : Nat) (outcome : Outcome) (rest : List Step) :
    endings task (.endCall task outcome :: rest) = outcome :: endings task rest := by
  simp [endings]

theorem not_ends_of_endings {task : Nat} {steps : List Step} (none : endings task steps = []) :
    ∀ s ∈ steps, ¬ ∃ outcome, s = .endCall task outcome := by
  rintro s within ⟨outcome, rfl⟩
  have ends : outcome ∈ endings task steps := List.mem_filterMap.mpr ⟨_, within, if_pos rfl⟩
  rw [none] at ends
  cases ends

/-- A pending command stays silent until its call ends, is answered then, and is silent for ever. -/
theorem effectsOf_run_of_commanding {t link : Nat} {channel : Channel} {command : Command}
    (steps : List Step) {b : Bridge}
    (pending : b.tasks[t]? = some (.commanding link channel command)) :
    ∃ delivered, effectsOf t (b.run steps).2 =
      match endings t steps with
      | [] => []
      | outcome :: _ => [.emitted t link (command.settle channel outcome) delivered] := by
  induction steps generalizing b with
  | nil => exact ⟨false, rfl⟩
  | cons s rest ih =>
      by_cases ends : ∃ outcome, s = .endCall t outcome
      · obtain ⟨outcome, rfl⟩ := ends
        have known := (List.getElem?_eq_some_iff.mp pending).1
        have done : (b.setTask t .finished).tasks[t]? = some .finished := by
          rw [setTask_tasks, List.getElem?_set_self known]
        refine ⟨b.isOpen link, ?_⟩
        rw [run_cons, step_endCall_of_commanding pending, effectsOf_append,
          effectsOf_run_of_finished done, endings_cons_self]
        simp [effectsOf, emission, Effect.task]
      · have other : ∀ outcome, s ≠ .endCall t outcome := fun outcome same => ends ⟨outcome, same⟩
        obtain ⟨still, silent⟩ := (step_change b s).of_not_awaits pending ends
        rw [run_cons, effectsOf_append, effectsOf_eq_nil silent, List.nil_append,
          endings_cons_of_ne other]
        exact ih still

theorem step_receive_of_greeted {b : Bridge} {link : Nat} {text : String} {channel : Channel}
    {command : Command} (route : Frame.routeOfText? text = some (channel, command))
    (greeted : b.isGreeted link = true) :
    b.step (.receive link (.text text)) = b.dispatch link channel command := by
  simp only [step, receive, route, greeted, if_true]

theorem TakesUp.effects {b : Bridge} {steps later : List Step} {task link : Nat} {channel : Channel}
    {command : Command} (taken : b.TakesUp steps task link channel command later) :
    ∃ delivered, effectsOf task (b.run steps).2 =
      .called task (.ofCommand b.version channel command) ::
        match endings task later with
        | [] => []
        | outcome :: _ => [.emitted task link (command.settle channel outcome) delivered] := by
  obtain ⟨earlier, text, rfl, route, greeted, rfl⟩ := taken
  generalize same : (b.run earlier).1 = c at *
  have pending : (c.dispatch link channel command).1.tasks[c.tasks.length]? =
      some (.commanding link channel command) := by
    simp [dispatch]
  have before : effectsOf c.tasks.length (b.run earlier).2 = [] :=
    effectsOf_run_of_length_le (Nat.le_of_eq (by rw [same]))
  have version : c.version = b.version := same ▸ run_version b earlier
  obtain ⟨delivered, rest⟩ := effectsOf_run_of_commanding later pending
  refine ⟨delivered, ?_⟩
  rw [run_append, effectsOf_append, before, List.nil_append, same, run_cons,
    step_receive_of_greeted route greeted, effectsOf_append, rest]
  simp [dispatch, effectsOf, Effect.task, version]

theorem length_lt_of_started {b : Bridge} {earlier : List Step} {s : Step} (rest : List Step)
    (starts : ((b.run earlier).1.step s).1.tasks.length = (b.run earlier).1.tasks.length + 1) :
    (b.run earlier).1.tasks.length < (b.run (earlier ++ s :: rest)).1.tasks.length := by
  have grown := run_length_le ((b.run earlier).1.step s).1 rest
  simp only [run_append, run_cons]
  omega

theorem step_receive_length {b : Bridge} {link : Nat} {text : String} {channel : Channel}
    {command : Command} (route : Frame.routeOfText? text = some (channel, command))
    (greeted : b.isGreeted link = true) :
    (b.step (.receive link (.text text))).1.tasks.length = b.tasks.length + 1 := by
  rw [step_receive_of_greeted route greeted]
  simp [dispatch]

theorem started_unique {b : Bridge} {earlier earlier' later later' : List Step} {s s' : Step}
    (same : earlier ++ s :: later = earlier' ++ s' :: later')
    (starts : ((b.run earlier).1.step s).1.tasks.length = (b.run earlier).1.tasks.length + 1)
    (starts' : ((b.run earlier').1.step s').1.tasks.length = (b.run earlier').1.tasks.length + 1)
    (task : (b.run earlier).1.tasks.length = (b.run earlier').1.tasks.length) :
    earlier = earlier' ∧ s = s' ∧ later = later' := by
  -- If one of the two steps came behind the other, its task would have a higher number.
  rcases List.append_eq_append_iff.mp same with ⟨between, rfl, rest⟩ | ⟨between, rfl, rest⟩
  · cases between with
    | nil =>
        cases rest
        exact ⟨(List.append_nil _).symm, rfl, rfl⟩
    | cons first between =>
        cases rest
        have longer := length_lt_of_started between starts
        omega
  · cases between with
    | nil =>
        cases rest
        exact ⟨List.append_nil _, rfl, rfl⟩
    | cons first between =>
        cases rest
        have longer := length_lt_of_started between starts'
        omega

theorem TakesUp.unique {b : Bridge} {steps later later' : List Step} {task link link' : Nat}
    {channel channel' : Channel} {command command' : Command}
    (taken : b.TakesUp steps task link channel command later)
    (taken' : b.TakesUp steps task link' channel' command' later') :
    link = link' ∧ channel = channel' ∧ command = command' ∧ later = later' := by
  obtain ⟨earlier, text, rfl, route, greeted, rfl⟩ := taken
  obtain ⟨earlier', text', same, route', greeted', number⟩ := taken'
  obtain ⟨-, step, rest⟩ := started_unique same (step_receive_length route greeted)
    (step_receive_length route' greeted') number
  cases step
  rw [route] at route'
  cases route'
  exact ⟨rfl, rfl, rfl, rest⟩

/-- Every pending command of a run that started with no tasks was taken up in the run. -/
theorem exists_takesUp_of_commanding {b : Bridge} (start : b.tasks = []) {steps : List Step}
    {t link : Nat} {channel : Channel} {command : Command}
    (pending : (b.run steps).1.tasks[t]? = some (.commanding link channel command)) :
    ∃ later, b.TakesUp steps t link channel command later := by
  have old : b.tasks[t]? ≠ some (.commanding link channel command) := by simp [start]
  obtain ⟨earlier, s, later, rfl, before, after⟩ := exists_step_of_became
    (P := fun c => c.tasks[t]? = some (.commanding link channel command)) old pending
  obtain ⟨last, greeted, text, rfl, route⟩ := (step_change _ s).commanding_new after before
  exact ⟨later, earlier, text, rfl, route, greeted, last⟩

theorem TakesUp.append {b : Bridge} {steps later : List Step} {task link : Nat} {channel : Channel}
    {command : Command} (taken : b.TakesUp steps task link channel command later)
    (more : List Step) :
    b.TakesUp (steps ++ more) task link channel command (later ++ more) := by
  obtain ⟨earlier, text, rfl, rest⟩ := taken
  exact ⟨earlier, text, by simp, rest⟩

theorem Change.called_invoke {b b' : Bridge} {s : Step} {seen : List Effect}
    (change : Change b s b' seen) {t : Nat} {channel : Channel} {context method : String}
    {params : Json} (made : .called t (.invoke channel context method params) ∈ seen) :
    t = b.tasks.length ∧ ∃ link text command, s = .receive link (.text text) ∧
      Frame.routeOfText? text = some (channel, command) ∧ b.isGreeted link = true := by
  cases change.brings made with
  | invoked route greeted => exact ⟨rfl, _, _, _, rfl, route, greeted⟩

theorem exists_takesUp_of_invoke {b : Bridge} {steps : List Step} {task : Nat} {channel : Channel}
    {context method : String} {params : Json}
    (called : .called task (.invoke channel context method params) ∈ (b.run steps).2) :
    ∃ link command later, b.TakesUp steps task link channel command later := by
  obtain ⟨earlier, s, later, rfl, made⟩ := exists_step_of_mem_run called
  obtain ⟨last, link, text, command, rfl, route, greeted⟩ := (step_change _ s).called_invoke made
  exact ⟨link, command, later, earlier, text, rfl, route, greeted, last⟩

theorem exists_takesUp_of_exec {b : Bridge} (start : b.tasks = []) {steps : List Step}
    {task link : Nat} {error : Option Failure} {answer : Answer} {delivered : Bool}
    (emitted : .emitted task link (.exec error answer) delivered ∈ (b.run steps).2) :
    ∃ channel command later, b.TakesUp steps task link channel command later := by
  obtain ⟨earlier, s, later, rfl, made⟩ := exists_step_of_mem_run emitted
  obtain ⟨channel, command, pending⟩ := (step_change _ s).emitted_exec made
  obtain ⟨behind, taken⟩ := exists_takesUp_of_commanding start pending
  exact ⟨channel, command, _, taken.append _⟩

/-- In every run the task of a command calls the backend once, with the channel, the context, the
method and the arguments of the frame; it answers once on the connection of the frame as soon as the
call has ended and not before, with the method and the identity of the frame; and it does nothing
else. Commands have different tasks, and only tasks of commands call methods and answer commands. -/
theorem commands_accounted (name version : String) (keyFile : Option Bytes) (steps : List Step) :
    let b := start name version keyFile
    let seen := (b.run steps).2
    (∀ task link channel command later, b.TakesUp steps task link channel command later →
      ∃ delivered, effectsOf task seen =
        .called task (.invoke channel (if channel = .gateway then "apikey" else version)
          command.method command.params) ::
        match endings task later with
        | [] => []
        | outcome :: _ => [.emitted task link (command.settle channel outcome) delivered]) ∧
    (∀ command channel outcome, ∃ error params,
      Command.settle command channel outcome = .exec error ⟨command.method, params, command.id⟩) ∧
    (∀ task link link' channel channel' command command' later later',
      b.TakesUp steps task link channel command later →
      b.TakesUp steps task link' channel' command' later' →
      link = link' ∧ channel = channel' ∧ command = command' ∧ later = later') ∧
    (∀ task channel context method params,
      .called task (.invoke channel context method params) ∈ seen →
      ∃ link command later, b.TakesUp steps task link channel command later) ∧
    ∀ task link error answer delivered, .emitted task link (.exec error answer) delivered ∈ seen →
      ∃ channel command later, b.TakesUp steps task link channel command later := by
  intro b seen
  refine ⟨?_, settle_echoes, ?_, ?_, ?_⟩
  · intro task link channel command later taken
    obtain ⟨delivered, all⟩ := taken.effects
    refine ⟨delivered, ?_⟩
    cases channel <;> exact all
  · intro task link link' channel channel' command command' later later' taken taken'
    exact taken.unique taken'
  · intro task channel context method params called
    exact exists_takesUp_of_invoke called
  · intro task link error answer delivered emitted
    exact exists_takesUp_of_exec rfl emitted

/-- A command whose connection has been replaced before its call ends. -/
theorem commands_accounted_replaced :
    let earlier : List Step := [.connect, .readKey 0, .greet 0]
    let later : List Step := [.connect, .readKey 2, .greet 2, .endCall 1 (.failed ⟨.string "gone"⟩)]
    let steps := earlier ++ .receive 0 (.text "[\"far\",[[\"list\",\"p\",\"i\"]]]") :: later
    (start "local" "v2" none).TakesUp steps 1 0 .far ⟨"list", .string "p", .string "i"⟩ later ∧
      ∃ delivered, effectsOf 1 ((start "local" "v2" none).run steps).2 =
        [.called 1 (.invoke .far "v2" "list" (.string "p")),
          .emitted 1 0 (.exec (some ⟨.string "gone"⟩) ⟨"list", .null, .string "i"⟩) delivered] := by
  intro earlier later steps
  have taken : (start "local" "v2" none).TakesUp steps 1 0 .far ⟨"list", .string "p", .string "i"⟩
      later :=
    ⟨earlier, _, rfl, by cbv, rfl, rfl⟩
  exact ⟨taken, (commands_accounted "local" "v2" none steps).1 1 0 .far _ later taken⟩

end CommandBridge.Bridge
