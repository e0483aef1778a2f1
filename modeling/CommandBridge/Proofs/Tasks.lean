import CommandBridge.Proofs.Run

/-! Tasks in a run: what can be read off them from one step to the next, how a task comes to wait
for something, and what is seen of it by then. -/
namespace CommandBridge.Bridge

/-- What a reading of tasks tells of the task with a number. -/
def told {α : Type} (reads : Task → Option α) (b : Bridge) (t : Nat) : Option α :=
  b.tasks[t]?.bind reads

section Told
variable {α : Type} {reads : Task → Option α} {b b' : Bridge} {t : Nat} {task next : Task}
  {x? : Option α}

theorem told_of_some (held : b.tasks[t]? = some task) (read : reads task = x?) :
    b.told reads t = x? := by
  rw [told, held, Option.bind_some, read]

theorem told_of_set (held : b.tasks[t]? = some task) (set : b'.tasks = b.tasks.set t next)
    (read : reads next = x?) : b'.told reads t = x? := by
  have known := (List.getElem?_eq_some_iff.mp held).1
  exact told_of_some (by rw [set, List.getElem?_set_self known]) read

theorem told_of_set_ne (set : b'.tasks = b.tasks.set t next) (u : Nat) (other : u ≠ t) :
    b'.told reads u = b.told reads u := by
  rw [told, set, List.getElem?_set_ne (Ne.symm other), told]

theorem told_of_same (held : b.tasks[t]? = some task) (set : b'.tasks = b.tasks.set t next)
    (same : reads next = reads task) (u : Nat) : b'.told reads u = b.told reads u := by
  by_cases this : u = t
  · subst this
    rw [told_of_set held set same, told_of_some held rfl]
  · exact told_of_set_ne set u this

theorem told_of_set_some {x : α} {u : Nat} (read : b'.told reads u = some x)
    (held : b.tasks[t]? = some task) (set : b'.tasks = b.tasks.set t next)
    (keeps : reads next = some x → reads task = some x) :
    b.told reads u = some x := by
  by_cases this : u = t
  · subst this
    rw [told_of_set held set rfl] at read
    exact told_of_some held (keeps read)
  · rwa [told_of_set_ne set u this] at read

theorem told_of_concat (added : b'.tasks = b.tasks ++ [next]) (u : Nat) :
    b'.told reads u = if u = b.tasks.length then reads next else b.told reads u := by
  by_cases known : u < b.tasks.length
  · rw [if_neg (by omega), told, added, List.getElem?_append_left known, told]
  · by_cases last : u = b.tasks.length
    · rw [if_pos last, told, added, last, List.getElem?_concat_length, Option.bind_some]
    · have unknown : b.tasks[u]? = none := List.getElem?_eq_none (by omega)
      have beyond : b'.tasks[u]? = none := by
        rw [added]
        exact List.getElem?_eq_none (by rw [List.length_append, List.length_singleton]; omega)
      rw [if_neg last, told, told, beyond, unknown]

theorem told_of_concat_none (added : b'.tasks = b.tasks ++ [next]) (read : reads next = none)
    (u : Nat) :
    b'.told reads u = b.told reads u := by
  rw [told_of_concat added]
  split
  · rename_i last
    rw [read, last, told, List.getElem?_eq_none (Nat.le_refl _), Option.bind_none]
  · rfl

end Told

theorem getElem?_set_new {tasks : List Task} {i t : Nat} {next task : Task}
    (new : (tasks.set i next)[t]? = some task) (old : tasks[t]? ≠ some task) :
    i = t ∧ next = task := by
  by_cases same : i = t
  · subst same
    have known : i < tasks.length := by
      rw [← List.length_set (i := i) (a := next)]
      exact (List.getElem?_eq_some_iff.mp new).1
    rw [List.getElem?_set_self known] at new
    exact ⟨rfl, Option.some.inj new⟩
  · rw [List.getElem?_set_ne same] at new
    exact absurd new old

theorem getElem?_concat_new {tasks : List Task} {t : Nat} {next task : Task}
    (new : (tasks ++ [next])[t]? = some task) (old : tasks[t]? ≠ some task) :
    t = tasks.length ∧ next = task := by
  by_cases known : t < tasks.length
  · rw [List.getElem?_append_left known] at new
    exact absurd new old
  · have last := (List.getElem?_eq_some_iff.mp new).1
    rw [List.length_append, List.length_singleton] at last
    have same : t = tasks.length := by omega
    subst same
    rw [List.getElem?_concat_length] at new
    exact ⟨rfl, Option.some.inj new⟩

/-- A command becomes pending only when a frame brings it. -/
theorem Change.commanding_new {b b' : Bridge} {s : Step} {seen : List Effect}
    (change : Change b s b' seen) {t link : Nat} {channel : Channel} {command : Command}
    (new : b'.tasks[t]? = some (.commanding link channel command))
    (old : b.tasks[t]? ≠ some (.commanding link channel command)) :
    t = b.tasks.length ∧ b.isGreeted link = true ∧ ∃ text, s = .receive link (.text text) ∧
      Frame.routeOfText? text = some (channel, command) := by
  cases change with
  | idle | closed => exact absurd new old
  | takenUp route greeted =>
      obtain ⟨last, same⟩ := getElem?_concat_new new old
      cases same
      exact ⟨last, greeted, _, rfl, route⟩
  | connected | uploadTaken | keyTaken | keyRefused => cases (getElem?_concat_new new old).2
  | keyRead | greeted | settled | uploadKept | uploadBroken | activeRead | reported | keySaved
  | keyUnsaved | fileEmptied | fileFilled | fileSpoilt | keyAdopted =>
      cases (getElem?_set_new new old).2

theorem Change.reporting_new {b b' : Bridge} {s : Step} {seen : List Effect}
    (change : Change b s b' seen) {t : Nat} {file : String} {result : Except Failure Payload}
    {target : Option Nat} (new : b'.tasks[t]? = some (.reporting file result target))
    (old : b.tasks[t]? ≠ some (.reporting file result target)) :
    s = .readActive t ∧ b.active = target := by
  cases change with
  | idle | closed => exact absurd new old
  | activeRead =>
      obtain ⟨same, next⟩ := getElem?_set_new new old
      cases next
      exact ⟨same ▸ rfl, rfl⟩
  | connected | takenUp | uploadTaken | keyTaken | keyRefused =>
      cases (getElem?_concat_new new old).2
  | keyRead | greeted | settled | uploadKept | uploadBroken | reported | keySaved | keyUnsaved
  | fileEmptied | fileFilled | fileSpoilt | keyAdopted => cases (getElem?_set_new new old).2

/-- Behind some steps a task has something to do, and all that it has done so far is seen. -/
structure Stands (b : Bridge) (steps : List Step) (t : Nat) (task : Task) (seen : List Effect) :
    Prop where
  task : (b.run steps).1.tasks[t]? = some task
  seen : effectsOf t (b.run steps).2 = seen

section Stands
variable {b : Bridge} {earlier later : List Step} {s : Step} {next : Task} {now : List Effect}

/-- A task begins, and then nothing happens that it waits for. -/
theorem Stands.begin (step : (b.run earlier).1.step s = ((b.run earlier).1.addTask next, now))
    (own : ∀ e ∈ now, e.task = (b.run earlier).1.tasks.length)
    (idle : ∀ s ∈ later, ¬ next.Awaits (b.run earlier).1.tasks.length s) :
    b.Stands (earlier ++ s :: later) (b.run earlier).1.tasks.length next now := by
  have held : ((b.run earlier).1.addTask next).tasks[(b.run earlier).1.tasks.length]? =
      some next := by
    rw [addTask_tasks, List.getElem?_concat_length]
  obtain ⟨kept, silent⟩ := run_of_not_awaits held idle
  constructor
  · rw [run_append, run_cons, step]
    exact kept
  · rw [run_append, run_cons, step, effectsOf_append, effectsOf_append, silent,
      effectsOf_run_of_length_le (Nat.le_refl _), effectsOf_eq_self own, List.nil_append,
      List.append_nil]

/-- A task goes on, and then nothing happens that it waits for next. -/
theorem Stands.move {t : Nat} {task : Task} {seen : List Effect}
    (stands : b.Stands earlier t task seen)
    (step : (b.run earlier).1.step s = ((b.run earlier).1.setTask t next, now))
    (own : ∀ e ∈ now, e.task = t) (idle : ∀ s ∈ later, ¬ next.Awaits t s) :
    b.Stands (earlier ++ s :: later) t next (seen ++ now) := by
  have held : ((b.run earlier).1.setTask t next).tasks[t]? = some next := by
    rw [setTask_tasks, List.getElem?_set_self (List.getElem?_eq_some_iff.mp stands.task).1]
  obtain ⟨kept, silent⟩ := run_of_not_awaits held idle
  constructor
  · rw [run_append, run_cons, step]
    exact kept
  · rw [run_append, run_cons, step, effectsOf_append, effectsOf_append, silent, stands.seen,
      effectsOf_eq_self own, List.append_nil]

end Stands

theorem step_endCall_of_commanding {b : Bridge} {t link : Nat} {channel : Channel}
    {command : Command} (pending : b.tasks[t]? = some (.commanding link channel command))
    (outcome : Outcome) :
    b.step (.endCall t outcome) =
      (b.setTask t .finished, [b.emission t link (command.settle channel outcome)]) := by
  simp only [step, endCall, pending]

theorem settle_echoes (command : Command) (channel : Channel) (outcome : Outcome) :
    ∃ error params, command.settle channel outcome =
      .exec error ⟨command.method, params, command.id⟩ := by
  cases outcome <;> exact ⟨_, _, rfl⟩

theorem Change.emitted_exec {b b' : Bridge} {s : Step} {seen : List Effect}
    (change : Change b s b' seen) {t link : Nat} {error : Option Failure} {answer : Answer}
    {delivered : Bool} (made : .emitted t link (.exec error answer) delivered ∈ seen) :
    ∃ channel command, b.tasks[t]? = some (.commanding link channel command) := by
  generalize same : Event.exec error answer = event at made
  cases change.sends made with
  | greeting => cases same
  | settling pending => exact ⟨_, _, pending⟩
  | reporting => cases same

end CommandBridge.Bridge
