import CommandBridge.Proofs.Change

/-! Runs: how they are put together, where in a run something came about, and which effects belong
to a task. A task that has finished is never heard of again. -/
namespace CommandBridge.Bridge

@[simp] theorem run_nil (b : Bridge) : b.run [] = (b, []) := rfl

@[simp] theorem run_cons (b : Bridge) (s : Step) (rest : List Step) :
    b.run (s :: rest) = (((b.step s).1.run rest).1, (b.step s).2 ++ ((b.step s).1.run rest).2) :=
      rfl

theorem run_append (b : Bridge) (earlier later : List Step) :
    b.run (earlier ++ later) =
      (((b.run earlier).1.run later).1, (b.run earlier).2 ++ ((b.run earlier).1.run later).2) := by
  induction earlier generalizing b with
  | nil => simp
  | cons s rest ih => simp [ih]

theorem run_concat (b : Bridge) (steps : List Step) (s : Step) :
    b.run (steps ++ [s]) =
      (((b.run steps).1.step s).1, (b.run steps).2 ++ ((b.run steps).1.step s).2) := by
  simp [run_append]

theorem exists_step_of_mem_run {b : Bridge} {steps : List Step} {e : Effect}
    (h : e ∈ (b.run steps).2) :
    ∃ earlier s later, steps = earlier ++ s :: later ∧ e ∈ ((b.run earlier).1.step s).2 := by
  induction steps generalizing b with
  | nil => simp at h
  | cons s rest ih =>
      rw [run_cons] at h
      rcases List.mem_append.mp h with now | behind
      · exact ⟨[], s, rest, rfl, now⟩
      · obtain ⟨earlier, s', later, rfl, made⟩ := ih behind
        exact ⟨s :: earlier, s', later, rfl, by simpa using made⟩

/-- What holds at the end of a run and not at its start became true in one of its steps. -/
theorem exists_step_of_became {P : Bridge → Prop} {b : Bridge} {steps : List Step} (start : ¬ P b)
    (final : P (b.run steps).1) :
    ∃ earlier s later, steps = earlier ++ s :: later ∧ ¬ P (b.run earlier).1 ∧
      P ((b.run earlier).1.step s).1 := by
  induction steps generalizing b with
  | nil => exact absurd final start
  | cons s rest ih =>
      by_cases now : P (b.step s).1
      · exact ⟨[], s, rest, rfl, start, now⟩
      · obtain ⟨earlier, s', later, rfl, before, after⟩ := ih now final
        exact ⟨s :: earlier, s', later, rfl, by simpa using before, by simpa using after⟩

theorem run_induction {P : Bridge → Prop} (keeps : ∀ b s, P b → P (b.step s).1) {b : Bridge}
    (start : P b) (steps : List Step) : P (b.run steps).1 := by
  induction steps generalizing b with
  | nil => exact start
  | cons s rest ih => exact ih (keeps b s start)

section Change
variable {b b' : Bridge} {s : Step} {seen : List Effect}

theorem Change.name_eq (change : Change b s b' seen) : b'.name = b.name := by
  cases change <;> rfl

theorem Change.version_eq (change : Change b s b' seen) : b'.version = b.version := by
  cases change <;> rfl

/-- A step leaves the tasks alone, goes on with one of them, or starts one. -/
theorem Change.tasks_cases (change : Change b s b' seen) :
    b'.tasks = b.tasks ∨
      (∃ t next, s.task? = some t ∧ t < b.tasks.length ∧ b'.tasks = b.tasks.set t next) ∨
      ∃ next, s.task? = none ∧ b'.tasks = b.tasks ++ [next] := by
  cases change with
  | idle => exact .inl rfl
  | closed ends greeted => exact .inl rfl
  | connected | takenUp | uploadTaken | keyTaken | keyRefused => exact .inr (.inr ⟨_, rfl, rfl⟩)
  | keyUnsaved s kind task =>
      rcases kind with rfl | rfl <;>
        exact .inr (.inl ⟨_, _, rfl, (List.getElem?_eq_some_iff.mp task).1, rfl⟩)
  | keyRead task | greeted task | settled _ task | uploadKept task | uploadBroken task
  | activeRead task | reported task | keySaved task | fileEmptied task | fileFilled task
  | fileSpoilt _ task | keyAdopted task =>
      exact .inr (.inl ⟨_, _, rfl, (List.getElem?_eq_some_iff.mp task).1, rfl⟩)

theorem Change.length_le (change : Change b s b' seen) : b.tasks.length ≤ b'.tasks.length := by
  rcases change.tasks_cases with same | ⟨t, next, -, -, set⟩ | ⟨next, -, added⟩
  · exact Nat.le_of_eq (congrArg List.length same.symm)
  · exact Nat.le_of_eq (by rw [set, List.length_set])
  · rw [added, List.length_append]
    omega

/-- A step that goes on with another task leaves this one as it is. -/
theorem Change.getElem?_tasks (change : Change b s b' seen) {t : Nat} (other : s.task? ≠ some t)
    (known : t < b.tasks.length) : b'.tasks[t]? = b.tasks[t]? := by
  rcases change.tasks_cases with same | ⟨t', next, about, -, set⟩ | ⟨next, -, added⟩
  · rw [same]
  · rw [set, List.getElem?_set_ne]
    intro same
    exact other (same ▸ about)
  · rw [added, List.getElem?_append_left known]

/-- An effect belongs to the task that the step goes on with, or to the one that it starts. -/
theorem Change.effect_task (change : Change b s b' seen) {e : Effect} (made : e ∈ seen) :
    (s.task? = some e.task ∧ e.task < b.tasks.length) ∨
      (e.task = b.tasks.length ∧ b'.tasks.length = b.tasks.length + 1) := by
  cases change with
  | idle | connected | keyRead | closed | uploadKept | uploadBroken | activeRead | keyTaken
  | keySaved | fileEmptied | fileFilled => cases made
  | takenUp | uploadTaken | keyRefused =>
      cases List.mem_singleton.mp made
      exact .inr ⟨rfl, by simp⟩
  | greeted task | settled _ task | fileSpoilt _ task | keyAdopted task =>
      cases List.mem_singleton.mp made
      exact .inl ⟨rfl, (List.getElem?_eq_some_iff.mp task).1⟩
  | keyUnsaved s kind task =>
      cases List.mem_singleton.mp made
      rcases kind with rfl | rfl <;> exact .inl ⟨rfl, (List.getElem?_eq_some_iff.mp task).1⟩
  | reported task =>
      have known := (List.getElem?_eq_some_iff.mp task).1
      rcases mem_reported made with ⟨link, -, rfl⟩ | rfl
      · exact .inl ⟨rfl, known⟩
      · exact .inl ⟨rfl, known⟩

theorem Change.effect_task_lt (change : Change b s b' seen) {e : Effect} (made : e ∈ seen) :
    e.task < b'.tasks.length := by
  have grown := change.length_le
  rcases change.effect_task made with ⟨-, known⟩ | ⟨new, longer⟩ <;> omega

/-- A step that goes on with a task is awaited by the task or changes nothing. -/
theorem Change.awaits (change : Change b s b' seen) {t : Nat} (about : s.task? = some t) :
    (b' = b ∧ seen = []) ∨ ∃ task, b.tasks[t]? = some task ∧ task.Awaits t s := by
  cases change with
  | idle => exact .inl ⟨rfl, rfl⟩
  | closed ends => cases (task?_of_endsLink ends).symm.trans about
  | connected | takenUp | uploadTaken | keyTaken | keyRefused => cases about
  | keyRead held | greeted held | activeRead held | reported held | keyAdopted held =>
      cases about
      exact .inr ⟨_, held, rfl⟩
  | settled _ held | uploadKept held | uploadBroken held | fileFilled held | fileSpoilt _ held =>
      cases about
      exact .inr ⟨_, held, _, rfl⟩
  | keySaved held =>
      cases about
      exact .inr ⟨_, held, _, .inl rfl⟩
  | fileEmptied held =>
      cases about
      exact .inr ⟨_, held, _, .inr rfl⟩
  | keyUnsaved s kind held =>
      rcases kind with rfl | rfl
      · cases about
        exact .inr ⟨_, held, _, .inl rfl⟩
      · cases about
        exact .inr ⟨_, held, _, .inr rfl⟩

/-- A step that a task does not wait for leaves the task as it is and has no effect of it. -/
theorem Change.of_not_awaits (change : Change b s b' seen) {t : Nat} {task : Task}
    (known : b.tasks[t]? = some task) (idle : ¬ task.Awaits t s) :
    b'.tasks[t]? = some task ∧ ∀ e ∈ seen, e.task ≠ t := by
  have lt := (List.getElem?_eq_some_iff.mp known).1
  by_cases about : s.task? = some t
  · rcases change.awaits about with ⟨rfl, rfl⟩ | ⟨task', held, awaits⟩
    · exact ⟨known, fun e made => by cases made⟩
    · cases known.symm.trans held
      exact absurd awaits idle
  · refine ⟨(change.getElem?_tasks about lt).trans known, ?_⟩
    intro e made same
    rcases change.effect_task made with ⟨belongs, -⟩ | ⟨new, -⟩
    · exact about (same ▸ belongs)
    · omega

end Change

theorem run_name (b : Bridge) (steps : List Step) : (b.run steps).1.name = b.name :=
  run_induction (P := fun c => c.name = b.name)
    (fun c s same => (step_change c s).name_eq.trans same) rfl steps

theorem run_version (b : Bridge) (steps : List Step) : (b.run steps).1.version = b.version :=
  run_induction (P := fun c => c.version = b.version)
    (fun c s same => (step_change c s).version_eq.trans same) rfl steps

theorem run_length_le (b : Bridge) (steps : List Step) :
    b.tasks.length ≤ (b.run steps).1.tasks.length :=
  run_induction (P := fun c => b.tasks.length ≤ c.tasks.length)
    (fun c s known => Nat.le_trans known (step_change c s).length_le) (Nat.le_refl _) steps

theorem task_lt_of_mem_run {b : Bridge} {steps : List Step} {e : Effect} (h : e ∈ (b.run steps).2) :
    e.task < (b.run steps).1.tasks.length := by
  induction steps generalizing b with
  | nil => simp at h
  | cons s rest ih =>
      rw [run_cons] at h
      rcases List.mem_append.mp h with now | later
      · exact Nat.lt_of_lt_of_le ((step_change b s).effect_task_lt now) (run_length_le _ rest)
      · exact ih later

def effectsOf (task : Nat) (seen : List Effect) : List Effect := seen.filter fun e => e.task == task

@[simp] theorem effectsOf_append (task : Nat) (seen later : List Effect) :
    effectsOf task (seen ++ later) = effectsOf task seen ++ effectsOf task later :=
  List.filter_append ..

theorem effectsOf_eq_nil {task : Nat} {seen : List Effect} (none : ∀ e ∈ seen, e.task ≠ task) :
    effectsOf task seen = [] :=
  List.filter_eq_nil_iff.mpr fun e made => by simpa using none e made

theorem effectsOf_eq_self {task : Nat} {seen : List Effect} (own : ∀ e ∈ seen, e.task = task) :
    effectsOf task seen = seen :=
  List.filter_eq_self.mpr fun e made => by simpa using own e made

/-- A task that has not come up has no effects yet. -/
theorem effectsOf_run_of_length_le {b : Bridge} {steps : List Step} {t : Nat}
    (new : (b.run steps).1.tasks.length ≤ t) : effectsOf t (b.run steps).2 = [] :=
  effectsOf_eq_nil fun _ made same => by
    have known := task_lt_of_mem_run made
    omega

/-- A task stays as it is, and silent, until a step comes that it waits for. -/
theorem run_of_not_awaits {b : Bridge} {t : Nat} {task : Task} (held : b.tasks[t]? = some task)
    {steps : List Step} (idle : ∀ s ∈ steps, ¬ task.Awaits t s) :
    (b.run steps).1.tasks[t]? = some task ∧ effectsOf t (b.run steps).2 = [] := by
  induction steps generalizing b with
  | nil => exact ⟨held, rfl⟩
  | cons s rest ih =>
      obtain ⟨still, silent⟩ := (step_change b s).of_not_awaits held (idle s List.mem_cons_self)
      obtain ⟨kept, none⟩ := ih still fun s' within => idle s' (List.mem_cons_of_mem s within)
      refine ⟨kept, ?_⟩
      rw [run_cons, effectsOf_append, effectsOf_eq_nil silent, none, List.nil_append]

theorem effectsOf_run_of_finished {b : Bridge} {t : Nat} (done : b.tasks[t]? = some .finished)
    (steps : List Step) : effectsOf t (b.run steps).2 = [] :=
  (run_of_not_awaits done fun _ _ => id).2

end CommandBridge.Bridge
