import CommandBridge.Proofs.Tasks

/-! What comes first on a connection. A connection is active before its announcement is sent, so an
upload that ends in between may report there first. Nothing else can, and no announcement is sent
twice. -/
namespace CommandBridge

def Task.greets? : Task → Option Nat
  | .announced link | .greeting link _ => some link
  | _ => none

namespace Bridge

def eventsOn (link : Nat) (seen : List Effect) : List (Nat × Event) :=
  seen.filterMap fun
    | .emitted task l event _ => if l = link then some (task, event) else none
    | _ => none

/-- An upload finds a connection active that has not been greeted yet. -/
def ReadEarly (b : Bridge) (steps : List Step) (link task : Nat) : Prop :=
  ∃ earlier later, steps = earlier ++ .readActive task :: later ∧
    (b.run earlier).1.active = some link ∧
    (b.run earlier).1.isGreeted link = false

/-- A connection that some task has yet to greet is opening and waits for that task alone, and
commands come from greeted connections only. -/
structure Attended (b : Bridge) : Prop where
  opening : ∀ t link, b.told Task.greets? t = some link → b.links[link]? = some .opening
  alone : ∀ t u link, b.told Task.greets? t = some link → b.told Task.greets? u = some link → t = u
  greeted : ∀ (t link : Nat) (channel : Channel) (command : Command),
    b.tasks[t]? = some (.commanding link channel command) → b.isGreeted link = true

/-- What a step does to the connections and to the tasks that greet them. -/
inductive LinksMove (b b' : Bridge) : Prop
  | same : (∀ u, b'.told Task.greets? u = b.told Task.greets? u) → b'.links = b.links →
      LinksMove b b'
  | opened : (∀ u, b'.told Task.greets? u =
        if u = b.tasks.length then some b.links.length else b.told Task.greets? u) →
      b'.links = b.links ++ [.opening] → LinksMove b b'
  | greeted {t link} : b.told Task.greets? t = some link → b'.told Task.greets? t = none →
      (∀ u, u ≠ t → b'.told Task.greets? u = b.told Task.greets? u) →
      b'.links = b.links.set link .greeted → LinksMove b b'
  | closed {link} : b.isGreeted link = true →
      (∀ u, b'.told Task.greets? u = b.told Task.greets? u) →
      b'.links = b.links.set link .closed → LinksMove b b'

theorem Change.linksMove {b b' : Bridge} {s : Step} {seen : List Effect}
    (change : Change b s b' seen) :
    LinksMove b b' := by
  cases change with
  | idle => exact .same (fun _ => rfl) rfl
  | connected =>
      have started : b.connect.1.tasks = b.tasks ++ [.announced b.links.length] := rfl
      exact .opened (told_of_concat started) rfl
  | greeted held =>
      exact .greeted (told_of_some held rfl) (told_of_set held rfl rfl) (told_of_set_ne rfl) rfl
  | closed ends greeted => exact .closed greeted (fun _ => rfl) rfl
  | takenUp | uploadTaken | keyTaken | keyRefused => exact .same (told_of_concat_none rfl rfl) rfl
  | keyRead held | settled _ held | uploadKept held | uploadBroken held | activeRead held
  | reported held | keySaved held | keyUnsaved _ _ held | fileEmptied held | fileFilled held
  | fileSpoilt _ held | keyAdopted held => exact .same (told_of_same held rfl rfl) rfl

section Links
variable {b b' : Bridge} {link l : Nat} {state : LinkState}

theorem isGreeted_eq_false (opening : b.links[link]? = some .opening) :
    b.isGreeted link = false := by
  simp [isGreeted, List.getD_eq_getElem?_getD, opening]

theorem isGreeted_of_set (known : link < b.links.length) (later : state ≠ .opening)
    (set : b'.links = b.links.set link state) : b'.isGreeted link = true := by
  simp [isGreeted, List.getD_eq_getElem?_getD, set, List.getElem?_set_self known, later]

theorem isGreeted_of_set_ne (other : l ≠ link) (set : b'.links = b.links.set l state) :
    b'.isGreeted link = b.isGreeted link := by
  simp [isGreeted, List.getD_eq_getElem?_getD, set, List.getElem?_set_ne other]

theorem lt_of_isGreeted (greeted : b.isGreeted link = true) : link < b.links.length := by
  refine Nat.lt_of_not_le fun unknown => ?_
  simp [isGreeted, List.getD_eq_getElem?_getD, List.getElem?_eq_none unknown] at greeted

/-- A greeted connection is never opening again. -/
theorem LinksMove.isGreeted (move : LinksMove b b') (greeted : b.isGreeted link = true) :
    b'.isGreeted link = true := by
  have known := lt_of_isGreeted greeted
  cases move with
  | same told links => simpa only [Bridge.isGreeted, links] using greeted
  | opened told links =>
      simpa only [Bridge.isGreeted, links, List.getD_eq_getElem?_getD,
        List.getElem?_append_left known]
        using greeted
  | @greeted t l _ _ _ links =>
      by_cases other : l = link
      · subst other
        exact isGreeted_of_set known (by decide) links
      · rw [isGreeted_of_set_ne other links, greeted]
  | @closed l _ _ links =>
      by_cases other : l = link
      · subst other
        exact isGreeted_of_set known (by decide) links
      · rw [isGreeted_of_set_ne other links, greeted]

end Links

theorem run_isGreeted {b : Bridge} {link : Nat} (greeted : b.isGreeted link = true)
    (steps : List Step) : (b.run steps).1.isGreeted link = true :=
  run_induction (P := fun c => c.isGreeted link = true)
    (fun c s before => (step_change c s).linksMove.isGreeted before) greeted steps

section Attended
variable {b b' : Bridge}

theorem Attended.opening_step (attended : b.Attended) (move : LinksMove b b') (t link : Nat)
    (waits : b'.told Task.greets? t = some link) : b'.links[link]? = some .opening := by
  cases move with
  | same told links =>
      rw [links]
      exact attended.opening t link (told t ▸ waits)
  | opened told links =>
      rw [told] at waits
      rw [links]
      split at waits
      · cases waits
        exact List.getElem?_concat_length
      · have before := attended.opening t link waits
        rw [List.getElem?_append_left (List.getElem?_eq_some_iff.mp before).1, before]
  | @greeted u l held done others links =>
      have apart : t ≠ u := by
        rintro rfl
        cases done.symm.trans waits
      rw [others t apart] at waits
      have other : l ≠ link := by
        rintro rfl
        exact apart (attended.alone t u l waits held)
      rw [links, List.getElem?_set_ne other]
      exact attended.opening t link waits
  | @closed l greeted told links =>
      have before := attended.opening t link (told t ▸ waits)
      have other : l ≠ link := by
        rintro rfl
        rw [isGreeted_eq_false before] at greeted
        cases greeted
      rw [links, List.getElem?_set_ne other, before]

theorem Attended.alone_step (attended : b.Attended) (move : LinksMove b b') (t u link : Nat)
    (waits : b'.told Task.greets? t = some link) (waits' : b'.told Task.greets? u = some link) :
    t = u := by
  cases move with
  | same told links | closed _ told links =>
      exact attended.alone t u link (told t ▸ waits) (told u ▸ waits')
  | opened told links =>
      -- No task that was there before greets the connection that has just come up.
      have fresh : ∀ v, b.told Task.greets? v ≠ some b.links.length := by
        intro v before
        have known := (List.getElem?_eq_some_iff.mp (attended.opening v _ before)).1
        omega
      rw [told] at waits waits'
      split at waits <;> split at waits'
      · omega
      · cases waits
        exact absurd waits' (fresh u)
      · cases waits'
        exact absurd waits (fresh t)
      · exact attended.alone t u link waits waits'
  | @greeted v l held done others links =>
      have apart : ∀ w, b'.told Task.greets? w = some link → w ≠ v := by
        rintro w waiting rfl
        cases done.symm.trans waiting
      rw [others t (apart t waits)] at waits
      rw [others u (apart u waits')] at waits'
      exact attended.alone t u link waits waits'

theorem Attended.step {s : Step} {seen : List Effect} (attended : b.Attended)
    (change : Change b s b' seen) : b'.Attended where
  opening := attended.opening_step change.linksMove
  alone := attended.alone_step change.linksMove
  greeted t link channel command pending := by
    refine change.linksMove.isGreeted ?_
    by_cases before : b.tasks[t]? = some (.commanding link channel command)
    · exact attended.greeted t link channel command before
    · exact (change.commanding_new pending before).2.1

theorem Attended.run (attended : b.Attended) (steps : List Step) : (b.run steps).1.Attended :=
  run_induction (fun _ s before => before.step (step_change _ s)) attended steps

theorem attended_start (name version : String) (keyFile : Option Bytes) :
    (start name version keyFile).Attended where
  opening t link waits := by simp [told, start] at waits
  alone t u link waits := by simp [told, start] at waits
  greeted t link channel command pending := by simp [start] at pending

end Attended

theorem step_greet {b : Bridge} {t link : Nat} {key : Option String}
    (held : b.tasks[t]? = some (.greeting link key)) :
    b.step (.greet t) = ((b.setTask t .finished).setLink link .greeted,
      [b.emission t link (.env ⟨b.name, b.version, key⟩)]) := by
  simp only [Bridge.step, greet, held]

theorem step_greet_isGreeted {b : Bridge} {t link : Nat} {key : Option String}
    (held : b.tasks[t]? = some (.greeting link key)) (known : link < b.links.length) :
    (b.step (.greet t)).1.isGreeted link = true := by
  have set : ((b.setTask t .finished).setLink link .greeted).links = b.links.set link .greeted :=
    rfl
  rw [step_greet held]
  exact isGreeted_of_set known (by decide) set

theorem mem_eventsOn {link t : Nat} {event : Event} {seen : List Effect} :
    (t, event) ∈ eventsOn link seen ↔ ∃ delivered, .emitted t link event delivered ∈ seen := by
  constructor
  · intro within
    obtain ⟨e, made, reads⟩ := List.mem_filterMap.mp within
    cases e with
    | emitted t' l event' delivered =>
        by_cases same : l = link
        · subst same
          simp only [if_true] at reads
          cases reads
          exact ⟨delivered, made⟩
        · simp only [if_neg same] at reads
          cases reads
    | called => cases reads
    | answered => cases reads
  · rintro ⟨delivered, made⟩
    exact List.mem_filterMap.mpr ⟨_, made, if_pos rfl⟩

theorem eventsOn_append (link : Nat) (seen later : List Effect) :
    eventsOn link (seen ++ later) = eventsOn link seen ++ eventsOn link later :=
  List.filterMap_append ..

/-- Behind the greeting of a connection no announcement is sent to it. -/
theorem no_env_of_isGreeted {b : Bridge} {link : Nat} (attended : b.Attended)
    (greeted : b.isGreeted link = true) (steps : List Step) :
    ∀ e ∈ eventsOn link (b.run steps).2, ∀ greeting, e.2 ≠ .env greeting := by
  rintro ⟨t, event⟩ within greeting rfl
  obtain ⟨delivered, made⟩ := mem_eventsOn.mp within
  obtain ⟨earlier, s, later, rfl, sent⟩ := exists_step_of_mem_run made
  have still := run_isGreeted greeted earlier
  generalize same : Event.env greeting = event at sent
  cases (step_change _ s).sends sent with
  | greeting _ held =>
      have opening := (attended.run earlier).opening t link (told_of_some held rfl)
      rw [isGreeted_eq_false opening] at still
      cases still
  | @settling channel command outcome pending =>
      obtain ⟨error, params, echoes⟩ := settle_echoes command channel outcome
      cases same.trans echoes
  | reporting => cases same

/-- Until a connection has been greeted, nothing is sent to it but reports of uploads that found it
active. -/
theorem reports_of_not_isGreeted {b : Bridge} {link : Nat} (attended : b.Attended)
    (start : b.tasks = []) {steps : List Step} (waiting : (b.run steps).1.isGreeted link = false) :
    ∀ e ∈ eventsOn link (b.run steps).2,
      (∃ status, e.2 = .upload status) ∧ b.ReadEarly steps link e.1 := by
  rintro ⟨t, event⟩ within
  obtain ⟨delivered, made⟩ := mem_eventsOn.mp within
  obtain ⟨earlier, s, later, rfl, sent⟩ := exists_step_of_mem_run made
  -- A connection greeted before the end would still be greeted at the end.
  have never : ∀ before behind, earlier ++ s :: later = before ++ behind →
      (b.run before).1.isGreeted link = false := by
    intro before behind same
    rw [same, run_append] at waiting
    refine Bool.eq_false_iff.mpr fun greeted => ?_
    rw [run_isGreeted greeted] at waiting
    cases waiting
  cases (step_change _ s).sends sent with
  | greeting about held =>
      subst about
      have opening := (attended.run earlier).opening t link (told_of_some held rfl)
      have greeted := step_greet_isGreeted held (List.getElem?_eq_some_iff.mp opening).1
      have before := never (earlier ++ [.greet t]) later (by simp)
      rw [run_concat] at before
      cases before.symm.trans greeted
  | settling pending =>
      have greeted := (attended.run earlier).greeted t link _ _ pending
      rw [never earlier _ rfl] at greeted
      cases greeted
  | @reporting file result about held =>
      refine ⟨⟨_, rfl⟩, ?_⟩
      have old : b.tasks[t]? ≠ some (.reporting file result (some link)) := by simp [start]
      obtain ⟨before, s', between, rfl, unread, read⟩ := exists_step_of_became
        (P := fun c => c.tasks[t]? = some (.reporting file result (some link))) old held
      obtain ⟨rfl, active⟩ := (step_change _ s').reporting_new read unread
      exact ⟨before, between ++ s :: later, by simp, active, never before _ (List.append_assoc ..)⟩

/-- Only its own greeting makes a connection a greeted one. -/
theorem Change.greeted_new {b b' : Bridge} {s : Step} {seen : List Effect}
    (change : Change b s b' seen) {link : Nat} (before : b.isGreeted link = false)
    (after : b'.isGreeted link = true) :
    ∃ t key, s = .greet t ∧ b.tasks[t]? = some (.greeting link key) := by
  have unchanged : b'.isGreeted link ≠ b.isGreeted link := by
    rw [before, after]
    decide
  cases change with
  | @greeted t l key held =>
      by_cases same : l = link
      · subst same
        exact ⟨t, key, rfl, held⟩
      · exact absurd (isGreeted_of_set_ne same rfl) unchanged
  | @closed _ l ends greeted =>
      by_cases same : l = link
      · subst same
        cases before.symm.trans greeted
      · exact absurd (isGreeted_of_set_ne same rfl) unchanged
  | connected =>
      have known : link < b.links.length := by
        refine Nat.lt_of_not_le fun unknown => ?_
        rcases Nat.lt_or_eq_of_le unknown with beyond | last
        · have long := lt_of_isGreeted after
          simp only [connect, List.length_append, List.length_singleton] at long
          omega
        · rw [isGreeted_eq_false (b := b.connect.1) (by simp [connect, ← last])] at after
          cases after
      refine absurd ?_ unchanged
      simp only [isGreeted, connect, List.getD_eq_getElem?_getD, List.getElem?_append_left known]
  | idle | takenUp | uploadTaken | keyTaken | keyRefused | keyRead | settled | uploadKept
  | uploadBroken | activeRead | reported | keySaved | keyUnsaved | fileEmptied | fileFilled
  | fileSpoilt | keyAdopted =>
      exact absurd rfl unchanged

/-- What a connection is sent in any run: first reports of uploads that found it active before it
had been greeted, then its announcement, then no further one. So an announcement is sent once at
most, nothing but such a report comes before it, and it comes first wherever no upload finds the
connection active early. -/
theorem env_once_after_early_reports (name version : String) (keyFile : Option Bytes)
    (steps : List Step) (link : Nat) :
    let b := start name version keyFile
    ∃ reports rest, eventsOn link (b.run steps).2 = reports ++ rest ∧
      (∀ e ∈ reports, (∃ status, e.2 = .upload status) ∧ b.ReadEarly steps link e.1) ∧
      (rest = [] ∨ ∃ task key more, rest = (task, .env ⟨name, version, key⟩) :: more ∧
        ∀ e ∈ more, ∀ greeting, e.2 ≠ .env greeting) := by
  intro b
  have attended : b.Attended := attended_start name version keyFile
  by_cases greeted : (b.run steps).1.isGreeted link = true
  · have unknown : ¬ b.isGreeted link = true := by simp [b, start, isGreeted]
    obtain ⟨earlier, s, later, rfl, before, done⟩ := exists_step_of_became
      (P := fun c => c.isGreeted link = true) unknown greeted
    have waiting := Bool.eq_false_iff.mpr before
    obtain ⟨t, key, rfl, held⟩ := (step_change _ s).greeted_new waiting done
    have sent : eventsOn link ((b.run earlier).1.step (.greet t)).2 =
        [(t, .env ⟨name, version, key⟩)] := by
      rw [step_greet held, run_name, run_version]
      simp [eventsOn, emission, b, start]
    refine ⟨eventsOn link (b.run earlier).2, _, ?_, ?_,
      .inr ⟨t, key, eventsOn link (((b.run earlier).1.step (.greet t)).1.run later).2, rfl, ?_⟩⟩
    · rw [run_append, run_cons, eventsOn_append, eventsOn_append, sent]
      rfl
    · intro e within
      obtain ⟨report, front, between, rfl, early⟩ :=
        reports_of_not_isGreeted attended rfl waiting e within
      exact ⟨report, front, between ++ .greet t :: later, by simp, early⟩
    · exact no_env_of_isGreeted ((attended.run earlier).step (step_change _ _)) done later
  · have waiting := Bool.eq_false_iff.mpr greeted
    exact ⟨_, [], (List.append_nil _).symm, reports_of_not_isGreeted attended rfl waiting, .inl rfl⟩

/-- An announcement need not come first: an upload that ends between the opening of a connection and
its greeting reports there before. -/
theorem env_not_always_first :
    ¬ ∀ (name version : String) (keyFile : Option Bytes) (steps : List Step)
    (link : Nat) (first : Nat × Event) (more : List (Nat × Event)),
    eventsOn link ((start name version keyFile).run steps).2 = first :: more →
    (∃ key, first.2 = .env ⟨name, version, key⟩) ∧ ∀ e ∈ more, ∀ greeting, e.2 ≠ .env greeting := by
  intro always
  obtain ⟨⟨key, env⟩, -⟩ := always "local" "v2" none
    [.connect, .upload "app.jar" [], .endCall 1 (.done (.scalar .null)), .readActive 1, .report 1,
      .readKey 0, .greet 0]
    0 _ _ rfl
  cases env

end Bridge

end CommandBridge
