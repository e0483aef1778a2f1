import CommandBridge.Hub
import CommandBridge.Proofs.Accounting
import CommandBridge.Proofs.Announcement
import CommandBridge.Proofs.Delivery

/-! From one socket to another. The bridge of a hub runs as a bridge by itself does, and each loop
as a loop by itself: it hands on the texts that are sent to its connection, it is told of the events
for it in the order in which they are emitted, and it goes on as long as the connection is open. So
a command that is sent on a socket calls the backend, and the answer to it is written to the same
socket in its turn. -/
namespace CommandBridge

namespace Connection

/-- What a turn of a loop comes to: nothing for the bridge, a text that is handed on, or the end. -/
inductive Comes (link : Nat) (before after : Connection) : List Step → Prop
  | silent : after.running = before.running → after.handled = before.handled →
      Comes link before after []
  | handed (content : String) : after.running = before.running →
      after.handled = before.handled ++ [content] →
      Comes link before after [.receive link (.text content)]
  | ended : before.running = true → after.running = false → after.handled = before.handled →
      Comes link before after [.close link]

theorem Comes.steps_eq {link : Nat} {before after : Connection} {steps : List Step}
    (comes : Comes link before after steps) : before.steps link after = steps := by
  cases comes with
  | silent runs texts => simp [Connection.steps, runs, texts]
  | handed content runs texts => simp [Connection.steps, runs, texts]
  | ended ran ends texts => simp [Connection.steps, ran, ends, texts]

theorem turn_comes (c : Connection) (t : Turn) (link : Nat) :
    Comes link c (c.turn t) (c.steps link (c.turn t)) := by
  suffices found : ∃ steps, Comes link c (c.turn t) steps by
    obtain ⟨steps, comes⟩ := found
    rwa [comes.steps_eq]
  obtain ⟨queued, texts, written, runs⟩ := c
  cases runs with
  | false => exact ⟨_, .silent rfl rfl⟩
  | true =>
      cases t with
      | queue event => exact ⟨_, .silent rfl rfl⟩
      | read message =>
          cases message with
          | text content => exact ⟨_, .handed content rfl rfl⟩
          | binary | ping | pong => exact ⟨_, .silent rfl rfl⟩
          | close | failure | ended => exact ⟨_, .ended rfl rfl rfl⟩
      | write succeeds =>
          cases queued with
          | nil => exact ⟨_, .silent rfl rfl⟩
          | cons event rest =>
              cases succeeds with
              | true => exact ⟨_, .silent rfl rfl⟩
              | false => exact ⟨_, .ended rfl rfl rfl⟩

end Connection

namespace Dialogue
variable {d : Dialogue} {messages : List Incoming} {events more : List Event} {failed : Prop}

theorem step_send {o : Occasion} (ready : d.isReady o = true) (rest : List Incoming) :
    (d.send rest).step o = (d.step o).send rest := by
  obtain ⟨⟨queued, texts, written, runs⟩, unread⟩ := d
  cases o with
  | queue | write => rfl
  | read =>
      cases unread with
      | nil => cases ready
      | cons m behind => cases runs <;> rfl

theorem run_queue_send (d : Dialogue) (rest : List Incoming) :
    (d.send rest).run (more.map .queue) = (d.run (more.map .queue)).send rest := by
  induction more generalizing d with
  | nil => rfl
  | cons event more ih => exact ih (d.step (.queue event))

/-- Events that are queued neither end a loop nor hand anything on. -/
theorem run_queue (d : Dialogue) :
    (d.run (more.map .queue)).loop.running = d.loop.running ∧
      (d.run (more.map .queue)).loop.handled = d.loop.handled := by
  induction more generalizing d with
  | nil => exact ⟨rfl, rfl⟩
  | cons event more ih =>
      obtain ⟨running, handled⟩ := ih (d.step (.queue event))
      refine ⟨running.trans ?_, handled.trans ?_⟩
      all_goals
        simp only [step, turn, Connection.turn]
        split <;> rfl

theorem Reached.queue (reached : Reached messages events failed d) (more : List Event) :
    Reached messages (events ++ more) failed (d.run (more.map .queue)) := by
  induction more generalizing d events with
  | nil => exact (List.append_nil events).symm ▸ reached
  | cons event more ih =>
      have farther := reached.step (o := .queue event) nofun
      exact List.append_cons events event more ▸ ih farther

end Dialogue

namespace Hub
variable {h : Hub} {link : Nat}

/-- What a move is: a step that comes from no loop; nothing but that a message comes to wait; or a
turn of the loop of a greeted connection. -/
inductive Moves (h : Hub) (m : Move) : Prop
  | stepped (s apart) : m = .step s apart → Moves h m
  | waits : m.step? = none → h.stepsIn m = [] →
      (∀ link, (h.socket m link).loop = (h.sockets link).loop) → Moves h m
  | turned (link : Nat) : m.step? = none → h.bridge.isGreeted link = true →
      (h.sockets link).loop.Comes link (h.socket m link).loop (h.stepsIn m) →
      (∀ l, l ≠ link → h.socket m l = h.sockets l) → Moves h m

theorem moves (h : Hub) (m : Move) : Moves h m := by
  have stays : ∀ (link : Nat) (c : Connection), c.steps link c = [] := fun link c =>
    (Connection.Comes.silent rfl rfl).steps_eq
  cases m with
  | step s apart => exact .stepped s apart rfl
  | send link message =>
      have same : ∀ l, (h.socket (.send link message) l).loop = (h.sockets l).loop := by
        intro l
        rw [socket]
        split <;> rfl
      refine .waits rfl ?_ same
      rw [stepsIn, same, stays]
  | turn link o own =>
      by_cases taken : h.takes link o = true
      · have turned : h.socket (.turn link o own) link = (h.sockets link).step o := by
          simp [socket, taken]
        refine .turned link rfl (Bool.and_eq_true_iff.mp taken).1 ?_ fun l other => ?_
        · rw [stepsIn, turned]
          exact Connection.turn_comes ..
        · simp [socket, other.symm]
      · have same : ∀ l, h.socket (.turn link o own) l = h.sockets l := by
          intro l
          rw [socket, if_neg]
          rintro ⟨rfl, takes⟩
          exact taken takes
        refine .waits rfl ?_ fun l => congrArg Dialogue.loop (same l)
        rw [stepsIn, same, stays]

/-! ### The bridge -/

theorem run_append (h : Hub) (earlier later : List Move) : h.run (earlier ++ later) =
    (((h.run earlier).1.run later).1, (h.run earlier).2 ++ ((h.run earlier).1.run later).2) := by
  induction earlier generalizing h with
  | nil => rfl
  | cons m rest ih => simp only [List.cons_append, run, ih, List.append_assoc]

theorem run_concat (h : Hub) (moves : List Move) (m : Move) : h.run (moves ++ [m]) =
    (((h.run moves).1.move m).1, (h.run moves).2 ++ ((h.run moves).1.move m).2) := by
  simp only [run_append, run, List.append_nil]

def steps (h : Hub) : List Move → List Step
  | [] => []
  | m :: rest => h.stepsIn m ++ (h.move m).1.steps rest

theorem steps_append (h : Hub) (earlier later : List Move) :
    h.steps (earlier ++ later) = h.steps earlier ++ (h.run earlier).1.steps later := by
  induction earlier generalizing h with
  | nil => rfl
  | cons m rest ih => simp only [List.cons_append, steps, run, ih, List.append_assoc]

/-- The bridge of a hub runs as a bridge by itself does. -/
theorem run_bridge (h : Hub) (moves : List Move) :
    (h.run moves).1.bridge = (h.bridge.run (h.steps moves)).1 ∧
      (h.run moves).2 = (h.bridge.run (h.steps moves)).2 := by
  induction moves generalizing h with
  | nil => exact ⟨rfl, rfl⟩
  | cons m rest ih =>
      obtain ⟨bridge, seen⟩ := ih (h.move m).1
      rw [steps, Bridge.run_append]
      exact ⟨bridge, congrArg ((h.move m).2 ++ ·) seen⟩

def received (link : Nat) (steps : List Step) : List String :=
  steps.filterMap fun
    | .receive l (.text content) => if l = link then some content else none
    | _ => none

theorem received_append (steps more : List Step) :
    received link (steps ++ more) = received link steps ++ received link more :=
  List.filterMap_append ..

theorem socket_handled (h : Hub) (m : Move) (link : Nat) :
    (h.socket m link).loop.handled = (h.sockets link).loop.handled ++
      received link (h.stepsIn m) := by
  cases h.moves m with
  | stepped s apart same =>
      subst same
      have none : received link [s] = [] := by
        cases s with
        | receive | close => cases apart
        | _ => rfl
      rw [stepsIn, none, List.append_nil]
      rfl
  | waits _ none same => rw [same, none, received, List.filterMap_nil, List.append_nil]
  | turned turning _ _ comes others =>
      by_cases own : turning = link
      · subst own
        generalize h.stepsIn m = steps at comes
        cases comes with
        | silent _ texts | ended _ _ texts => rw [texts]; exact (List.append_nil _).symm
        | handed content _ texts => simp [texts, received]
      · have none : received link (h.stepsIn m) = [] := by
          generalize h.stepsIn m = steps at comes
          cases comes with
          | silent | ended => rfl
          | handed content => simp [received, own]
        rw [others link (Ne.symm own), none, List.append_nil]

/-- The texts that a loop hands on are those that the bridge receives. -/
theorem run_handled (h : Hub) (moves : List Move) (link : Nat) :
    ((h.run moves).1.sockets link).loop.handled =
      (h.sockets link).loop.handled ++ received link (h.steps moves) := by
  induction moves generalizing h with
  | nil => exact (List.append_nil _).symm
  | cons m rest ih =>
      have first : ((h.move m).1.sockets link).loop.handled = (h.socket m link).loop.handled :=
        (Dialogue.run_queue _).2
      refine (ih (h.move m).1).trans ?_
      rw [first, socket_handled, steps, received_append, List.append_assoc]

/-! ### Which loops have ended -/

/-- The loops that have ended are those of the closed connections. -/
def Agrees (h : Hub) : Prop :=
  ∀ link, (h.sockets link).loop.running = false ↔ h.bridge.links[link]? = some .closed

end Hub

namespace Bridge
variable {b : Bridge} {link : Nat}

/-- No step but one of a loop closes a connection, or opens one that is closed. -/
theorem closed_iff_of_apart (attended : b.Attended) {s : Step} (apart : s.isOfLoop = false) :
    (b.step s).1.links[link]? = some .closed ↔ b.links[link]? = some .closed := by
  have change := step_change b s
  generalize b.step s = after at change
  obtain ⟨b', seen⟩ := after
  cases change with
  | connected =>
      simp only [List.getElem?_append]
      split
      · exact Iff.rfl
      · rename_i unknown
        rw [List.getElem?_eq_none (Nat.not_lt.mp unknown), List.getElem?_singleton]
        split <;> simp
  | @greeted t l key held =>
      have opening := attended.opening t l (told_of_some held rfl)
      by_cases own : l = link
      · subst own
        simp [setTask, opening, List.getElem?_set_self (List.getElem?_eq_some_iff.mp opening).1]
      · simp only [setTask, List.getElem?_set_ne own]
  | takenUp => cases apart
  | closed ends =>
      cases s with
      | receive | close => cases apart
      | _ => exact ends.elim
  | _ => exact Iff.rfl

theorem links_receive_text (b : Bridge) (link : Nat) (content : String) :
    (b.step (.receive link (.text content))).1.links = b.links := by
  simp only [step, receive]
  split
  · split <;> rfl
  · rfl

theorem step_close_of_greeted (greeted : b.isGreeted link = true) :
    b.step (.close link) = (b.setLink link .closed, []) := by
  simp [step, close, greeted]

/-- The active connection and the addressees of reports are connections that the bridge has. -/
structure Placed (b : Bridge) : Prop where
  active : ∀ link, b.active = some link → link < b.links.length
  reporting : ∀ (t : Nat) (file : String) (result : Except Failure Payload) (link : Nat),
    b.tasks[t]? = some (.reporting file result (some link)) → link < b.links.length

section Change
variable {b' : Bridge} {s : Step} {seen : List Effect}

theorem LinksMove.length_le (move : LinksMove b b') : b.links.length ≤ b'.links.length := by
  cases move with
  | same _ links => exact Nat.le_of_eq (congrArg List.length links.symm)
  | opened _ links => rw [links, List.length_append]; exact Nat.le_add_right ..
  | greeted _ _ _ links | closed _ _ links =>
      rw [links, List.length_set]

theorem Change.active_lt (change : Change b s b' seen) (placed : b.Placed) {link : Nat}
    (active : b'.active = some link) : link < b'.links.length := by
  have grown := change.linksMove.length_le
  cases change with
  | connected =>
      cases active
      simp [connect]
  | _ => exact Nat.lt_of_lt_of_le (placed.active link active) grown

theorem Placed.step (placed : b.Placed) (change : Change b s b' seen) : b'.Placed where
  active _ := change.active_lt placed
  reporting t file result link held := by
    refine Nat.lt_of_lt_of_le ?_ change.linksMove.length_le
    by_cases before : b.tasks[t]? = some (.reporting file result (some link))
    · exact placed.reporting t file result link before
    · exact placed.active link (change.reporting_new held before).2

theorem placed_start (name version : String) (keyFile : Option Bytes) :
    (start name version keyFile).Placed :=
  ⟨nofun, nofun⟩

theorem Change.emitted_lt (change : Change b s b' seen) (attended : b.Attended) (placed : b.Placed)
    {t : Nat} {event : Event} {delivered : Bool} (made : .emitted t link event delivered ∈ seen) :
    link < b.links.length := by
  cases change.sends made with
  | greeting _ held =>
      exact (List.getElem?_eq_some_iff.mp (attended.opening t link (told_of_some held rfl))).1
  | settling held => exact lt_of_isGreeted (attended.greeted t link _ _ held)
  | reporting _ held => exact placed.reporting t _ _ link held

end Change

end Bridge

namespace Hub
variable {h : Hub} {link : Nat}

theorem Agrees.move (agrees : h.Agrees) (attended : h.bridge.Attended) (m : Move) :
    (h.move m).1.Agrees := by
  intro link
  have queued : ((h.move m).1.sockets link).loop.running = (h.socket m link).loop.running :=
    (Dialogue.run_queue _).1
  have bridge : (h.move m).1.bridge = (h.bridge.run (h.stepsIn m)).1 := rfl
  rw [queued, bridge]
  cases h.moves m with
  | stepped s apart same =>
      subst same
      exact (agrees link).trans (Bridge.closed_iff_of_apart attended apart).symm
  | waits _ none same =>
      rw [same, none]
      exact agrees link
  | turned turning _ greeted comes others =>
      have apart : link ≠ turning →
          (h.socket m link).loop.running = (h.sockets link).loop.running :=
        fun other => by rw [others link other]
      have goesOn : (h.socket m turning).loop.running = (h.sockets turning).loop.running →
          ((h.socket m link).loop.running = false ↔ h.bridge.links[link]? = some .closed) := by
        intro runs
        by_cases own : link = turning
        · subst own
          exact runs ▸ agrees link
        · exact apart own ▸ agrees link
      generalize h.stepsIn m = steps at comes
      cases comes with
      | silent runs => exact goesOn runs
      | handed content runs =>
          rw [Bridge.run_cons, Bridge.run_nil, Bridge.links_receive_text]
          exact goesOn runs
      | ended _ ends =>
          rw [Bridge.run_cons, Bridge.run_nil, Bridge.step_close_of_greeted greeted]
          by_cases own : link = turning
          · subst own
            exact iff_of_true ends (List.getElem?_set_self (Bridge.lt_of_isGreeted greeted))
          · rw [apart own, agrees link]
            simp only [Bridge.setLink, List.getElem?_set_ne (Ne.symm own)]

theorem attended_run {name version : String} {keyFile : Option Bytes} (moves : List Move) :
    ((start name version keyFile).run moves).1.bridge.Attended := by
  rw [(run_bridge _ moves).1]
  exact (Bridge.attended_start name version keyFile).run _

/-- A loop ends just when its connection closes. -/
theorem agrees_run (name version : String) (keyFile : Option Bytes) (moves : List Move) :
    ((start name version keyFile).run moves).1.Agrees := by
  induction moves using List.reverseRecOn with
  | nil => exact fun link => iff_of_false nofun nofun
  | append_singleton moves m ih =>
      rw [run_concat]
      exact ih.move (attended_run moves) m

theorem placed_run {name version : String} {keyFile : Option Bytes} (moves : List Move) :
    ((start name version keyFile).run moves).1.bridge.Placed := by
  rw [(run_bridge _ moves).1]
  exact Bridge.run_induction (fun b s before => before.step (Bridge.step_change b s))
    (Bridge.placed_start name version keyFile) _

theorem stepsIn_cases (h : Hub) (m : Move) : h.stepsIn m = [] ∨ ∃ s, h.stepsIn m = [s] := by
  cases h.moves m with
  | stepped s apart same => exact .inr ⟨s, same ▸ rfl⟩
  | waits _ none => exact .inl none
  | turned link _ _ comes =>
      generalize h.stepsIn m = steps at comes
      cases comes with
      | silent => exact .inl rfl
      | handed content => exact .inr ⟨_, rfl⟩
      | ended => exact .inr ⟨_, rfl⟩

/-- An event is said to be delivered just where the loop of its connection goes on, and so takes
it. -/
theorem move_delivered (name version : String) (keyFile : Option Bytes) (moves : List Move)
    (m : Move) :
    let h := ((start name version keyFile).run moves).1
    ∀ t link event delivered, .emitted t link event delivered ∈ (h.move m).2 →
      delivered = (h.sockets link).loop.running := by
  intro h t link event delivered made
  have seen : (h.move m).2 = (h.bridge.run (h.stepsIn m)).2 := rfl
  rw [seen] at made
  rcases h.stepsIn_cases m with none | ⟨s, one⟩
  · rw [none] at made
    cases made
  · rw [one, Bridge.run_cons, Bridge.run_nil, List.append_nil] at made
    have change := Bridge.step_change h.bridge s
    have known := change.emitted_lt (attended_run moves) (placed_run moves) made
    have agrees : (h.sockets link).loop.running = false ↔ h.bridge.links[link]? = some .closed :=
      agrees_run name version keyFile moves link
    rw [change.emitted_delivered made, Bridge.isOpen, List.getD_eq_getElem?_getD,
      List.getElem?_eq_getElem known, Option.getD_some]
    rw [List.getElem?_eq_getElem known, Option.some_inj] at agrees
    cases running : (h.sockets link).loop.running with
    | false => simp [agrees.mp running]
    | true => simpa [running] using mt agrees.mpr

/-! ### What becomes of messages and events -/

def sentTo (link : Nat) (moves : List Move) : List Incoming :=
  moves.filterMap fun
    | .send l message => if l = link then some message else none
    | _ => none

def FailsOn (link : Nat) (moves : List Move) : Prop := Move.turn link (.write false) rfl ∈ moves

/-- A loop has come as far as the messages and the events of its connection take it, whatever else
may yet be sent to it. -/
def Follows (h : Hub) (moves : List Move) (seen : List Effect) (link : Nat) : Prop :=
  ∀ rest, Dialogue.Reached (sentTo link moves ++ rest) (seen.filterMap (Effect.eventFor? link))
    (FailsOn link moves) ((h.sockets link).send rest)

theorem sentTo_concat (moves : List Move) (m : Move) (link : Nat) :
    sentTo link (moves ++ [m]) = sentTo link moves ++ sentTo link [m] :=
  List.filterMap_append ..

section Follows
variable {moves : List Move} {seen : List Effect}

theorem Follows.socket (follows : h.Follows moves seen link) (m : Move) (rest : List Incoming) :
    Dialogue.Reached (sentTo link (moves ++ [m]) ++ rest) (seen.filterMap (Effect.eventFor? link))
      (FailsOn link (moves ++ [m])) ((h.socket m link).send rest) := by
  have weaker : FailsOn link moves → FailsOn link (moves ++ [m]) := List.mem_append_left [m]
  rw [sentTo_concat, List.append_assoc]
  cases m with
  | step s apart => exact (follows rest).weaken weaker
  | send l message =>
      by_cases own : l = link
      · subst own
        have sent : (h.socket (.send l message) l).send rest =
            (h.sockets l).send (message :: rest) := by
          simp [Hub.socket, Dialogue.send]
        rw [sent]
        simpa [sentTo] using (follows (message :: rest)).weaken weaker
      · simpa [sentTo, Hub.socket, own] using (follows rest).weaken weaker
  | turn l o own =>
      by_cases taken : l = link ∧ h.takes link o = true
      · have turned : h.socket (.turn l o own) link = (h.sockets link).step o := if_pos taken
        have ready := (Bool.and_eq_true_iff.mp taken.2).2
        rw [turned, ← Dialogue.step_send ready]
        have farther := ((follows rest).weaken weaker).step (o := o) fun fails => by
          obtain ⟨rfl, -⟩ := fails
          obtain ⟨rfl, -⟩ := taken
          exact List.mem_append_right _ (.head _)
        rw [own, Option.toList_none, List.append_nil] at farther
        exact farther
      · have same : h.socket (.turn l o own) link = h.sockets link := if_neg taken
        rw [same]
        exact (follows rest).weaken weaker

theorem Follows.move (follows : h.Follows moves seen link) (m : Move) :
    (h.move m).1.Follows (moves ++ [m]) (seen ++ (h.move m).2) link := by
  intro rest
  have farther := (follows.socket m rest).queue ((h.move m).2.filterMap (Effect.eventFor? link))
  rw [Dialogue.run_queue_send, ← List.filterMap_append] at farther
  exact farther

end Follows

theorem follows_run (name version : String) (keyFile : Option Bytes) (moves : List Move)
    (link : Nat) :
    let (h, seen) := (start name version keyFile).run moves
    h.Follows moves seen link := by
  induction moves using List.reverseRecOn with
  | nil => exact fun rest => .going rfl rfl (List.forall_mem_nil _) rfl rfl
  | append_singleton moves m ih =>
      rw [run_concat]
      exact Follows.move ih m

/-! ### A command from socket to socket -/

theorem endings_append (task : Nat) (steps more : List Step) :
    Bridge.endings task (steps ++ more) = Bridge.endings task steps ++ Bridge.endings task more :=
  List.filterMap_append ..

theorem endings_steps (h : Hub) (task : Nat) (moves : List Move) :
    Bridge.endings task (h.steps moves) = Bridge.endings task (moves.filterMap Move.step?) := by
  induction moves generalizing h with
  | nil => rfl
  | cons m rest ih =>
      rw [steps, endings_append, ih]
      cases h.moves m with
      | stepped s apart same =>
          subst same
          exact (endings_append task [s] _).symm
      | waits noStep none => rw [none, List.filterMap_cons_none noStep]; rfl
      | turned turning noStep greeted comes others =>
          rw [List.filterMap_cons_none noStep]
          generalize h.stepsIn m = steps at comes
          cases comes <;> rfl

/-- The loop of a connection goes on and is about to read a text. -/
structure Awaits (h : Hub) (link : Nat) (content : String) : Prop where
  greeted : h.bridge.isGreeted link = true
  running : (h.sockets link).loop.running = true
  next : (h.sockets link).unread.head? = some (.text content)

example :
    ((start "local" "v2" none).run
      [.step .connect rfl, .step (.readKey 0) rfl, .step (.greet 0) rfl, .send 0 .ping,
        .send 0 (.text "[]"), .turn 0 .read rfl]).1.Awaits 0 "[]" :=
  ⟨rfl, rfl, rfl⟩

abbrev reading (link : Nat) : Move := .turn link .read rfl

theorem Awaits.stepsIn_eq {content : String} (awaits : h.Awaits link content) :
    h.stepsIn (reading link) = [.receive link (.text content)] := by
  obtain ⟨greeted, running, next⟩ := awaits
  obtain ⟨rest, unread⟩ := List.head?_eq_some_iff.mp next
  have taken : h.takes link .read = true := by simp [takes, greeted, Dialogue.isReady, unread]
  have turned : (h.socket (reading link) link).loop =
      (h.sockets link).loop.turn (.read (.text content)) := by
    simp [socket, taken, Dialogue.step, Dialogue.turn, unread]
  refine Connection.Comes.steps_eq (turned ▸ .handed content ?_ ?_)
  · simp [Connection.turn, Connection.read, running]
  · simp [Connection.turn, Connection.read, running]

abbrev writing (link : Nat) : Move := .turn link (.write true) rfl

theorem move_writing {event : Event} {rest : List Event} (greeted : h.bridge.isGreeted link = true)
    (running : (h.sockets link).loop.running = true)
    (queued : (h.sockets link).loop.queued = event :: rest) :
    (h.move (writing link)).1.bridge = h.bridge ∧
      ((h.move (writing link)).1.sockets link).loop =
        { (h.sockets link).loop with
          queued := rest
          written := (h.sockets link).loop.written ++ [event.text] } := by
  have taken : h.takes link (.write true) = true := by simp [takes, greeted, Dialogue.isReady]
  have turned : (h.socket (writing link) link).loop =
      { (h.sockets link).loop with
        queued := rest
        written := (h.sockets link).loop.written ++ [event.text] } := by
    simp [socket, taken, Dialogue.step, Dialogue.turn, Connection.turn, Connection.write,
      running, queued]
  have none : h.stepsIn (writing link) = [] := by
    refine Connection.Comes.steps_eq (turned ▸ .silent ?_ ?_)
    · rfl
    · rfl
  rw [← turned, move, none]
  exact ⟨rfl, rfl⟩

/-- With as many writes as there are events in the queue, all of them are written. -/
theorem run_writing {queued : List Event} (greeted : h.bridge.isGreeted link = true)
    (running : (h.sockets link).loop.running = true)
    (queue : (h.sockets link).loop.queued = queued) :
    ((h.run (List.replicate queued.length (writing link))).1.sockets link).loop.written =
      (h.sockets link).loop.written ++ queued.map Event.text := by
  induction queued generalizing h with
  | nil => exact (List.append_nil _).symm
  | cons event rest ih =>
      obtain ⟨bridge, loop⟩ := move_writing greeted running queue
      have later := ih (bridge ▸ greeted) (loop ▸ running) (congrArg Connection.queued loop)
      rw [List.length_cons, List.replicate_succ, run]
      refine later.trans ?_
      rw [loop, List.append_assoc]
      rfl

section Carried
variable {name version : String} {keyFile : Option Bytes} {earlier later : List Move}
  {content : String} {channel : Channel} {command : Command}

/-- The text that a loop reads is taken up by the bridge, with what happens from then on. -/
theorem takesUp_of_awaits
    (awaits : ((start name version keyFile).run earlier).1.Awaits link content)
    (asks : Frame.routeOfText? content = some (channel, command)) (later : List Move) :
    let h := ((start name version keyFile).run earlier).1
    (Bridge.start name version keyFile).TakesUp
      ((start name version keyFile).steps (earlier ++ reading link :: later))
      h.bridge.tasks.length link channel command ((h.move (reading link)).1.steps later) := by
  intro h
  have bridge : h.bridge = _ := (run_bridge (start name version keyFile) earlier).1
  refine ⟨(start name version keyFile).steps earlier, content, ?_, asks, ?_, ?_⟩
  · rw [steps_append, steps, awaits.stepsIn_eq]
    rfl
  · exact bridge ▸ awaits.greeted
  · exact congrArg (fun b => b.tasks.length) bridge

/-- A command from socket to socket. When the loop of a connection reads a text with a command, the
method is called at once, for a task of its own; and once the call has ended, the task tells the
connection what came of it. While the loop goes on, what it has written and what is still queued are
the events for the connection in order, the answer among them, and with the writes that are due the
answer is on the socket. -/
theorem command_carried (awaits : ((start name version keyFile).run earlier).1.Awaits link content)
    (asks : Frame.routeOfText? content = some (channel, command)) {outcome : Outcome}
    {more : List Outcome}
    (ends : Bridge.endings ((start name version keyFile).run earlier).1.bridge.tasks.length
      (later.filterMap Move.step?) = outcome :: more) :
    let task := ((start name version keyFile).run earlier).1.bridge.tasks.length
    let (h, seen) := (start name version keyFile).run (earlier ++ reading link :: later)
    let loop := (h.sockets link).loop
    (∃ delivered, Bridge.effectsOf task seen = [.called task (.ofCommand version channel command),
      .emitted task link (command.settle channel outcome) delivered]) ∧
    (loop.running = true → ∃ front back,
      seen.filterMap (Effect.eventFor? link) = front ++ command.settle channel outcome :: back ∧
      loop.written ++ loop.queued.map Event.text =
        (front ++ command.settle channel outcome :: back).map Event.text ∧
      ((h.run (List.replicate loop.queued.length (writing link))).1.sockets link).loop.written =
        (front ++ command.settle channel outcome :: back).map Event.text) := by
  intro task
  dsimp only
  obtain ⟨delivered, effects⟩ := (takesUp_of_awaits awaits asks later).effects
  rw [endings_steps, ends] at effects
  have told : Bridge.effectsOf task
      ((start name version keyFile).run (earlier ++ reading link :: later)).2 =
        [.called task (.ofCommand version channel command),
          .emitted task link (command.settle channel outcome) delivered] := by
    rw [(run_bridge _ _).2]
    exact effects
  refine ⟨⟨delivered, told⟩, fun running => ?_⟩
  have follows := follows_run name version keyFile (earlier ++ reading link :: later) link []
  have greeted : ((start name version keyFile).run
      (earlier ++ reading link :: later)).1.bridge.isGreeted link = true := by
    rw [run_append, (run_bridge _ _).1]
    exact Bridge.run_isGreeted awaits.greeted _
  generalize (start name version keyFile).run (earlier ++ reading link :: later) = after at *
  obtain ⟨h, seen⟩ := after
  have answered : command.settle channel outcome ∈ seen.filterMap (Effect.eventFor? link) := by
    have made := List.mem_of_mem_filter (told ▸ List.mem_cons_of_mem _ (.head _))
    exact List.mem_filterMap.mpr ⟨_, made, if_pos rfl⟩
  obtain ⟨front, back, events⟩ := List.append_of_mem answered
  have frames : (h.sockets link).loop.written ++ (h.sockets link).loop.queued.map Event.text =
      (seen.filterMap (Effect.eventFor? link)).map Event.text := by
    cases follows with
    | going _ _ _ _ frames => exact frames
    | ended ends | failed _ ends => cases running.symm.trans ends
  rw [events] at frames
  exact ⟨front, back, events, frames, (run_writing greeted running rfl).trans frames⟩

end Carried

end Hub

end CommandBridge
