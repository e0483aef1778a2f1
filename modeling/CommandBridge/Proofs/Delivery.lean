import CommandBridge.Proofs.Dropping

/-! What the loop of a connection delivers. The messages from the other side and the events for it
come in any order, and any write may fail. Frames are written in the order of the queue and texts
are handed on in the order in which they were sent, up to the one point at which the loop ends. -/
namespace CommandBridge

namespace Incoming

def text? : Incoming → Option String
  | .text content => some content
  | _ => none

def ends : Incoming → Bool
  | .close | .failure | .ended => true
  | _ => false

/-- A message that is neither a text nor the end of anything. -/
inductive Idle : Incoming → Prop
  | binary : Idle .binary
  | ping : Idle .ping
  | pong : Idle .pong

def textsBeforeEnd (messages : List Incoming) : List String :=
  (messages.takeWhile fun m => !m.ends).filterMap text?

end Incoming

def Turn.Idle (t : Turn) : Prop := ∃ message, t = .read message ∧ message.Idle

namespace Dialogue

def FailsAt (d : Dialogue) (o : Occasion) : Prop :=
  o = .write false ∧ d.loop.running = true ∧ d.loop.queued ≠ []

def Fails (d : Dialogue) (occasions : List Occasion) : Prop :=
  ∃ before o after, occasions = before ++ o :: after ∧ (d.run before).FailsAt o

/-- How far a loop has come, told by the messages sent to it and the events queued for it. While it
goes on, the messages that it has read are followed by the ones that it has not, and the frames that
it has written by the events that it has not. -/
inductive Reached (messages : List Incoming) (events : List Event) (failed : Prop) (d : Dialogue) :
    Prop
  | going {gone : List Incoming} : d.loop.running = true → messages = gone ++ d.unread →
      (∀ m ∈ gone, m.ends = false) → d.loop.handled = gone.filterMap Incoming.text? →
      d.loop.written ++ d.loop.queued.map Event.text = events.map Event.text →
      Reached messages events failed d
  | ended : d.loop.running = false → d.loop.written <+: events.map Event.text →
      d.loop.handled = Incoming.textsBeforeEnd messages → Reached messages events failed d
  | failed : failed → d.loop.running = false → d.loop.written <+: events.map Event.text →
      d.loop.handled <+: Incoming.textsBeforeEnd messages → Reached messages events failed d

end Dialogue

namespace Incoming

theorem textsBeforeEnd_append {gone : List Incoming} (goesOn : ∀ m ∈ gone, m.ends = false)
    (rest : List Incoming) :
    textsBeforeEnd (gone ++ rest) = gone.filterMap text? ++ textsBeforeEnd rest := by
  have all : ∀ m ∈ gone, (!m.ends) = true := fun m within => by rw [goesOn m within]; rfl
  rw [textsBeforeEnd, List.takeWhile_append_of_pos all, List.filterMap_append, textsBeforeEnd]

theorem textsBeforeEnd_cons_of_ends {m : Incoming} (ends : m.ends = true) (rest : List Incoming) :
    textsBeforeEnd (m :: rest) = [] := by
  rw [textsBeforeEnd, List.takeWhile_cons_of_neg (by simp [ends])]
  rfl

end Incoming

namespace Connection

theorem turn_of_ended {c : Connection} (ended : c.running = false) (t : Turn) : c.turn t = c := by
  simp [turn, ended]

theorem run_of_interspersed_idle {few many : List Turn} (more : Interspersed Turn.Idle few many)
    (c : Connection) : c.run many = c.run few := by
  induction more generalizing c with
  | nil => rfl
  | kept t _ ih => exact ih (c.turn t)
  | @extra few many t idle _ ih =>
      have same : c.turn t = c := by
        obtain ⟨message, rfl, idle⟩ := idle
        cases idle <;> simp [turn, read]
      exact (congrArg (fun c => c.run many) same).trans (ih c)

end Connection

namespace Dialogue

theorem run_concat (d : Dialogue) (occasions : List Occasion) (o : Occasion) :
    d.run (occasions ++ [o]) = (d.run occasions).step o := List.foldl_concat ..

theorem step_of_ended {d : Dialogue} (ended : d.loop.running = false) (o : Occasion) :
    d.step o = d := by
  obtain ⟨loop, unread⟩ := d
  have stays : loop.running = false := ended
  cases o <;> simp only [step, Connection.turn_of_ended stays, stays, Bool.false_eq_true, if_false]

theorem run_of_ended {d : Dialogue} (ended : d.loop.running = false) (more : List Occasion) :
    d.run more = d := by
  induction more with
  | nil => rfl
  | cons o rest ih => exact (congrArg (fun d => d.run rest) (step_of_ended ended o)).trans ih

theorem written_step {d : Dialogue} {event : Event} {rest : List Event}
    (running : d.loop.running = true) (queued : d.loop.queued = event :: rest) :
    (d.step (.write true)).loop.written = d.loop.written ++ [event.text] := by
  simp [step, turn, Connection.turn, Connection.write, running, queued]

theorem frames_grow (events more : List Event) :
    events.map Event.text <+: (events ++ more).map Event.text :=
  ⟨_, (List.map_append ..).symm⟩

section Step

variable {messages : List Incoming} {events : List Event} {failed : Prop} {d : Dialogue}

/-- A loop that goes on reads the next message, or that there is none. -/
theorem Reached.read {gone : List Incoming} (running : d.loop.running = true)
    (sent : messages = gone ++ d.unread) (goesOn : ∀ m ∈ gone, m.ends = false)
    (handled : d.loop.handled = gone.filterMap Incoming.text?)
    (told : d.loop.written ++ d.loop.queued.map Event.text = events.map Event.text) :
    Reached messages events failed (d.step .read) := by
  obtain ⟨⟨queued, texts, written, runs⟩, unread⟩ := d
  obtain rfl : runs = true := running
  obtain rfl : texts = gone.filterMap Incoming.text? := handled
  have front : written <+: events.map Event.text := ⟨_, told⟩
  cases unread with
  | nil =>
      refine .ended rfl front ?_
      rw [sent, Incoming.textsBeforeEnd_append goesOn]
      exact (List.append_nil _).symm
  | cons m rest =>
      have split :
        messages = (gone ++ [m]) ++ rest := by rw [sent, List.append_assoc, List.singleton_append]
      cases ends : m.ends with
      | true =>
          have all : gone.filterMap Incoming.text? = Incoming.textsBeforeEnd messages := by
            rw [sent, Incoming.textsBeforeEnd_append goesOn,
              Incoming.textsBeforeEnd_cons_of_ends ends, List.append_nil]
          cases m with
          | close | failure | ended => exact .ended rfl front all
          | text | binary | ping | pong => cases ends
      | false =>
          have goesOn' := List.forall_mem_append.mpr ⟨goesOn, List.forall_mem_singleton.mpr ends⟩
          cases m with
          | text content =>
              have more : (gone ++ [Incoming.text content]).filterMap Incoming.text? =
                  gone.filterMap Incoming.text? ++ [content] := List.filterMap_append ..
              exact .going rfl split goesOn' more.symm told
          | binary | ping | pong =>
              exact .going rfl split goesOn' ((List.filterMap_append ..).trans
                (List.append_nil _)).symm told
          | close | failure | ended => cases ends

/-- A loop that goes on writes the first event in its queue, if there is one, unless the write
fails. -/
theorem Reached.write {gone : List Incoming} (running : d.loop.running = true)
    (sent : messages = gone ++ d.unread) (goesOn : ∀ m ∈ gone, m.ends = false)
    (handled : d.loop.handled = gone.filterMap Incoming.text?)
    (told : d.loop.written ++ d.loop.queued.map Event.text = events.map Event.text)
    {succeeds : Bool} (fails : succeeds = false → d.loop.queued ≠ [] → failed) :
    Reached messages events failed (d.step (.write succeeds)) := by
  obtain ⟨⟨queued, texts, written, runs⟩, unread⟩ := d
  obtain rfl : runs = true := running
  cases queued with
  | nil => exact .going rfl sent goesOn handled told
  | cons event rest =>
      cases succeeds with
      | true => exact .going rfl sent goesOn handled ((List.append_assoc ..).trans told)
      | false =>
          refine .failed (fails rfl (List.cons_ne_nil _ _))
            rfl ⟨_, told⟩ ⟨Incoming.textsBeforeEnd unread, ?_⟩
          rw [sent, Incoming.textsBeforeEnd_append goesOn]
          exact congrArg (· ++ _) handled

theorem Reached.step (reached : Reached messages events failed d) {o : Occasion}
    (fails : d.FailsAt o → failed) :
    Reached messages (events ++ o.event?.toList) failed (d.step o) := by
  cases reached with
  | going running sent goesOn handled told =>
      cases o with
      | queue event =>
          obtain ⟨⟨queued, texts, written, runs⟩, unread⟩ := d
          obtain rfl : runs = true := running
          refine .going rfl sent goesOn handled ?_
          rw [List.map_append, ← told, List.append_assoc]
          exact congrArg (written ++ ·) (List.map_append ..)
      | read => exact (List.append_nil events).symm ▸ .read running sent goesOn handled told
      | write succeeds =>
          refine (List.append_nil events).symm ▸ .write running sent goesOn handled told ?_
          rintro rfl filled
          exact fails ⟨rfl, running, filled⟩
  | ended ended written handled =>
      rw [step_of_ended ended]
      exact .ended ended (written.trans (frames_grow events _)) handled
  | failed failed ended written handled =>
      rw [step_of_ended ended]
      exact .failed failed ended (written.trans (frames_grow events _)) handled

end Step

theorem Fails.concat {d : Dialogue} {occasions : List Occasion} (fails : d.Fails occasions)
    (o : Occasion) :
    d.Fails (occasions ++ [o]) := by
  obtain ⟨before, failing, after, rfl, failsAt⟩ := fails
  exact ⟨before, failing, after ++ [o], by simp, failsAt⟩

theorem Reached.weaken {messages : List Incoming} {events : List Event} {failed failed' : Prop}
    {d : Dialogue} (reached : Reached messages events failed d) (weaker : failed → failed') :
    Reached messages events failed' d := by
  cases reached with
  | going running sent goesOn handled told => exact .going running sent goesOn handled told
  | ended ended written handled => exact .ended ended written handled
  | failed fails ended written handled => exact .failed (weaker fails) ended written handled

/-- Whatever the order in which a loop reads and writes, it has always come somewhere. -/
theorem reached (messages : List Incoming) (occasions : List Occasion) :
    Reached messages (occasions.filterMap Occasion.event?) ((start messages).Fails occasions)
      ((start messages).run occasions) := by
  -- From the last occasion on, since whether a write has failed is said of all that came before it.
  induction occasions using List.reverseRecOn with
  | nil => exact .going rfl (List.nil_append _).symm (List.forall_mem_nil _) rfl rfl
  | append_singleton occasions o ih =>
      have farther := (ih.weaken fun fails => fails.concat o).step
        fun failsAt => ⟨occasions, o, [], rfl, failsAt⟩
      rw [run_concat, List.filterMap_append]
      cases o <;> exact farther

/-- The loop of a connection delivers in order and stops cleanly, whatever is sent and queued, in
whichever order it reads and writes and whichever write fails. The frames written are the texts of
the first events queued; while the loop goes on, the others are still in the queue, and the next
write takes the first of them. The texts handed on are the first texts sent before anything that
ends the loop: all of them unless a write failed, once the loop has ended or nothing is left to
read. Idle messages change nothing. Behind its end the loop reads, hands on and writes nothing. -/
theorem delivers_in_order (messages : List Incoming) (occasions : List Occasion) :
    let d := (start messages).run occasions
    let frames := (occasions.filterMap Occasion.event?).map Event.text
    d.loop.written <+: frames ∧
    (d.loop.running = true → d.loop.written ++ d.loop.queued.map Event.text = frames ∧
      ∀ event rest, d.loop.queued = event :: rest →
        (d.step (.write true)).loop.written = d.loop.written ++ [event.text]) ∧
    d.loop.handled <+: Incoming.textsBeforeEnd messages ∧
    (d.loop.running = true → ∃ gone, messages = gone ++ d.unread ∧ (∀ m ∈ gone, m.ends = false) ∧
      d.loop.handled = gone.filterMap Incoming.text?) ∧
    (¬ (start messages).Fails occasions → d.loop.running = false ∨ d.unread = [] →
      d.loop.handled = Incoming.textsBeforeEnd messages) ∧
    (∀ (c : Connection) {few many : List Turn}, Interspersed Turn.Idle few many →
      c.run many = c.run few) ∧
    (d.loop.running = false → ∀ more, d.run more = d) := by
  intro d frames
  have idle :=
      fun (c : Connection) {few many : List Turn} (more : Interspersed Turn.Idle few many) =>
    Connection.run_of_interspersed_idle more c
  have stops := fun (ended : d.loop.running = false) more => run_of_ended ended more
  have reached : Reached messages (occasions.filterMap Occasion.event?)
      ((start messages).Fails occasions) d :=
    reached messages occasions
  cases reached with
  | going running sent goesOn handled told =>
      have all := Incoming.textsBeforeEnd_append goesOn d.unread
      rw [← sent, ← handled] at all
      refine ⟨⟨_, told⟩, fun _ => ⟨told, fun event rest queued => written_step running queued⟩,
        ⟨_, all.symm⟩, fun _ => ⟨_, sent, goesOn, handled⟩, ?_, idle, stops⟩
      rintro - (ended | read)
      · cases running.symm.trans ended
      · rw [all, read]
        exact (List.append_nil _).symm
  | ended ended written handled =>
      have stands : d.loop.running ≠ true := by simp [ended]
      exact ⟨written, fun running => absurd running stands, handled ▸ List.prefix_rfl,
        fun running => absurd running stands, fun _ _ => handled, idle, stops⟩
  | failed fails ended written handled =>
      have stands : d.loop.running ≠ true := by simp [ended]
      exact ⟨written, fun running => absurd running stands, handled,
        fun running => absurd running stands, fun whole => absurd fails whole, idle, stops⟩

/-- A loop that reads two texts, a ping between them, and a close, while one of two events is
written. -/
theorem delivers_in_order_closed :
    let messages : List Incoming := [.text "a", .ping, .text "b", .close, .text "c"]
    let env : Event := .env ⟨"local", "v2", none⟩
    let report : Event := .upload ⟨"app.jar", "deployed", none⟩
    let occasions : List Occasion :=
      [.queue env, .read, .write true, .read, .read, .queue report, .read]
    let d := (start messages).run occasions
    ¬ (start messages).Fails occasions ∧ d.loop.running = false ∧ d.loop.handled = ["a", "b"] ∧
      d.loop.written <+: [env.text, report.text] ∧ d.run [.read, .write true] = d := by
  intro messages env report occasions d
  have whole : ¬ (start messages).Fails occasions := by
    rintro ⟨before, o, after, split, rfl, -⟩
    have within : Occasion.write false ∈ occasions := split ▸ List.mem_append_right _ (.head _)
    simp [occasions] at within
  obtain ⟨written, -, -, -, all, -, stops⟩ := delivers_in_order messages occasions
  exact ⟨whole, rfl, all whole (.inl rfl), written, stops rfl _⟩

end Dialogue

end CommandBridge
