import CommandBridge.Proofs.Json.NumberText
import CommandBridge.Proofs.Tasks

/-! The error slot of an answer. A failure is told as it is, and null stands in the slot of a
success, so a failure that is itself null is told like a success; every other failure is told apart
from all successes. -/
namespace CommandBridge

def Outcome.failure? : Outcome → Option Failure
  | .done _ => none
  | .failed failure => some failure
  | .aborted task words => some (.ofAbort task words)

def Event.answerHead : String := "\x7b\"event\":\"exec\",\"args\":["

/-- What stands in the error slot. -/
def Event.slot (error : Option Failure) : Json := (error.map Failure.value).getD .null

theorem Event.slot_eq_null (outcome : Outcome) :
    slot outcome.failure? = .null ↔ (∃ result, outcome = .done result) ∨
      outcome = .failed ⟨.null⟩ := by
  constructor
  · intro null
    cases outcome with
    | done result => exact .inl ⟨result, rfl⟩
    | failed failure =>
        obtain ⟨v⟩ := failure
        cases null
        exact .inr rfl
    | aborted task words => cases null
  · rintro (⟨result, rfl⟩ | rfl)
    · rfl
    · rfl

theorem Event.text_exec (error : Option Failure) (answer : Answer) :
    (Event.exec error answer).text.toList =
      answerHead.toList ++
        ((slot error).text ++ ',' :: ((Answer.record.toJson answer).text ++ [']', '}'])) := by
  simp [Event.text, Event.frame, Frame.text, Json.Record.text, Frame.record, Json.render, Json.text,
    Json.membersText, Json.itemsText, Json.quoted, slot, answerHead, Json.escape]

theorem Command.settle_eq (command : Command) (channel : Channel) (outcome : Outcome) :
    ∃ params, command.settle channel outcome =
      .exec outcome.failure? ⟨command.method, params, command.id⟩ := by
  cases outcome <;> exact ⟨_, rfl⟩

theorem Json.text_cons_of_ne {v : Json} (other : v ≠ .null) :
    ∃ c tail, v.text = c :: tail ∧ c ≠ 'n' := by
  cases v with
  | null => exact absurd rfl other
  | bool b =>
      cases b with
      | true => exact ⟨'t', _, rfl, by decide⟩
      | false => exact ⟨'f', _, rfl, by decide⟩
  | number n =>
      cases digits : numberText n with
      | nil => exact absurd digits (numberText_ne_nil n)
      | cons c tail =>
          refine ⟨c, tail, digits, ?_⟩
          rintro rfl
          have numeric := isNumeric_numberText n 'n' (digits ▸ List.mem_cons_self)
          exact absurd numeric (by simp [IsNumeric])
  | string s => exact ⟨'"', _, rfl, by decide⟩
  | array items =>
      cases items with
      | nil => exact ⟨'[', _, rfl, by decide⟩
      | cons v items => exact ⟨'[', _, rfl, by decide⟩
  | object members =>
      cases members with
      | nil => exact ⟨'\x7b', _, rfl, by decide⟩
      | cons m members => exact ⟨'\x7b', _, rfl, by decide⟩

/-- Answers of one text are alike in that their error slot is null. -/
theorem Event.slot_eq_null_of_text {error error' : Option Failure} {answer answer' : Answer}
    (same : (Event.exec error answer).text = (Event.exec error' answer').text)
    (null : slot error = .null) :
    slot error' = .null := by
  by_contra other
  obtain ⟨c, tail, front, notN⟩ := Json.text_cons_of_ne other
  have texts := congrArg String.toList same
  -- Behind the common head each text goes on with its slot, and none but null begins with this
  -- letter.
  rw [text_exec, text_exec, null, front] at texts
  have heads := List.append_cancel_left texts
  simp only [Json.text, List.cons_append, List.cons.injEq] at heads
  exact notN heads.1.symm

namespace Bridge

/-- The answer to a command whose call ends, in any state in which it is pending. Its error slot,
which comes first in its text, is null if the call succeeded or failed with null, and in no other
case. In these cases alone the text is one that a success may have. -/
theorem slot_null_iff {b : Bridge} {task link : Nat} {channel : Channel} {command : Command}
    (pending : b.tasks[task]? = some (.commanding link channel command)) (outcome : Outcome) :
    ∃ event slot told,
      (b.step (.endCall task outcome)).2 = [.emitted task link event (b.isOpen link)] ∧
      event.frame = ⟨"exec", [slot, told]⟩ ∧
      event.text.toList = Event.answerHead.toList ++
        (slot.text ++ ',' :: (told.text ++ [']', '}'])) ∧
      (slot = .null ↔ (∃ result, outcome = .done result) ∨ outcome = .failed ⟨.null⟩) ∧
      ((∃ channel' command' result, (Command.settle command' channel' (.done result)).text =
        event.text) ↔
        (∃ result, outcome = .done result) ∨ outcome = .failed ⟨.null⟩) := by
  obtain ⟨params, settled⟩ := command.settle_eq channel outcome
  refine ⟨command.settle channel outcome, Event.slot outcome.failure?,
    Answer.record.toJson ⟨command.method, params, command.id⟩, ?_, ?_, ?_, ?_, ?_⟩
  · rw [step_endCall_of_commanding pending]
    rfl
  · rw [settled]
    rfl
  · rw [settled, Event.text_exec]
  · exact Event.slot_eq_null outcome
  · constructor
    · rintro ⟨channel', command', result, same⟩
      obtain ⟨params', settled'⟩ := command'.settle_eq channel' (.done result)
      rw [settled, settled'] at same
      exact (Event.slot_eq_null outcome).mp (Event.slot_eq_null_of_text same rfl)
    · rintro (⟨result, rfl⟩ | rfl)
      · exact ⟨channel, command, result, rfl⟩
      · exact ⟨channel, command, .scalar .null, rfl⟩

/-- A command on the gateway that has been taken up at the start, and its call fails with a text. -/
theorem slot_null_iff_refused :
    let stop : Command := ⟨"stop", .null, .string "7"⟩
    let b := ((start "local" "v2" none).dispatch 0 .gateway stop).1
    b.tasks[0]? = some (.commanding 0 .gateway stop) ∧
      ∃ event slot told,
        (b.step (.endCall 0 (.failed (.message "gone")))).2 = [.emitted 0 0 event (b.isOpen 0)] ∧
        event.frame = ⟨"exec", [slot, told]⟩ ∧ slot ≠ .null ∧
        ∀ channel' command' result, (Command.settle command' channel' (.done result)).text ≠
            event.text := by
  intro stop b
  have pending : b.tasks[0]? = some (.commanding 0 .gateway stop) := rfl
  have failed : ¬ ((∃ result, Outcome.failed (.message "gone") = .done result) ∨
      Outcome.failed (.message "gone") = .failed ⟨.null⟩) := by
    rintro (⟨_, done⟩ | null)
    · cases done
    · cases null
  refine ⟨pending, ?_⟩
  obtain ⟨event, slot, told, sent, frame, -, null, alike⟩ :=
    slot_null_iff pending (.failed (.message "gone"))
  refine ⟨event, slot, told, sent, frame, fun same => failed (null.mp same), ?_⟩
  intro channel' command' result same
  exact failed (alike.mp ⟨channel', command', result, same⟩)

end Bridge

/-- Null in the error slot does not tell a success: a call that fails with null is told like one
that succeeds with null. -/
theorem null_slot_ambiguous : ¬ ∀ (channel : Channel) (command : Command) (outcome : Outcome),
    ((command.settle channel outcome).frame.args.head? = some .null ↔
      ∃ result, outcome = .done result) ∧
    ((¬ ∃ result, outcome = .done result) →
      ∀ result, (command.settle channel outcome).text ≠
        (command.settle channel (.done result)).text) := by
  intro tells
  obtain ⟨_, done⟩ := (tells .far ⟨"list", .null, .string "7"⟩ (.failed ⟨.null⟩)).1.mp rfl
  cases done

end CommandBridge
