import Mathlib
import CommandBridge.Proofs.Frames

/-! The formats of the wire. A thing may be spelled in many ways, and however it was spelled when it
was read, it is written in one way, which is read as the same thing again. -/
namespace CommandBridge

open Json (DoublesReadBack Nested depthLimit)

namespace Json

theorem read_yields {bytes : Bytes} {v : Json} (read : Json.read bytes = .ok v) :
    Nested depthLimit v := by
  obtain ⟨rest, found, -⟩ := of_whole read
  exact readValue_yields found

/-- A type of records that is written as it is read: what stands for a missing field may be written,
no member is nested deeper than the field that it comes of, and a record is the one that its members
are gathered to. -/
structure Record.Faithful {α : Type} (record : Record α) : Prop where
  defaults : DefaultsKeep (depthLimit - 1) record.schema.fields
  nested : ∀ slots, Slots.Keep (depthLimit - 1) record.schema.fields slots →
    ∀ m ∈ record.members (record.ofSlots slots), Nested (depthLimit - 1) m.2
  gathers : ∀ slots, record.Gathers (record.ofSlots slots)

theorem Record.Faithful.read_text {α : Type} {record : Record α} (faithful : record.Faithful)
    {bytes : Bytes} {r : α} (read : record.read bytes = .ok r)
    (doubles : ∀ m ∈ record.members r, DoublesReadBack m.2) :
    record.read (octets (record.text r)) = .ok r := by
  unfold Record.read at read
  cases found : record.schema.read bytes with
  | error e =>
      rw [found] at read
      cases read
  | ok slots =>
      rw [found] at read
      cases read
      have keep := Schema.read_keeps faithful.defaults found
      exact Record.read_text (faithful.gathers slots) (faithful.nested slots keep) doubles

end Json

theorem Frame.faithful : Frame.record.Faithful where
  defaults := by
    refine List.forall_mem_cons.mpr ⟨nofun, List.forall_mem_singleton.mpr ?_⟩
    rintro _ ⟨⟩
    exact .array nofun
  nested := by
    rintro ⟨event, args, _⟩ ⟨-, keep, -⟩
    simp only [Frame.record, List.forall_mem_cons]
    exact ⟨.string event, keep, List.forall_mem_nil _⟩
  gathers slots := Frame.gathers _

theorem Command.faithful : Command.record.Faithful where
  defaults := by
    refine List.forall_mem_cons.mpr ⟨nofun, List.forall_mem_cons.mpr
      ⟨?_, List.forall_mem_singleton.mpr ?_⟩⟩
    · rintro _ ⟨⟩
      exact .null
    · rintro _ ⟨⟩
      exact .null
  nested := by
    rintro ⟨method, params, id, _⟩ ⟨-, keepParams, keepId, -⟩
    simp only [Command.record, List.forall_mem_cons]
    exact ⟨.string method, keepParams, keepId, List.forall_mem_nil _⟩
  gathers slots := rfl

theorem Greeting.faithful : Greeting.record.Faithful where
  defaults := by
    refine List.forall_mem_cons.mpr ⟨nofun, List.forall_mem_cons.mpr
      ⟨nofun, List.forall_mem_singleton.mpr ?_⟩⟩
    rintro _ ⟨⟩
    trivial
  nested := by
    rintro ⟨name, version, credential, _⟩ -
    simp only [Greeting.record, List.forall_mem_cons]
    refine ⟨.string name, .string version, ?_, List.forall_mem_nil _⟩
    cases credential with
    | none => exact .null
    | some key => exact .string key
  gathers := by
    rintro ⟨name, version, credential, _⟩
    cases credential with
    | none => rfl
    | some key => rfl

theorem Answer.faithful : Answer.record.Faithful where
  defaults :=
    List.forall_mem_cons.mpr ⟨nofun, List.forall_mem_cons.mpr
      ⟨nofun, List.forall_mem_singleton.mpr nofun⟩⟩
  nested := by
    rintro ⟨method, params, id, _⟩ ⟨-, keepParams, keepId, -⟩
    simp only [Answer.record, List.forall_mem_cons]
    exact ⟨.string method, keepParams, keepId, List.forall_mem_nil _⟩
  gathers slots := rfl

theorem UploadStatus.faithful : UploadStatus.record.Faithful where
  defaults := by
    refine List.forall_mem_cons.mpr ⟨nofun, List.forall_mem_cons.mpr
      ⟨nofun, List.forall_mem_singleton.mpr ?_⟩⟩
    rintro _ ⟨⟩
    exact .null
  nested := by
    rintro ⟨file, status, error, _⟩ ⟨-, -, keep, -⟩
    cases error with
    | null =>
        simp only [UploadStatus.record, Json.unlessNull]
        exact List.forall_mem_cons.mpr ⟨.string file, List.forall_mem_singleton.mpr
          (.string status)⟩
    | _ =>
        simp only [UploadStatus.record, Json.unlessNull]
        exact List.forall_mem_cons.mpr ⟨.string file, List.forall_mem_cons.mpr ⟨.string status,
          List.forall_mem_singleton.mpr keep⟩⟩
  gathers := by
    rintro ⟨file, status, error, _⟩
    cases error <;> rfl

theorem Versions.faithful : Versions.record.Faithful where
  defaults := List.forall_mem_cons.mpr ⟨nofun, List.forall_mem_singleton.mpr nofun⟩
  nested := by
    rintro ⟨current, newest, _⟩ -
    simp only [Versions.record, List.forall_mem_cons]
    exact ⟨.string current, .string newest, List.forall_mem_nil _⟩
  gathers slots := rfl

theorem Channel.read_toJson (channel : Channel) :
    read (octets channel.toJson.render) = .ok channel := by
  cases channel <;> rfl

theorem Failure.read_render {bytes : Bytes} {failure : Failure}
    (read : (Json.read bytes).map Failure.mk = .ok failure)
    (doubles : DoublesReadBack failure.value) :
    (Json.read (octets failure.value.render)).map Failure.mk = .ok failure := by
  cases found : Json.read bytes with
  | error e =>
      rw [found] at read
      cases read
  | ok v =>
      rw [found] at read
      cases read
      rw [Json.octets_render, Json.read_wire (Json.read_yields found) doubles]
      rfl

inductive Format where
  | frame
  | command
  | greeting
  | answer
  | uploadStatus
  | failure
  | versions
  | channel

namespace Format

abbrev Holds : Format → Type
  | .frame => Frame
  | .command => Command
  | .greeting => Greeting
  | .answer => Answer
  | .uploadStatus => UploadStatus
  | .failure => Failure
  | .versions => Versions
  | .channel => Channel

def read : (format : Format) → Bytes → Except Json.ReadError format.Holds
  | .frame => Frame.record.read
  | .command => Command.record.read
  | .greeting => Greeting.record.read
  | .answer => Answer.record.read
  | .uploadStatus => UploadStatus.record.read
  | .failure => fun bytes => (Json.read bytes).map Failure.mk
  | .versions => Versions.record.read
  | .channel => Channel.read

def text : (format : Format) → format.Holds → String
  | .frame => Frame.record.text
  | .command => Command.record.text
  | .greeting => Greeting.record.text
  | .answer => Answer.record.text
  | .uploadStatus => UploadStatus.record.text
  | .failure => fun failure => failure.value.render
  | .versions => Versions.record.text
  | .channel => fun channel => channel.toJson.render

def values : (format : Format) → format.Holds → List Json
  | .frame => fun f => (Frame.record.members f).map Prod.snd
  | .command => fun c => (Command.record.members c).map Prod.snd
  | .greeting => fun g => (Greeting.record.members g).map Prod.snd
  | .answer => fun a => (Answer.record.members a).map Prod.snd
  | .uploadStatus => fun u => (UploadStatus.record.members u).map Prod.snd
  | .failure => fun failure => [failure.value]
  | .versions => fun v => (Versions.record.members v).map Prod.snd
  | .channel => fun channel => [channel.toJson]

/-- Whatever text a thing was read from, the text that is written for it is read as the thing, and
written again it is the same text. -/
theorem text_canonical (format : Format) {bytes : Bytes} {thing : format.Holds}
    (read : format.read bytes = .ok thing)
    (doubles : ∀ v ∈ format.values thing, DoublesReadBack v) :
    format.read (octets (format.text thing)) = .ok thing ∧
      (format.read (octets (format.text thing))).map format.text = .ok (format.text thing) := by
  have again : format.read (octets (format.text thing)) = .ok thing := by
    cases format with
    | frame => exact Frame.faithful.read_text read (List.forall_mem_map.mp doubles)
    | command => exact Command.faithful.read_text read (List.forall_mem_map.mp doubles)
    | greeting => exact Greeting.faithful.read_text read (List.forall_mem_map.mp doubles)
    | answer => exact Answer.faithful.read_text read (List.forall_mem_map.mp doubles)
    | uploadStatus => exact UploadStatus.faithful.read_text read (List.forall_mem_map.mp doubles)
    | versions => exact Versions.faithful.read_text read (List.forall_mem_map.mp doubles)
    | failure => exact Failure.read_render read (doubles _ List.mem_cons_self)
    | channel => exact Channel.read_toJson thing
  rw [again]
  exact ⟨rfl, rfl⟩

theorem read_half : Json.read (octets "5e-1") = .ok (.number (.double .half)) := by
  have spelled : octets "5e-1" = [0x35, 0x65, 0x2D, 0x31] := by decide
  have numeral : Json.readNumeral false [0x35, 0x65, 0x2D, 0x31] =
      .ok (⟨false, [0x35], [], some (-1)⟩, []) := by
    cbv
  have value : (Json.Numeral.mk false [0x35] [] (some (-1))).number? =
    some (.double .half) := by decide +kernel
  rw [spelled, Json.read, Json.readValue_isDigit (by decide), Json.readNumber, numeral]
  simp only [bind, Except.bind, value]
  rfl

/-- A frame in the form of an array, with an escape in its event and a member that stands twice. -/
def spelledFrame : String := "[ \"f\\u0061r\", [\x7b\"b\":\"1\", \"a\":[], \"b\":\"2\"\x7d] ]"

def plainFrame : Frame := ⟨"far", [.object [("a", .array []), ("b", .string "2")]]⟩

theorem read_spelledFrame : Frame.record.read (octets spelledFrame) = .ok plainFrame := by cbv

/-- A failure that is a double and a frame, neither of them spelled as it is written. -/
theorem text_canonical_spelled :
    (Format.failure.read (octets "5e-1") = .ok ⟨.number (.double .half)⟩ ∧
      DoublesReadBack (.number (.double .half)) ∧
      Format.failure.read (octets (Format.failure.text ⟨.number (.double .half)⟩)) =
        .ok ⟨.number (.double .half)⟩) ∧
    Format.frame.read (octets spelledFrame) = .ok plainFrame ∧
      (∀ v ∈ Format.frame.values plainFrame, DoublesReadBack v) ∧
      Format.frame.read (octets (Format.frame.text plainFrame)) = .ok plainFrame := by
  constructor
  · have read : Format.failure.read (octets "5e-1") = .ok ⟨.number (.double .half)⟩ := by
      change (Json.read (octets "5e-1")).map Failure.mk = _
      rw [read_half]
      rfl
    have doubles : DoublesReadBack (.number (.double .half)) := by
      rintro d ⟨⟩
      exact Number.readsBack_half
    exact ⟨read, doubles, (text_canonical .failure read (List.forall_mem_singleton.mpr doubles)).1⟩
  · have doubles : ∀ v ∈ Format.frame.values plainFrame, DoublesReadBack v := by
      refine List.forall_mem_cons.mpr ⟨Json.doublesReadBack_string "far",
        List.forall_mem_singleton.mpr ?_⟩
      refine Json.doublesReadBack_array (List.forall_mem_singleton.mpr
        (Json.doublesReadBack_object ?_))
      refine List.forall_mem_cons.mpr ⟨?_, List.forall_mem_singleton.mpr
        (Json.doublesReadBack_string "2")⟩
      exact Json.doublesReadBack_array (List.forall_mem_nil _)
    exact ⟨read_spelledFrame, doubles, (text_canonical .frame read_spelledFrame doubles).1⟩

end Format

end CommandBridge
