import CommandBridge.Json.Reader
import CommandBridge.Text.Quoted

/-! Results and failures of backend calls. A result is sorted by its shape, so that the sequences of
records, whose time fields may have to become numbers, and the texts, which may have to be read,
stand apart. -/
namespace CommandBridge

abbrev Members := List (String × Json)

/-- The result of a backend call. A raw result is a text that has not been read as JSON yet. -/
inductive Payload where
  | records (records : List Members)
  | record (members : Members)
  | scalar (value : Json)
  | raw (text : String)

namespace Payload

def object? : Json → Option Members
  | .object members => some members
  | _ => none

/-- Sorts a value by shape: an object is a record, and an array is a sequence of records when it has
items and all of them are objects. -/
def ofJson : Json → Payload
  | .object members => .record members
  | .array items =>
    if !items.isEmpty && items.all fun item => (object? item).isSome then
      .records (items.filterMap object?)
    else .scalar (.array items)
  | v => .scalar v

def parse? (text : String) : Option Json := (Json.read (octets text)).toOption

/-- Reads a raw result and sorts it; a text that is not JSON stays as it is. -/
def decoded : Payload → Payload
  | .raw text =>
    match parse? text with
    | some v => ofJson v
    | none => .raw text
  | p => p

/-- The result as a value. A text that is not JSON is carried as a string. -/
def toJson : Payload → Json
  | .records rs => .array (rs.map .object)
  | .record members => .object members
  | .scalar v => v
  | .raw text => (parse? text).getD (.string text)

def shape : Payload → String
  | .records rs => "records:" ++ Nat.repr rs.length
  | .record _ => "record"
  | .scalar _ => "scalar"
  | .raw _ => "raw"

end Payload

/-- What a backend reports of a call that failed: any value. -/
structure Failure where
  value : Json

namespace Failure

def message (text : String) : Failure := ⟨.string text⟩

def status (code : UInt32) (body : String) : Failure :=
  ⟨.ofMembers [("message", .string body), ("status", .word code)]⟩

/-- The failure of a call that broke off. Calls run as tasks, and the name of the task is told, with
the last words of the call between quotes where it left any. -/
def ofAbort (task : String) (words : Option String) : Failure :=
  .message ("backend call aborted: " ++ ("task " ++ task ++ " panicked" ++
    match words with
    | some text => " with message " ++ Text.quotedForReader text
    | none => ""))

def text (f : Failure) : String := "backend error: " ++ f.value.render

end Failure

/-- How a backend call ends. A call may also break off, with last words or without any; then the
name of its task is known too. -/
inductive Outcome where
  | done (result : Payload)
  | failed (failure : Failure)
  | aborted (task : String) (words : Option String)

end CommandBridge
