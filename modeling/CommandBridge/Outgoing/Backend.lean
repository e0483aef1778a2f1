import CommandBridge.Message
import CommandBridge.Outgoing.Fetch

/-! A backend that is reached over the network: a call is a request to the address of its channel,
an archive a request to an address of its own, and the current key goes along. -/
namespace CommandBridge.RemoteBackend

def base (address : String) : List Char := (address.toList.reverse.dropWhile (· == '/')).reverse

def path : Call → List Char
  | .invoke channel _ _ _ => '/' :: channel.name.toList
  | .upload account file _ => ("/upload/" ++ account ++ "/" ++ file).toList

def contentType : Call → Option String
  | .invoke .. => some "application/json"
  | .upload .. => none

def body : Call → Bytes
  | .invoke _ context method params =>
    (Json.object [("context", .string context), ("method", .string method),
      ("params", params)]).wire
  | .upload _ _ archive => archive

def request (address : String) (key : Option String) (call : Call) : Except FetchError Outgoing :=
  Fetch.request? "POST" (base address ++ path call) key (contentType call) (body call)

def outcome? : Fetched → Option Outcome
  | .text status body =>
    some (if 200 ≤ status && status < 300 then .done (.raw body)
      else .failed (.status status.toUInt32 body))
  | .failed e => some (.failed (.message e.text))
  | .timedOut _ | .waiting => none

end CommandBridge.RemoteBackend
