import CommandBridge.Http.Message
import CommandBridge.Payload

/-! What can go wrong in serving a request, told in words, by a number and as an answer. -/
namespace CommandBridge

inductive ServiceError where
  | invalidRequest (text : String)
  | credentialWrite (text : String)
  | upload (failure : Failure)
  | httpClient (text : String)

namespace ServiceError

def text : ServiceError → String
  | .invalidRequest text => "invalid request: " ++ text
  | .credentialWrite text => "could not write credential file: " ++ text
  | .upload failure => "upload failed: " ++ failure.text
  | .httpClient text => "http client error: " ++ text

def code : ServiceError → UInt32
  | .invalidRequest _ => 1001
  | .credentialWrite _ => 3001
  | .httpClient _ => 3002
  | .upload _ => 5001

def status : ServiceError → Nat
  | .invalidRequest _ => 400
  | .credentialWrite _ | .httpClient _ => 500
  | .upload _ => 502

def details : ServiceError → Option Json
  | .upload failure => some failure.value
  | _ => none

def members (e : ServiceError) : Members :=
  [("code", .word e.code), ("message", .string e.text)] ++
    (e.details.map fun v => ("details", v)).toList

/-- The answer to the request. A key that could not be stored is told in plain text. -/
def response (e : ServiceError) : Http.Response :=
  match e with
  | .credentialWrite _ => .text e.status "Error: Could not write credentials file."
  | _ => .ofText e.status "application/json" (Json.object [("error", .object e.members)]).render

end ServiceError

end CommandBridge
