import CommandBridge.Http.MediaType
import CommandBridge.Http.Message
import CommandBridge.Message
import CommandBridge.Text.Percent

/-! Requests that hand over a key, as JSON or as a form, and what can be wrong with them. -/
namespace CommandBridge

inductive KeyPostError where
  | notJson
  | notForm
  | tooLong
  | json (error : Json.ReadError) (body : Bytes)
  | form (fault : Json.Fault)

namespace KeyPostError

def text : KeyPostError → String
  | .notJson => "Expected request with `Content-Type: application/json`"
  | .notForm => "Form requests must have `Content-Type: application/x-www-form-urlencoded`"
  | .tooLong => "Failed to buffer the request body: length limit exceeded"
  | .json error body =>
    (match error.fault.kind with
      | .mistyped => "Failed to deserialize the JSON body into the target type: "
      | .ended | .malformed => "Failed to parse the request body as JSON: ") ++ error.message body
  | .form fault => "Failed to deserialize form body: " ++ fault.text

end KeyPostError

namespace KeyPost

def jsonType : List Char := "application/json".toList

def formType : List Char := "application/x-www-form-urlencoded".toList

def bodyLimit : Nat := 2097152

def memberName : String := "apiKey"

def ofPairs (pairs : List (String × String)) : Except Json.Fault KeyPost :=
  match pairs.filter fun p => p.1 == memberName with
  | [] => .error (.missingField memberName)
  | [(_, key)] => .ok ⟨key⟩
  | _ => .error (.duplicateField memberName)

def ofJsonBody (contentType : List Char) (body : Bytes) : Except KeyPostError KeyPost :=
  if !((Http.MediaType.ofText? contentType).map (·.isJson)).getD false then .error .notJson
  else if bodyLimit < body.length then .error .tooLong
  else
    match record.read body with
    | .ok post => .ok post
    | .error e => .error (.json e body)

def ofFormBody (contentType : List Char) (body : Bytes) : Except KeyPostError KeyPost :=
  if !formType.isPrefixOf contentType then .error .notForm
  else if bodyLimit < body.length then .error .tooLong
  else
    match ofPairs (Form.pairs body) with
    | .ok post => .ok post
    | .error fault => .error (.form fault)

/-- The key that a request hands over. A body is taken for JSON when its declared type begins so. -/
def ofRequest (r : Http.Request) : Except KeyPostError KeyPost :=
  let contentType := (r.headerText? "content-type").getD []
  if jsonType.isPrefixOf contentType then ofJsonBody contentType r.body
  else ofFormBody contentType r.body

end KeyPost

end CommandBridge
