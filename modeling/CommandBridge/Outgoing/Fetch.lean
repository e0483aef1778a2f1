import CommandBridge.Duration
import CommandBridge.Http.MediaType
import CommandBridge.Http.Message
import CommandBridge.Outgoing.Network
import CommandBridge.Text.Charset

/-! Fetching a text over the network: the request is checked, sent, and sent again to where
redirects lead, and the body of the last reply is read in the encoding that it declares. -/
namespace CommandBridge

/-- Why nothing was fetched: there was no request to build, its address is not one that requests go
to, it could not be sent, or its answer could not be read. -/
inductive FetchError where
  | notBuilt
  | unfit (url : Url)
  | sending (url : Url)
  | reading (url : Url)

namespace FetchError

def text : FetchError → String
  | .notBuilt => "builder error"
  | .unfit url => "builder error for url (" ++ String.ofList url.text ++ ")"
  | .sending url => "error sending request for url (" ++ String.ofList url.text ++ ")"
  | .reading url => "error decoding response body for url (" ++ String.ofList url.text ++ ")"

end FetchError

/-- What fetching comes to: a text with its status, a failure, a silence longer than the limit, or,
where there is no limit, a wait without end. -/
inductive Fetched where
  | text (status : Nat) (body : String)
  | failed (error : FetchError)
  | timedOut (limit : Duration)
  | waiting

namespace Fetch

def redirectLimit : Nat := 10

def isHeaderOctet (b : UInt8) : Bool := b = Octet.tab || (0x20 ≤ b && b != 0x7F)

def isHeaderValue (value : String) : Bool := (octets value).all isHeaderOctet

/-- Can requests go to an address? It must be one of the two schemes that they go by, and fit for a
target. -/
def isFit (url : Url) : Bool := url.isHttp && (Http.Target.ofText? url.text).isSome

/-- The request for a text as address. The address must name a host, then the key must be fit for a
header, and then requests must be able to go to the address. Its credentials are not part of it. -/
def request? (method : String) (address : List Char) (apiKey contentType : Option String)
    (body : Bytes) : Except FetchError Outgoing :=
  match Url.parse? address with
  | none => .error .notBuilt
  | some url =>
    if !url.hasHost then .error (.unfit url)
    else if !(apiKey.map isHeaderValue).getD true then .error .notBuilt
    else if !isFit url.withoutCredentials then .error (.unfit url.withoutCredentials)
    else .ok ⟨method, url.withoutCredentials, apiKey, contentType, body⟩

/-- A request as it goes where a redirect leads. All but two statuses turn it into a plain request
for the content there. -/
def redirected (request : Outgoing) (status : Nat) (url : Url) : Outgoing :=
  if status = 307 || status = 308 then { request with url }
  else { request with method := "GET", url, contentType := none, body := [] }

/-- Where a reply redirects to. A value that is no text, or no address that a target can be made of,
leads nowhere. -/
def location? (request : Outgoing) (reply : Reply) : Option Url :=
  if [301, 302, 303, 307, 308].contains reply.status then do
    let value ← reply.header? "location"
    let address ← Utf8.decode? value
    (request.url.parseAt? address).filter fun url => (Http.Target.ofText? url.text).isSome
  else none

/-- The last reply to a request, with the address it came from. -/
inductive Landed where
  | reply (url : Url) (reply : Reply)
  | lost
  | silence

def follow : Nat → Network → Outgoing → Landed × Network
  | left, network, request =>
    match network.deliver request with
    | (.refused, network) => (.lost, network)
    | (.unanswered, network) => (.silence, network)
    | (.replied reply, network) =>
      if reply.status < 100 || 999 < reply.status then (.lost, network)
      else
        match location? request reply with
        | none => (.reply request.url reply, network)
        | some url =>
          match left with
          | 0 => (.lost, network)
          | left + 1 =>
            if isFit url then follow left network (redirected request reply.status url)
            else (.lost, network)

/-- The label of the encoding that a reply declares. A type that is no text declares none. -/
def label? (reply : Reply) : Option String := do
  let value ← reply.header? "content-type"
  let declared ← Http.valueText? value
  let media ← Http.MediaType.ofText? declared
  (media.parameter? "charset").map String.ofList

def charset (encodings : Encodings) (reply : Reply) : Charset :=
  ((label? reply).bind (Charset.ofLabel? encodings)).getD .utf8

def isBodiless (status : Nat) : Bool := status = 101 || status = 204 || status = 304

/-- The octets that a reply brings. There are none where its status leaves no room for a body. -/
def content (reply : Reply) : Bytes := if isBodiless reply.status then [] else reply.body

def bodyText (encodings : Encodings) (reply : Reply) : String :=
  String.ofList ((charset encodings reply).decode (content reply))

def silence : Option Duration → Fetched
  | some limit => .timedOut limit
  | none => .waiting

def brokenLimit? (limit : Option Duration) (reply : Reply) : Option Duration :=
  limit.filter fun limit => limit.milliseconds < reply.pause && !reply.body.isEmpty

section Encoded
variable (encodings : Encodings)

def readBody (limit : Option Duration) (url : Url) (reply : Reply) : Fetched :=
  if isBodiless reply.status then .text reply.status (bodyText encodings reply)
  else
    match brokenLimit? limit reply, reply.bodyEnd with
    | some limit, _ => .timedOut limit
    | none, .whole => .text reply.status (bodyText encodings reply)
    | none, .brokenOff => .failed (.reading url)
    | none, .stalled => silence limit

def run (limit : Option Duration) (network : Network) (request : Outgoing) : Fetched × Network :=
  match follow redirectLimit network request with
  | (.lost, network) => (.failed (.sending request.url), network)
  | (.silence, network) => (silence limit, network)
  | (.reply url reply, network) => (readBody encodings limit url reply, network)

def runIfBuilt (limit : Option Duration) (network : Network)
    (request : Except FetchError Outgoing) : Fetched × Network :=
  match request with
  | .ok request => run encodings limit network request
  | .error e => (.failed e, network)

end Encoded

end Fetch

end CommandBridge
