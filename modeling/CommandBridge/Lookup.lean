import CommandBridge.Config.Settings
import CommandBridge.Http.Message
import CommandBridge.Message
import CommandBridge.Outgoing.Fetch
import CommandBridge.Text.Basic

/-! Lookups that the bridge makes on a dashboard's behalf: the newest release, for which it waits as
long as it takes, and the places to push to, for which a silence may last only so long. A lookup
that fails is answered by a word. -/
namespace CommandBridge

inductive LookupError where
  | noCredential
  | silent (limit : Duration)
  | transport (text : String)

namespace LookupError

def text : LookupError → String
  | .noCredential => "no credential stored"
  | .silent limit => "upstream idle for more than " ++ limit.text
  | .transport text => "transport error: " ++ text

def sentinel : LookupError → String
  | .noCredential => "false"
  | .silent _ | .transport _ => "network"

end LookupError

namespace Lookup

/-- What a fetch comes to for a lookup; nothing while it waits. The status of a reply does not
matter. -/
def result? : Fetched → Option (Except LookupError String)
  | .text _ body => some (.ok body)
  | .failed e => some (.error (.transport e.text))
  | .timedOut limit => some (.error (.silent limit))
  | .waiting => none

def unknownVersion : String := "UNKNOWN"

/-- The installed release: what the file for it holds, without the blanks at its end. -/
def versionIn (content : Option Bytes) : String :=
  ((content.bind Utf8.decode?).map fun cs => String.ofList (Text.trimEnd cs)).getD unknownVersion

def versionResponse (current : String) : Except LookupError String → Http.Response
  | .ok newest => .ofText 200 "application-json" (Versions.record.text ⟨current, newest⟩)
  | .error e => .text 200 e.sentinel

def destinationsAddress (settings : Settings) (key : String) : List Char :=
  (settings.accountsScheme ++ "://" ++ settings.accountsHost ++ ":" ++
    Nat.repr settings.accountsPort.toNat ++ "/api/vpc/list/" ++ key).toList

section Lookups
variable (settings : Settings) (encodings : Encodings) (network : Network)

/-- The newest release: the text at the address for it, without its line breaks. -/
def newestVersion : Option (Except LookupError String) × Network :=
  let request := Fetch.request? "GET" settings.versionCheckUrl.toList none none []
  let (fetched, network) := Fetch.runIfBuilt encodings none network request
  let version (body : String) := String.ofList (body.toList.filter (· != '\n'))
  ((result? fetched).map (·.map version), network)

def destinations (key : Option String) : Option (Except LookupError String) × Network :=
  match key with
  | none => (some (.error .noCredential), network)
  | some key =>
    let request := Fetch.request? "GET" (destinationsAddress settings key) none none []
    let (fetched, network) :=
      Fetch.runIfBuilt encodings (some settings.destinationsTimeout) network request
    (result? fetched, network)

end Lookups

def destinationsResponse : Except LookupError String → Http.Response
  | .ok body => .text 200 body
  | .error e => .text 200 e.sentinel

end Lookup

end CommandBridge
