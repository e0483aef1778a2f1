import CommandBridge.Http.Message
import CommandBridge.Text.Percent

/-! Where requests lead, and the document that lists what can be asked. A path leads to a route only
when it is spelled exactly, escapes undecoded; all other paths ask for a page. -/
namespace CommandBridge.Http

inductive Route where
  | version
  | destinations
  | credential
  | upload (segment : List Char)
  | socket

namespace Route

def uploadPrefix : List Char := "/upload/".toList

/-- The route of a path. An archive is named by one segment that is not empty. -/
def ofPath? (path : List Char) : Option Route :=
  if path = "/version".toList then some .version
  else if path = "/destinations".toList then some .destinations
  else if path = "/credential".toList then some .credential
  else if path = "/ws".toList then some .socket
  else
    let segment := path.drop uploadPrefix.length
    if uploadPrefix.isPrefixOf path && !segment.isEmpty && !segment.contains '/' then
      some (.upload segment)
    else none

def lookMethods : String := "GET,HEAD"

def takesIn : Route → Bool
  | .credential | .upload _ => true
  | .version | .destinations | .socket => false

def allowed (r : Route) : String := if r.takesIn then "POST" else lookMethods

def accepts (r : Route) (request : Request) : Bool :=
  if r.takesIn then request.method == "POST" else request.isLook

end Route

def archiveName? (segment : List Char) : Option String :=
  (Utf8.decode? (Percent.decode (Utf8.encode segment))).map String.ofList

structure Operation where
  path : String
  method : String
  id : String
  tags : List String
  statuses : List Nat

namespace Operation

def toJson (o : Operation) : Json :=
  .ofMembers [("path", .string o.path), ("method", .string o.method), ("id", .string o.id),
    ("tags", .array (o.tags.map .string)),
    ("responses", .array (o.statuses.map fun n => .string (Nat.repr n)))]

end Operation

namespace ApiDocument

def title : String := "dashboard-bridge"

def operations : List Operation :=
  [⟨"/credential", "post", "save_credential", ["Credential"], [200, 400, 500]⟩,
    ⟨"/destinations", "get", "destinations_handler", ["System"], [200]⟩,
    ⟨"/upload/\x7bfile\x7d", "post", "upload_archive", ["Upload"], [200, 502]⟩,
    ⟨"/version", "get", "version_handler", ["System"], [200]⟩]

def outline : Json :=
  .ofMembers [("title", .string title), ("routes", .array (operations.map Operation.toJson))]

end ApiDocument

end CommandBridge.Http
