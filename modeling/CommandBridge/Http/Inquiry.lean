import CommandBridge.Http.Handshake
import CommandBridge.Http.Route

/-! What a request asks of the bridge, once its method and path are known. Every answer may be read
by any page, and a question whether a request may be made is answered yes, whatever it asks for. -/
namespace CommandBridge.Http

namespace Sharing

def isQuestion (r : Request) : Bool := r.method == "OPTIONS"

def varying : String := "origin, access-control-request-method, access-control-request-headers"

def headers (r : Request) : List (String × String) :=
  (if isQuestion r then
      [("access-control-allow-headers", "*"), ("access-control-allow-methods", "*"),
        ("access-control-allow-origin", "*")]
    else [("access-control-allow-origin", "*"), ("access-control-expose-headers", "*")]) ++
  [("vary", varying)]

end Sharing

inductive Inquiry where
  | answered (response : Response)
  | version
  | destinations
  | key
  | upload (file : String) (archive : Bytes)
  | page

namespace Inquiry

def permission (r : Request) : Response :=
  { Response.empty 200 with allow := (Route.ofPath? r.path).map (·.allowed) }

def onRoute (r : Request) : Route → Inquiry
  | .version => .version
  | .destinations => .destinations
  | .credential => .key
  | .upload segment =>
    match archiveName? segment with
    | some file => .upload file r.body
    | none => .answered (.text 400 "Invalid URL: Invalid UTF-8 in `file`")
  | .socket => .answered (Handshake.response r false)

/-- What a request asks for. There is no live connection beneath it. -/
def ofRequest (r : Request) : Inquiry :=
  if Sharing.isQuestion r then .answered (permission r)
  else
    match Route.ofPath? r.path with
    | none => .page
    | some route =>
        if route.accepts r then onRoute r route else .answered (.notAllowed route.allowed)

end Inquiry

end CommandBridge.Http
