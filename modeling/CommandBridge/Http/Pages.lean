import CommandBridge.FileTree
import CommandBridge.Http.FileType
import CommandBridge.Http.Instant
import CommandBridge.Http.Range
import CommandBridge.Http.Route

/-! The pages of a dashboard, served from a directory: all of a file, one part of it, or word that
it has not changed. -/
namespace CommandBridge.Http.Pages

def steps? (path : List Char) : Option (List String) := do
  let decoded ← Utf8.decode? (Percent.decode (Utf8.encode (path.dropWhile (· == '/'))))
  let steps := FileTree.steps decoded
  if decoded.head? = some '/' || steps.contains ".." then none else some steps

/-- What a request wants to hear of a file that was last written at a given second: nothing, because
its conditions rule the file out or because it has the file already, or as much of it as it asks
for. -/
inductive Wish where
  | failed
  | unchanged
  | content

/-- The wish of a request. A date that cannot be read sets no condition. -/
def Wish.of (r : Request) (written : Nat) : Wish :=
  let date? (name : String) : Option Nat :=
    ((r.header? name).bind Instant.ofHeader?).map (·.seconds)
  if (date? "if-unmodified-since").any (· < written) then .failed
  else if (date? "if-modified-since").any (written ≤ ·) then .unchanged
  else .content

/-- What is answered to a request for parts of a thing of a number of octets. Only one part is
served at a time. -/
def parts (size : Nat) (content : Bytes) (range : List Char) : Response :=
  match Range.allBounds? size range with
  | some [(first, last)] =>
    { Response.empty 206 with body := (content.drop first).take (last + 1 - first) }
  | some _ => { Response.empty 416 with body := octets "Cannot serve multipart range requests" }
  | none => .empty 416

def directorySize : Nat := 4096

/-- The thing at a place, as far as the request asks for it. A directory can be asked for too, but
nothing can be read from it. -/
def thing (written : Nat) (place : Place) (node : Node) (r : Request) : Response :=
  match Wish.of r written with
  | .failed => .empty 412
  | .unchanged => .empty 304
  | .content =>
    let (size, content) := match node with
      | .file content => (content.length, content)
      | .directory => (directorySize, [])
    let answer := match r.headerText? "range" with
      | some range => parts size content range
      | none => { Response.empty 200 with body := content }
    { answer with contentType := some (FileType.ofName (place.getLastD "")) }

/-- What is answered where a path leads nowhere. A sign that stands in no path is known for a
mistake of the asker only where the thing is to be opened, not where just its head is looked at. -/
def lacking (r : Request) : Lack → Response
  | .missing => .empty 404
  | .nulWithin => .empty (if r.method == "HEAD" then 500 else 404)
  | .overlong => .empty 500

def found (files : FileTree) (written : Nat) (working : Place) (path : List Char) (r : Request) :
    Response :=
  match files.resolve working path with
  | .error lack => lacking r lack
  | .ok place =>
    match files.node? place with
    | some node => thing written place node r
    | none => lacking r .missing

/-- The page that a request looks for in a directory, if there is one at its place. A directory is
asked for with a slash at the end, and shows its index. -/
def response (files : FileTree) (written : Nat) (working : Place) (directory : List Char)
    (r : Request) : Response :=
  if !r.isLook then .notAllowed Route.lookMethods
  else
    match steps? r.path with
    | none => .empty 404
    | some steps =>
      let path := steps.foldl (fun path step => FileTree.join path step.toList) directory
      if (files.resolve? working path).any files.isDirectory then
        if r.path.getLast? = some '/' then
          found files written working (FileTree.join path "index.html".toList) r
        else
          match r.target.withSlash? with
          | some target => { Response.empty 307 with location := some (String.ofList target.text) }
          | none => .empty 500
      else found files written working path r

end CommandBridge.Http.Pages
