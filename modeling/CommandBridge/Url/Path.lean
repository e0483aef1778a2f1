import CommandBridge.Text.Basic
import CommandBridge.Text.Percent

/-! Paths of addresses: segments, each behind a slash. One dot stands for the place itself and two
for the place above, but nothing leads above a drive. -/
namespace CommandBridge.Url

/-- What the addresses of a scheme are like: they lead to a place on the web, to a file, or
elsewhere. -/
inductive Kind where
  | web
  | file
  | other
deriving DecidableEq

/-- Where an address leads to the web or a file, a backslash is a slash. -/
def Kind.isSlash (kind : Kind) (c : Char) : Bool := c = '/' || (kind != .other && c = '\\')

def pathSet (c : Char) : Bool := " \"#<>?`\x7b\x7d".toList.contains c

def segments (kind : Kind) (path : List Char) : List (List Char) :=
  let inner := match path with
    | c :: rest => if kind.isSlash c then rest else path
    | [] => []
  Text.cutAt kind.isSlash inner

def isDot (segment : List Char) : Bool :=
  let s := String.ofList (segment.map Char.toLower)
  s == "." || s == "%2e"

def isDotDot (segment : List Char) : Bool :=
  let s := String.ofList (segment.map Char.toLower)
  s == ".." || s == ".%2e" || s == "%2e." || s == "%2e%2e"

/-- Is a text the name of a drive: a letter with a colon or a bar? -/
def isDrive : List Char → Bool
  | [letter, sign] => letter.isAlpha && (sign = ':' || sign = '|')
  | _ => false

def beginsWithDrive (segment : List Char) : Bool :=
  isDrive (segment.take 2) && (segment.drop 2).head?.all (· = '\\')

def above : List (List Char) → List (List Char)
  | [] => []
  | segment :: rest => if beginsWithDrive segment then segment :: rest else rest

/-- A segment as it stands below others. At the head of the path to a file, a drive has a colon. -/
def written (kind : Kind) (place : List (List Char)) (segment : List Char) : List Char :=
  if kind = .file && place.isEmpty && isDrive segment then segment.take 1 ++ [':']
  else Percent.encode pathSet segment

/-- Follows segments from a place, which is held deepest segment first. A dot segment at the end
leaves an empty one. -/
def follow (kind : Kind) : List (List Char) → List (List Char) → List (List Char)
  | place, [] => place.reverse
  | place, segment :: rest =>
    let ended (place : List (List Char)) : List (List Char) := if rest.isEmpty then [] :: place
      else place
    if isDotDot segment then follow kind (ended (above place)) rest
    else if isDot segment then follow kind (ended place) rest
    else follow kind (written kind place segment :: place) rest

def joinSegments (parts : List (List Char)) : List Char := parts.flatMap fun part => '/' :: part

def resolved (kind : Kind) (path : List Char) : List Char :=
  joinSegments (follow kind [] (segments kind path))

end CommandBridge.Url
