import CommandBridge.Text.Utf8

/-! A tree of files and directories, as far as the bridge looks at one: texts of paths are followed
from a working directory, step by step through directories that exist. -/
namespace CommandBridge

inductive Node where
  | file (content : Bytes)
  | directory

abbrev Place := List String

/-- Why a path leads nowhere: a step of it is missing or is no directory to go on from, a step or
the whole path has more octets than any may have, or it holds a NUL. -/
inductive Lack where
  | missing
  | overlong
  | nulWithin
deriving DecidableEq

structure FileTree where
  nodes : List (Place × Node)

namespace FileTree

def greatestStep : Nat := 255

def greatestPath : Nat := 4095

def empty : FileTree := ⟨[]⟩

/-- What stands at a place. The root is a directory. -/
def node? (t : FileTree) (place : Place) : Option Node :=
  if place.isEmpty then some .directory else (t.nodes.find? fun n => n.1 == place).map (·.2)

def isDirectory (t : FileTree) (place : Place) : Bool :=
  match t.node? place with
  | some .directory => true
  | _ => false

def content? (t : FileTree) (place : Place) : Option Bytes :=
  match t.node? place with
  | some (.file content) => some content
  | _ => none

def put (t : FileTree) (place : Place) (node : Node) : FileTree :=
  ⟨t.nodes.filter (fun n => n.1 != place) ++ [(place, node)]⟩

def makeDirectory (t : FileTree) (place : Place) : FileTree :=
  (List.range (place.length + 1)).foldl
    (fun t n => if (t.node? (place.take n)).isSome then t else t.put (place.take n) .directory) t

def remove (t : FileTree) (place : Place) : FileTree :=
  ⟨t.nodes.filter fun n => !place.isPrefixOf n.1⟩

def cutAtSlashes : List Char → List (List Char)
  | [] => [[]]
  | c :: rest =>
    match cutAtSlashes rest with
    | [] => [[c]]
    | part :: parts => if c = '/' then [] :: part :: parts else (c :: part) :: parts

/-- The steps of a path. Empty ones, and single dots, lead nowhere. -/
def steps (path : List Char) : List String :=
  ((cutAtSlashes path).filter fun part => !part.isEmpty && part != ['.']).map String.ofList

/-- Follows steps from a directory. All places but the last must be directories; two dots lead
up. -/
def follow (t : FileTree) (here : Place) : List String → Except Lack Place
  | [] => .ok here
  | step :: rest =>
    if !t.isDirectory here then .error .missing
    else if greatestStep < (octets step).length then .error .overlong
    else follow t (if step = ".." then here.dropLast else here ++ [step]) rest

def meansDirectory (path : List Char) : Bool :=
  match (cutAtSlashes path).getLast? with
  | some part => part.isEmpty || part == ['.']
  | none => false

/-- The place that a path leads to from a working directory. The empty path leads nowhere, and a
path that means a directory leads to nothing else. -/
def resolve (t : FileTree) (working : Place) (path : List Char) : Except Lack Place :=
  if path.contains '\x00' then .error .nulWithin
  else if path.isEmpty then .error .missing
  else if greatestPath < (Utf8.encode path).length then .error .overlong
  else
    match t.follow (if path.head? = some '/' then [] else working) (steps path) with
    | .ok place =>
        if meansDirectory path && !t.isDirectory place then .error .missing else .ok place
    | .error lack => .error lack

def resolve? (t : FileTree) (working : Place) (path : List Char) : Option Place :=
  (t.resolve working path).toOption

def read? (t : FileTree) (working : Place) (path : List Char) : Option Bytes :=
  (t.resolve? working path).bind t.content?

/-- Writes a file. Its directory must exist, and no directory may stand in its place. -/
def write? (t : FileTree) (working : Place) (path : List Char) (content : Bytes) :
    Option FileTree := do
  let place ← t.resolve? working path
  if t.isDirectory place || !t.isDirectory place.dropLast then none
  else some (t.put place (.file content))

inductive Change where
  | file (path : String) (content : Bytes)
  | directory (path : String)
  | remove (path : String)

def madePlace (working : Place) (path : String) : Place :=
  (steps path.toList).foldl
    (fun here step => if step = ".." then here.dropLast else here ++ [step]) working

/-- The tree after a change. Directories above a new thing are made. -/
def changed (t : FileTree) (working : Place) : Change → FileTree
  | .file path content =>
    let place := madePlace working path
    (t.makeDirectory place.dropLast).put place (.file content)
  | .directory path => t.makeDirectory (madePlace working path)
  | .remove path => t.remove (madePlace working path)

/-- One path below another. A path that begins at the root stands for itself. -/
def join (directory path : List Char) : List Char :=
  match path with
  | '/' :: _ => path
  | _ =>
      if directory.isEmpty || directory.getLast? = some '/' then directory ++ path
      else directory ++ '/' :: path

end FileTree

end CommandBridge
