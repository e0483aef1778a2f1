import CommandBridge.Config.EnvFile
import CommandBridge.Config.SocketAddress
import CommandBridge.Duration
import CommandBridge.FileTree

/-! The settings of a bridge. Each comes from a variable of its own in the environment, into which
the assignments of a file are set before, or else has its default. -/
namespace CommandBridge

structure Settings where
  listenAddress : SocketAddress
  envName : String
  apiVersion : String
  baseDirectory : String
  versionFile : String
  versionCheckUrl : String
  accountsScheme : String
  accountsHost : String
  accountsPort : UInt16
  destinationsTimeout : Duration
  backendUrl : String
  staticDirectory : Option String

namespace Settings

def defaults : Settings where
  listenAddress := .v4 [0, 0, 0, 0] 9999
  envName := "local"
  apiVersion := "v2"
  baseDirectory := "."
  versionFile := "VERSION"
  versionCheckUrl := "http://www.continuuity.com/version"
  accountsScheme := "https"
  accountsHost := "accounts.continuuity.net"
  accountsPort := 443
  destinationsTimeout := .ofMilliseconds 10000
  backendUrl := "http://127.0.0.1:10000"
  staticDirectory := none

def environmentNames (environment : List (String × Bytes)) : EnvFile.Names :=
  environment.filterMap fun v => (Utf8.decode? v.2).map fun cs => (v.1, String.ofList cs)

def assignmentsFile : List Char := ".env".toList

/-- The file of assignments: the nearest one in the working directory or a directory above it. -/
def assignmentsFile? (files : FileTree) (working : Place) : Option Bytes :=
  (List.range (working.length + 1)).findSome? fun up =>
    files.read? (working.take (working.length - up)) assignmentsFile

def withoutPlus : List Char → List Char
  | '+' :: rest => rest
  | cs => cs

def unsigned? (limit : Nat) (text : String) : Option Nat :=
  let digits := withoutPlus text.toList
  if digits.isEmpty || !digits.all Char.isDigit then none
  else
    let value := digits.foldl (fun n c => n * 10 + (c.toNat - 48)) 0
    if value < limit then some value else none

def listenAddress? (lookup : String → Option String) : Option SocketAddress :=
  match lookup "LISTEN_ADDR" with
  | some text => SocketAddress.ofText? text
  | none => some defaults.listenAddress

/-- The settings under a reading of the variables. Only the address to listen on can keep them from
being. -/
def ofVariables? (lookup : String → Option String) : Option Settings :=
  let textOr (name default : String) : String := (lookup name).getD default
  (listenAddress? lookup).map fun listenAddress => {
    listenAddress
    envName := textOr "BRIDGE_ENV_NAME" defaults.envName
    apiVersion := textOr "BRIDGE_API_VERSION" defaults.apiVersion
    baseDirectory := textOr "BRIDGE_BASE_DIR" defaults.baseDirectory
    versionFile := textOr "BRIDGE_VERSION_FILE" defaults.versionFile
    versionCheckUrl := textOr "VERSION_CHECK_URL" defaults.versionCheckUrl
    accountsScheme := textOr "ACCOUNTS_SCHEME" defaults.accountsScheme
    accountsHost := textOr "ACCOUNTS_HOST" defaults.accountsHost
    accountsPort := (((lookup "ACCOUNTS_PORT").bind (unsigned? 65536)).map Nat.toUInt16).getD
      defaults.accountsPort
    destinationsTimeout :=
      (((lookup "DESTINATIONS_TIMEOUT_MS").bind (unsigned? 18446744073709551616)).map
        Duration.ofMilliseconds).getD defaults.destinationsTimeout
    backendUrl := textOr "BACKEND_URL" defaults.backendUrl
    staticDirectory := lookup "STATIC_DIR" }

/-- Why there are no settings: the address to listen on is none, or an assignment is to be set in
the environment and its value holds a NUL, which no value there does. -/
inductive Fault where
  | noAddress
  | nulInValue
deriving DecidableEq

def ofAssignments (environment assignments : EnvFile.Names) : Except Fault Settings :=
  match environment.load? assignments with
  | none => .error .nulInValue
  | some names => (ofVariables? names.get?).elim (.error .noAddress) .ok

/-- The settings in an environment, with the files around the working directory. The assignments are
those of the nearest file, where there is one. -/
def load (environment : List (String × Bytes)) (files : FileTree) (working : Place) :
    Except Fault Settings :=
  let names := environmentNames environment
  ofAssignments names (EnvFile.assignments names ((assignmentsFile? files working).getD []))

def load? (environment : List (String × Bytes)) (files : FileTree) (working : Place) :
    Option Settings :=
  (load environment files working).toOption

def credentialPath (s : Settings) : List Char :=
  FileTree.join s.baseDirectory.toList ".credential".toList

/-- The directory of the pages to serve: the one set, whether it exists or not, else the first that
exists of `client` and `../client` in the base directory. -/
def clientDirectory? (s : Settings) (files : FileTree) (working : Place) : Option (List Char) :=
  match s.staticDirectory with
  | some path => some path.toList
  | none =>
    ["client", "../client"].findSome? fun name =>
      let path := FileTree.join s.baseDirectory.toList name.toList
      match files.resolve? working path with
      | some place => if files.isDirectory place then some path else none
      | none => none

end Settings

end CommandBridge
