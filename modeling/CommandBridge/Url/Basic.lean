import CommandBridge.Url.Host
import CommandBridge.Url.Path

/-! Addresses on the web. An address is read as browsers do it: blanks around it and line breaks
within it are dropped, a backslash is a slash, dot segments are resolved, and what may not stand in
a path is escaped. A relative address is read against the one it was found at. -/
namespace CommandBridge

namespace Url

structure Credentials where
  name : List Char
  password : Option (List Char)
deriving DecidableEq

end Url

/-- An address: the scheme in lower case, the credentials and the host, the port unless it is the
scheme's own, the path with its slash, and the query and fragment behind their signs. Where an
address does not lead to the web, the host may be empty, or missing with its slashes. -/
structure Url where
  scheme : List Char
  credentials : Option Url.Credentials
  host : Option (List Char)
  port : Option Nat
  path : List Char
  query : Option (List Char)
  fragment : Option (List Char)
deriving DecidableEq

namespace Url

def defaultPort? (scheme : List Char) : Option Nat :=
  if scheme = "http".toList || scheme = "ws".toList then some 80
  else if scheme = "https".toList || scheme = "wss".toList then some 443
  else if scheme = "ftp".toList then some 21
  else none

def Kind.ofScheme (scheme : List Char) : Kind :=
  if (defaultPort? scheme).isSome then .web else if scheme = "file".toList then .file else .other

def isSecured (u : Url) : Bool := u.scheme = "https".toList

def isHttp (u : Url) : Bool := u.scheme = "http".toList || u.scheme = "https".toList

/-- Drops blanks and controls around an address, and tabs and line breaks anywhere. -/
def clean (cs : List Char) : List Char :=
  let isEdge (c : Char) : Bool := c.toNat ≤ 0x20
  let inner := ((cs.dropWhile isEdge).reverse.dropWhile isEdge).reverse
  inner.filter fun c => c != '\t' && c != '\n' && c != '\r'

def scheme? (cs : List Char) : Option (List Char × List Char) :=
  let isPart (c : Char) : Bool := c.isAlphanum || c = '+' || c = '-' || c = '.'
  match cs with
  | c :: _ =>
    if c.isAlpha then
      match cs.dropWhile isPart with
      | ':' :: rest => some ((cs.takeWhile isPart).map Char.toLower, rest)
      | _ => none
    else none
  | [] => none

structure Tail where
  path : List Char
  query : Option (List Char)
  fragment : Option (List Char)

/-- Cuts what is behind the host at the first question mark and number sign. -/
def Tail.of (cs : List Char) : Tail :=
  let fragment := match cs.dropWhile (· != '#') with
    | _ :: rest => some rest
    | [] => none
  let cs := cs.takeWhile (· != '#')
  let query := match cs.dropWhile (· != '?') with
    | _ :: rest => some rest
    | [] => none
  ⟨cs.takeWhile (· != '?'), query, fragment⟩

def querySet (kind : Kind) (c : Char) : Bool :=
  " \"#<>".toList.contains c || (kind != .other && c = '\'')

def fragmentSet (c : Char) : Bool := " \"<>`".toList.contains c

def Tail.escaped (tail : Tail) (kind : Kind) : Tail :=
  { tail with
    query := tail.query.map (Percent.encode (querySet kind))
    fragment := tail.fragment.map (Percent.encode fragmentSet) }

def ofTail (scheme : List Char) (credentials : Option Credentials) (host : Option (List Char))
    (port : Option Nat) (path : List Char) (tail : Tail) : Url :=
  let tail := tail.escaped (Kind.ofScheme scheme)
  ⟨scheme, credentials, host, port, path, tail.query, tail.fragment⟩

namespace Credentials

def escapeSet (c : Char) : Bool := pathSet c || "/:;=@[\\]^|".toList.contains c

/-- The credentials that a text spells, if they are not empty: a colon parts the name from the
password. -/
def ofText? (cs : List Char) : Option Credentials :=
  let name := Percent.encode escapeSet (cs.takeWhile (· != ':'))
  match (cs.dropWhile (· != ':')).drop 1 with
  | [] => if name.isEmpty then none else some ⟨name, none⟩
  | password => some ⟨name, some (Percent.encode escapeSet password)⟩

def isReadable (cs : List Char) : Bool := (Utf8.decode? (Percent.decode (Utf8.encode cs))).isSome

/-- Can the credentials be told apart from the address? The name must be readable, and there must be
a name or a readable password. -/
def areSeparable (c : Credentials) : Bool :=
  isReadable c.name && (!c.name.isEmpty || c.password.any isReadable)

def text (c : Credentials) : List Char := c.name ++ (c.password.map (':' :: ·)).getD [] ++ ['@']

end Credentials

/-- The port behind a host, and what is behind the digits, which must be a backslash if anything. It
must be at most the greatest port. -/
def port? (scheme cs : List Char) : Option (Option Nat × List Char) :=
  match cs with
  | [] => some (none, [])
  | ':' :: cs =>
    let digits := cs.takeWhile Char.isDigit
    let behind := cs.drop digits.length
    let value := digits.foldl (fun n c => n * 10 + (c.toNat - 48)) 0
    if behind.head?.any (· != '\\') || 65535 < value then none
    else some (if digits.isEmpty || some value = defaultPort? scheme then none
      else some value, behind)
  | _ => none

/-- Cuts a host from its port. A colon inside brackets belongs to the host. -/
def cutPort (cs : List Char) : List Char × List Char :=
  match cs with
  | '[' :: _ =>
    let inner := cs.takeWhile (· != ']')
    (inner ++ (cs.drop inner.length).take 1, (cs.drop inner.length).drop 1)
  | _ => (cs.takeWhile (· != ':'), cs.dropWhile (· != ':'))

/-- The host of a kind of address. Only where it leads elsewhere it may be empty. -/
def hostOf? (kind : Kind) (name : List Char) : Option (List Char) :=
  if kind = .other then plainHost? name else if name.isEmpty then none else host? name

/-- Reads what follows the two slashes. Behind an at sign or before a colon the host is not
empty. -/
def withAuthority? (scheme cs : List Char) : Option Url := do
  let kind := Kind.ofScheme scheme
  let isEnd (c : Char) : Bool := kind.isSlash c || c = '?' || c = '#'
  let authority := cs.takeWhile fun c => !isEnd c
  let rest := cs.drop authority.length
  let place := (authority.reverse.takeWhile (· != '@')).reverse
  let credentials := Credentials.ofText? (authority.take (authority.length - place.length - 1))
  let (name, portText) := cutPort place
  let host ← hostOf? kind name
  let (port, behind) ← port? scheme portText
  let isLost := credentials.isSome || !portText.isEmpty || (authority = ['@'] && !rest.isEmpty)
  if host.isEmpty && isLost then none
  else
    let tail := Tail.of (behind ++ rest)
    let path := if kind = .other && tail.path.isEmpty then [] else resolved kind tail.path
    some (ofTail scheme credentials (some host) port path tail)

/-- The address of a file. However many slashes its path begins with, one is left. -/
def ofFile (host : List Char) (parts : List (List Char)) (tail : Tail) : Url :=
  let parts := follow .file [] parts
  let path := (joinSegments parts).dropWhile (· = '/')
  let host := if parts.head?.any isDrive then [] else host
  ofTail "file".toList none (some host) none ('/' :: path) tail

/-- Reads what follows the two slashes in the address of a file. A drive in the place of the host
begins the path; this host itself is not named. -/
def fileWithHost? (cs : List Char) : Option Url := do
  let isEnd (c : Char) : Bool := Kind.file.isSlash c || c = '?' || c = '#'
  let name := cs.takeWhile fun c => !isEnd c
  if isDrive name then
    let tail := Tail.of cs
    some (ofFile [] (segments .file tail.path) tail)
  else
    let host ← if name.isEmpty then some [] else host? name
    let tail := Tail.of (cs.drop name.length)
    if host.isEmpty || host = "localhost".toList then
      some (ofFile [] (Text.cutAt Kind.file.isSlash tail.path) tail)
    else some (ofFile host (segments .file tail.path) tail)

def startsAuthority (kind : Kind) (cs : List Char) : Bool :=
  match cs with
  | a :: b :: _ => kind.isSlash a && kind.isSlash b
  | _ => false

/-- Reads a cleaned address that names its scheme. Addresses on the web need no slashes before the
host. -/
def absolute? (scheme rest : List Char) : Option Url :=
  let tail := Tail.of rest
  match Kind.ofScheme scheme with
  | .web => withAuthority? scheme (rest.dropWhile Kind.web.isSlash)
  | .file =>
    if startsAuthority .file rest then fileWithHost? (rest.drop 2)
    else some (ofFile [] (segments .file tail.path) tail)
  | .other =>
    if startsAuthority .other rest then withAuthority? scheme (rest.drop 2)
    else
      let path :=
        if rest.head? = some '/' then resolved .other tail.path
          else Percent.encode (fun _ => false) tail.path
      some (ofTail scheme none none none path tail)

def parse? (text : List Char) : Option Url := do
  let (scheme, rest) ← scheme? (clean text)
  absolute? scheme rest

def relative (base : Url) (cs : List Char) : Url :=
  let tail := Tail.of cs
  let escaped := tail.escaped .web
  match tail.path with
  | [] => { base with query := escaped.query.or base.query, fragment := escaped.fragment }
  | c :: _ =>
    let place := if Kind.web.isSlash c then [] else (segments .web base.path).reverse.drop 1
    let path := joinSegments (follow .web place (segments .web tail.path))
    { base with path, query := escaped.query, fragment := escaped.fragment }

/-- The address that a text spells where it was found at another one, which is on the web. -/
def parseAt? (base : Url) (text : List Char) : Option Url :=
  let cs := clean text
  match scheme? cs with
  | some (scheme, rest) =>
    if scheme = base.scheme && !startsAuthority .web rest then some (base.relative rest)
    else absolute? scheme rest
  | none =>
    if startsAuthority .web cs then withAuthority? base.scheme (cs.dropWhile Kind.web.isSlash)
    else some (base.relative cs)

def hasHost (u : Url) : Bool := u.host.any fun host => !host.isEmpty

def authority (u : Url) : List Char :=
  u.host.getD [] ++ (u.port.map fun port => ':' :: Nat.toDigits 10 port).getD []

def target (u : Url) : List Char :=
  (if u.path.isEmpty then ['/'] else u.path) ++ (u.query.map ('?' :: ·)).getD []

/-- What stands before the path. Without a host, two slashes at the head of the path are kept from
looking like the beginning of one. -/
def origin (u : Url) : List Char :=
  match u.host with
  | some _ => ['/', '/'] ++ (u.credentials.map (·.text)).getD [] ++ u.authority
  | none => if startsAuthority .other u.path then ['/', '.'] else []

def text (u : Url) : List Char :=
  u.scheme ++ ':' :: u.origin ++ u.path ++ (u.query.map ('?' :: ·)).getD [] ++
    (u.fragment.map ('#' :: ·)).getD []

def withoutCredentials (u : Url) : Url :=
  if u.credentials.any (·.areSeparable) then { u with credentials := none } else u

end Url

end CommandBridge
