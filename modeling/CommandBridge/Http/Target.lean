import CommandBridge.Text.Utf8

/-! What a request is addressed to. A target is a path with a query, an asterisk, an authority
alone, or a whole address with scheme and authority. A number sign ends it. -/
namespace CommandBridge.Http

/-- A target in its parts. The path is empty only where an authority stands alone. -/
structure Target where
  scheme : Option (List Char)
  authority : Option (List Char)
  path : List Char
  query : Option (List Char)
deriving DecidableEq

/-- What has been seen of an authority: colons since the last at sign or bracket, its pair of
brackets, and escapes since the last at sign or bracket. -/
structure AuthorityScan where
  colons : Nat
  opened : Bool
  closed : Bool
  escaped : Bool

namespace AuthorityScan

def isPlain (c : Char) : Bool := c.isAlphanum || "!$&'()*+,-.;=_~".toList.contains c

def step? (s : AuthorityScan) (c : Char) : Option AuthorityScan :=
  if c = ':' then if s.colons < 8 then some { s with colons := s.colons + 1 } else none
  else if c = '[' then if s.escaped || s.opened then none else some { s with opened := true }
  else if c = ']' then
    if s.opened && !s.closed then some { s with colons := 0, closed := true, escaped := false }
    else none
  else if c = '@' then some { s with colons := 0, escaped := false }
  else if c = '%' then some { s with escaped := true }
  else if isPlain c then some s
  else none

/-- May an authority end here? Only what stands before an at sign or in brackets has escapes, and
only one colon is left for a port. -/
def isComplete (s : AuthorityScan) : Bool := s.opened == s.closed && s.colons ≤ 1 && !s.escaped

end AuthorityScan

namespace Target

def greatestLength : Nat := 65534

def greatestScheme : Nat := 64

def isSchemeSign (c : Char) : Bool := c.isAlphanum || "+-.~".toList.contains c

/-- The signs of a path. All signs beyond ASCII are among them. -/
def isPathSign (c : Char) : Bool := 0x20 < c.toNat && !"#<>?`".toList.contains c

/-- The signs of a query. All signs beyond ASCII are among them. -/
def isQuerySign (c : Char) : Bool := 0x20 < c.toNat && !"\"#<>".toList.contains c

def isAuthority (cs : List Char) : Bool :=
  (cs.foldlM AuthorityScan.step? ⟨0, false, false, false⟩).any AuthorityScan.isComplete &&
    cs.getLast? != some '@'

def endsAuthority (c : Char) : Bool := c = '/' || c = '?' || c = '#'

def pathAndQuery? (cs : List Char) : Option (List Char × Option (List Char)) :=
  let cs := cs.takeWhile (· != '#')
  let path := cs.takeWhile (· != '?')
  let query := match cs.dropWhile (· != '?') with
    | [] => none
    | _ :: query => some query
  if path.all isPathSign && (query.getD []).all isQuerySign then some (path, query) else none

/-- The scheme before the first colon with two slashes, and what is behind them. The web's own
schemes are put in lower case. -/
def splitScheme (cs : List Char) : Option (List Char × List Char) :=
  let scheme := cs.takeWhile isSchemeSign
  match cs.dropWhile isSchemeSign with
  | ':' :: '/' :: '/' :: rest =>
    let lower := scheme.map Char.toLower
    some (if lower = "http".toList || lower = "https".toList then lower else scheme, rest)
  | _ => none

def ofText? (cs : List Char) : Option Target :=
  if cs.isEmpty || greatestLength < (Utf8.encode cs).length then none
  else if cs = ['*'] then some ⟨none, none, cs, none⟩
  else if cs.head? = some '/' then
    (pathAndQuery? cs).map fun (path, query) => ⟨none, none, path, query⟩
  else
    match splitScheme cs with
    | none => if isAuthority cs then some ⟨none, some cs, [], none⟩ else none
    | some (scheme, rest) =>
      let authority := rest.takeWhile fun c => !endsAuthority c
      if greatestScheme < scheme.length || authority.isEmpty || !isAuthority authority then none
      else
        (pathAndQuery? (rest.drop authority.length)).map fun (path, query) =>
          ⟨some scheme, some authority, if path.isEmpty then ['/'] else path, query⟩

def text (t : Target) : List Char :=
  (t.scheme.map (· ++ "://".toList)).getD [] ++ t.authority.getD [] ++ t.path ++
    (t.query.map ('?' :: ·)).getD []

/-- The target with a slash behind its path. An authority alone has no path to put it behind, and
nothing goes behind an asterisk. -/
def withSlash? (t : Target) : Option Target :=
  if t.path.head? = some '/' then some { t with path := t.path ++ ['/'] } else none

end Target

end CommandBridge.Http
