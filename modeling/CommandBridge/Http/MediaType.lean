/-! Media types: a type, a subtype with a suffix behind its last plus sign, and parameters. -/
namespace CommandBridge.Http

/-- A media type. Names are in lower case, values of parameters as they were given. -/
structure MediaType where
  type : List Char
  subtype : List Char
  suffix : Option (List Char)
  parameters : List (List Char × List Char)

namespace MediaType

def isToken (c : Char) : Bool := c.isAlphanum || "!#$%&'*+-.^_`|~".toList.contains c

def isQuotable (c : Char) : Bool := 0x20 ≤ c.toNat && c.toNat ≠ 0x7F

/-- A value between quotes, from behind the first one, and what follows it. A value has at least one
sign, and the first one may itself be a quote. -/
def quotedValue? : List Char → Option (List Char × List Char)
  | [] => none
  | first :: rest =>
    let inner (c : Char) : Bool := isQuotable c && c ≠ '"'
    match isQuotable first, rest.dropWhile inner with
    | true, '"' :: behind => some (first :: rest.takeWhile inner, behind.dropWhile (· == ' '))
    | _, _ => none

def parameters? : Nat → List Char → Option (List (List Char × List Char))
  | 0, _ => none
  | bound + 1, cs =>
    let cs := cs.dropWhile (· == ' ')
    if cs.isEmpty then some []
    else
      let name := cs.takeWhile isToken
      match name, cs.dropWhile isToken with
      | _ :: _, '=' :: '"' :: rest =>
        match quotedValue? rest with
        | some (value, []) => some [(name.map Char.toLower, value)]
        | some (value, ';' :: behind) =>
          (parameters? bound behind).map ((name.map Char.toLower, value) :: ·)
        | _ => none
      | _ :: _, '=' :: rest =>
        match rest.takeWhile isToken, rest.dropWhile isToken with
        | value, [] => some [(name.map Char.toLower, value)]
        | _ :: _, ';' :: behind =>
          (parameters? bound behind).map ((name.map Char.toLower, rest.takeWhile isToken) :: ·)
        | _, _ => none
      | _, _ => none

/-- The subtype before the last plus sign that is not its first sign, and the suffix behind it. -/
def splitSuffix (cs : List Char) : List Char × Option (List Char) :=
  let suffix := (cs.reverse.takeWhile (· != '+')).reverse
  let before := cs.take (cs.length - suffix.length - 1)
  if suffix.length < cs.length && !before.isEmpty then (before, some suffix) else (cs, none)

def ofText? (text : List Char) : Option MediaType :=
  let type := text.takeWhile isToken
  match type, text.dropWhile isToken with
  | _ :: _, '/' :: rest =>
    let (subtype, suffix) := splitSuffix ((rest.takeWhile isToken).map Char.toLower)
    if subtype.isEmpty then none
    else
      match rest.dropWhile isToken with
      | [] => some ⟨type.map Char.toLower, subtype, suffix, []⟩
      | ';' :: rest =>
        (parameters? (rest.length + 1) rest).map fun parameters =>
          ⟨type.map Char.toLower, subtype, suffix, parameters⟩
      | _ => none
  | _, _ => none

/-- Is it JSON: an application type whose subtype or suffix is `json`? -/
def isJson (m : MediaType) : Bool :=
  m.type == "application".toList && (m.subtype == "json".toList || m.suffix == some "json".toList)

def parameter? (m : MediaType) (name : String) : Option (List Char) :=
  (m.parameters.find? fun p => p.1 == name.toList).map (·.2)

end MediaType

end CommandBridge.Http
