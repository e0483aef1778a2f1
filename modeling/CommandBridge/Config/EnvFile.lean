import CommandBridge.Text.Alphanumeric
import CommandBridge.Text.Basic

/-! Files of environment assignments. A file is a list of lines `NAME = value`; a quoted value may
run over several lines, and a number sign behind a blank begins a comment. Reading ends at the first
line that is malformed, and the assignments before it count. Names in a value are replaced by what
they stand for in the environment or, failing that, earlier in the file. -/
namespace CommandBridge.EnvFile

/-! ### Lines -/

inductive Scan where
  | plain
  | escape
  | blank
  | weak
  | weakEscape
  | strong
  | strongEscape
deriving DecidableEq

def Scan.next : Scan → Char → Option Scan
  | .blank, '#' => none
  | .blank, c =>
      some (if c = '\\' then .escape else if c = '"' then .weak
        else if c = '\'' then .strong else .plain)
  | .plain, c =>
    some (if Text.isBlank c && c != '\n' && c != '\r' then .blank
      else if c = '\\' then .escape else if c = '"' then .weak
      else if c = '\'' then .strong else .plain)
  | .escape, _ => some .plain
  | .weak, c => some (if c = '\\' then .weakEscape else if c = '"' then .plain else .weak)
  | .weakEscape, _ => some .weak
  | .strong, c => some (if c = '\\' then .strongEscape else if c = '\'' then .plain else .strong)
  | .strongEscape, _ => some .strong

/-- Searches one line of the file. Gives what belongs to the assignment, and where the search stands
unless a comment began. -/
def scanLine : Scan → List Char → List Char × Option Scan
  | scan, [] => ([], some scan)
  | scan, c :: rest =>
    match scan.next c with
    | none => ([], none)
    | some scan =>
      let (kept, stop) := scanLine scan rest
      (c :: kept, stop)

def fileLines (line : Bytes) : Bytes → List Bytes
  | [] => if line.isEmpty then [] else [line.reverse]
  | b :: rest =>
    if b = Octet.newline then (b :: line).reverse :: fileLines [] rest
    else fileLines (b :: line) rest

def withoutLineEnd (cs : List Char) : List Char :=
  match cs.reverse with
  | '\n' :: '\r' :: rest => rest.reverse
  | '\n' :: rest => rest.reverse
  | _ => cs

inductive Line where
  | finished
  | malformed
  | line (text : List Char) (rest : List Bytes)

/-- Takes lines of the file until no quote, escape or blank is left open. Lines that are no text,
and a file that ends inside, are malformed; a line whose first sign is a number sign is empty. -/
def takeLine (buffer : List Char) (scan : Scan) : List Bytes → Line
  | [] => if scan = .plain then .finished else .malformed
  | bytes :: rest =>
    match Utf8.decode? bytes with
    | none => .malformed
    | some cs =>
      if (Text.trimStart (buffer ++ cs)).head? = some '#' then .line [] rest
      else
        match scanLine scan cs with
        | (kept, none) => .line (buffer ++ kept) rest
        | (_, some .plain) => .line (withoutLineEnd (buffer ++ cs)) rest
        | (_, some scan) => takeLine (buffer ++ cs) scan rest

/-! ### Values -/

abbrev Names := List (String × String)

def Names.get? (names : Names) (name : String) : Option String :=
  (names.find? fun n => n.1 == name).map (·.2)

/-- What stands behind a text and an equals sign where an environment is written out, one line
`NAME=value` for each name. The text is a name, or a name with the beginning of its value, if the
value goes on with an equals sign there. -/
def Names.behind? (names : Names) (head : List Char) : Option (List Char) :=
  names.findSome? fun n => (head ++ ['=']).isPrefixOf? (n.1.toList ++ '=' :: n.2.toList)

/-- Where reading a value stands. Inside double quotes the same things happen as outside, save that
blanks and single quotes are plain; `weak` tells the two apart. A name ends at the first sign that
is no letter or digit, and that sign is taken as it is. -/
inductive Mode where
  | text (weak : Bool)
  | escape (weak : Bool)
  | strong
  | name (weak : Bool) (met : List Char)
  | braced (weak : Bool) (met : List Char)
  | ending
  | comment

def Mode.next (lookup : List Char → List Char) : Mode → Char → Option (List Char × Mode)
  | .comment, _ => some ([], .comment)
  | .ending, c =>
    if c = ' ' || c = '\t' then some ([], .ending)
    else if c = '#' then some ([], .comment)
    else none
  | .escape weak, c =>
    if c = '\\' || c = '\'' || c = '"' || c = '$' || c = ' ' then some ([c], .text weak)
    else if c = 'n' then some (['\n'], .text weak)
    else none
  | .strong, c => some (if c = '\'' then ([], .text false) else ([c], .strong))
  | .name weak met, c =>
    some <|
      if Text.isAlphanumeric c then ([], .name weak (c :: met))
      else if c = '\x7b' && met.isEmpty then ([], .braced weak [])
      else if c = '$' then (lookup met.reverse, .name weak [])
      else (lookup met.reverse ++ [c], .text weak)
  | .braced weak met, c =>
    some (if c = '\x7d' then (lookup met.reverse, .text weak) else ([], .braced weak (c :: met)))
  | .text weak, c =>
    some <|
      if c = '$' then ([], .name weak [])
      else if c = '\\' then ([], .escape weak)
      else if c = '"' then ([], .text !weak)
      else if weak then ([c], .text true)
      else if c = '\'' then ([], .strong)
      else if c = ' ' || c = '\t' then ([], .ending)
      else ([c], .text false)

def Mode.close (lookup : List Char → List Char) : Mode → Option (List Char)
  | .text true | .escape true | .name true _ | .strong | .braced .. => none
  | .name false met => some (lookup met.reverse)
  | _ => some []

def readValue (lookup : List Char → List Char) : Mode → List Char → Option (List Char)
  | mode, [] => mode.close lookup
  | mode, c :: rest => do
    let (added, mode) ← mode.next lookup c
    let more ← readValue lookup mode rest
    some (added ++ more)

/-! ### Assignments -/

def isNameStart (c : Char) : Bool := c.isAlpha || c = '_'

def isNamePart (c : Char) : Bool := c.isAlphanum || c = '_' || c = '.'

def readName? : List Char → Option (String × List Char)
  | [] => none
  | c :: rest =>
    if isNameStart c then
      some (String.ofList (c :: rest.takeWhile isNamePart),
        Text.trimStart (rest.dropWhile isNamePart))
    else none

/-- The name that a line assigns to, and the line behind the equals sign. The word `export` may
stand before the name, or be the name. -/
def readTarget? (line : List Char) : Option (String × List Char) := do
  let (name, rest) ← readName? line
  match rest with
  | '=' :: rest => some (name, rest)
  | _ =>
    if name == "export" then
      let (name, rest) ← readName? rest
      match rest with
      | '=' :: rest => some (name, rest)
      | _ => none
    else none

inductive Reading where
  | nothing
  | malformed
  | assignment (name value : String)

def readLine (lookup : List Char → List Char) (line : List Char) : Reading :=
  let line := Text.trimStart (Text.trimEnd line)
  if line.isEmpty || line.head? = some '#' then .nothing
  else
    match readTarget? line with
    | none => .malformed
    | some (name, rest) =>
      let value := Text.trimStart rest
      if value.isEmpty || value.head? = some '#' then .assignment name ""
      else
        match readValue lookup (.text false) value with
        | some value => .assignment name (String.ofList value)
        | none => .malformed

/-- The lines of the assignments in a file, up to the first that is malformed as a line. Each round
takes one of them. -/
def linesFrom : Nat → List Bytes → List (List Char)
  | 0, _ => []
  | bound + 1, lines =>
    match takeLine [] .plain lines with
    | .finished | .malformed => []
    | .line text rest => text :: linesFrom bound rest

def withoutMark (file : Bytes) : Bytes :=
  if file.take 3 = [0xEF, 0xBB, 0xBF] then file.drop 3 else file

/-- The lines of the assignments in a file. A byte order mark at its head is left out. -/
def lines (file : Bytes) : List (List Char) :=
  let lines := fileLines [] (withoutMark file)
  linesFrom (lines.length + 1) lines

/-- What a name in a value stands for: what it does in the environment, else its latest
assignment. -/
def Names.meaning (environment latest : Names) (name : List Char) : List Char :=
  ((environment.behind? name).or ((latest.get? (String.ofList name)).map String.toList)).getD []

/-- The assignments of lines, in order, up to the first malformed line. An assignment counts for the
environment of later lines where its name has no value yet; the latest one of a name is what a name
without value in the environment stands for. -/
def readLines (environment latest : Names) : List (List Char) → Names
  | [] => []
  | line :: rest =>
    match readLine (environment.meaning latest) line with
    | .malformed => []
    | .nothing => readLines environment latest rest
    | .assignment name value =>
      let known := (environment.get? name).isSome
      (name, value) ::
        readLines (if known then environment else environment ++ [(name, value)])
          ((name, value) :: latest) rest

def assignments (environment : Names) (file : Bytes) : Names :=
  readLines environment [] (lines file)

/-- Sets assignments in an environment one after the other, each where its name has no value yet. A
sign that stands in no value of an environment ends this without a result. -/
def Names.load? : Names → Names → Option Names
  | environment, [] => some environment
  | environment, (name, value) :: rest =>
    if (environment.get? name).isSome then load? environment rest
    else if value.toList.contains '\x00' then none
    else load? (environment ++ [(name, value)]) rest

end CommandBridge.EnvFile
