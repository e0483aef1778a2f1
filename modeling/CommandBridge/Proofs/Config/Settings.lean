import CommandBridge.Proofs.Config.EnvFile
import CommandBridge.Proofs.LeadingInteger
import CommandBridge.Config.Settings

/-! The settings of a bridge, each by its own variable. A variable stands for its text in the
environment, else for its first assignment in the file of assignments, and nothing but this tells
the setting that comes from it. -/
namespace CommandBridge

/-- A text spells a number below a limit in decimal digits, behind a plus sign if need be. -/
def SpellsBelow (limit : ℕ) (text : String) (n : ℕ) : Prop :=
  ∃ sign digits, text.toList = sign ++ digits ∧ (sign = [] ∨ sign = ['+']) ∧ digits ≠ [] ∧
    (∀ c ∈ digits, c.isDigit = true) ∧ decimal digits = n ∧ n < limit

theorem SpellsBelow.lt {limit n : ℕ} {text : String} (spells : SpellsBelow limit text n) :
    n < limit := by
  obtain ⟨_, _, -, -, -, -, -, small⟩ := spells
  exact small

namespace Settings

theorem exists_plus (cs : List Char) :
    ∃ sign, cs = sign ++ withoutPlus cs ∧ (sign = [] ∨ sign = ['+']) := by
  unfold withoutPlus
  split
  · exact ⟨['+'], rfl, .inr rfl⟩
  · exact ⟨[], rfl, .inl rfl⟩

theorem withoutPlus_digits {sign digits : List Char} (isSign : sign = [] ∨ sign = ['+'])
    (all : ∀ c ∈ digits, c.isDigit = true) : withoutPlus (sign ++ digits) = digits := by
  rcases isSign with rfl | rfl
  · rw [List.nil_append, withoutPlus]
    rintro rest rfl
    exact absurd (all '+' List.mem_cons_self) (by decide)
  · rfl

theorem unsigned?_eq_some_iff {limit n : ℕ} {text : String} :
    unsigned? limit text = some n ↔ SpellsBelow limit text n := by
  have value : ∀ digits : List Char, digits.foldl (fun n c => n * 10 + (c.toNat - 48)) 0 =
      decimal digits :=
    digitsValue_eq
  have wellFormed : ∀ digits : List Char, (digits.isEmpty || !digits.all Char.isDigit) = false ↔
      digits ≠ [] ∧ ∀ c ∈ digits, c.isDigit = true := by
    intro digits
    rw [Bool.or_eq_false_iff, List.isEmpty_eq_false_iff, Bool.not_eq_false', List.all_eq_true]
  simp only [unsigned?, value]
  constructor
  · intro read
    split at read
    · cases read
    · rename_i formed
      obtain ⟨some, all⟩ := (wellFormed _).mp (Bool.eq_false_iff.mpr formed)
      obtain ⟨sign, parts, isSign⟩ := exists_plus text.toList
      split at read
      · rename_i small
        cases read
        exact ⟨sign, withoutPlus text.toList, parts, isSign, some, all, rfl, small⟩
      · cases read
  · rintro ⟨sign, digits, parts, isSign, some, all, rfl, small⟩
    have formed := (wellFormed digits).mpr ⟨some, all⟩
    rw [parts, withoutPlus_digits isSign all, formed, if_neg Bool.false_ne_true, if_pos small]

end Settings

/-! ### The variables -/

inductive Variable where
  | listenAddress
  | envName
  | apiVersion
  | baseDirectory
  | versionFile
  | versionCheckUrl
  | accountsScheme
  | accountsHost
  | accountsPort
  | destinationsTimeout
  | backendUrl
  | staticDirectory

namespace Variable

def name : Variable → String
  | .listenAddress => "LISTEN_ADDR"
  | .envName => "BRIDGE_ENV_NAME"
  | .apiVersion => "BRIDGE_API_VERSION"
  | .baseDirectory => "BRIDGE_BASE_DIR"
  | .versionFile => "BRIDGE_VERSION_FILE"
  | .versionCheckUrl => "VERSION_CHECK_URL"
  | .accountsScheme => "ACCOUNTS_SCHEME"
  | .accountsHost => "ACCOUNTS_HOST"
  | .accountsPort => "ACCOUNTS_PORT"
  | .destinationsTimeout => "DESTINATIONS_TIMEOUT_MS"
  | .backendUrl => "BACKEND_URL"
  | .staticDirectory => "STATIC_DIR"

abbrev Holds : Variable → Type
  | .listenAddress => SocketAddress
  | .accountsPort => UInt16
  | .destinationsTimeout => Duration
  | .staticDirectory => Option String
  | _ => String

def of : (x : Variable) → Settings → x.Holds
  | .listenAddress => Settings.listenAddress
  | .envName => Settings.envName
  | .apiVersion => Settings.apiVersion
  | .baseDirectory => Settings.baseDirectory
  | .versionFile => Settings.versionFile
  | .versionCheckUrl => Settings.versionCheckUrl
  | .accountsScheme => Settings.accountsScheme
  | .accountsHost => Settings.accountsHost
  | .accountsPort => Settings.accountsPort
  | .destinationsTimeout => Settings.destinationsTimeout
  | .backendUrl => Settings.backendUrl
  | .staticDirectory => Settings.staticDirectory

/-- A text of a variable and the setting that it is read as. Most texts are taken as they are. -/
def Reads : (x : Variable) → String → x.Holds → Prop
  | .listenAddress, text, address => SocketAddress.ofText? text = some address
  | .accountsPort, text, port => SpellsBelow 65536 text port.toNat
  | .destinationsTimeout, text, timeout =>
      ∃ ms, SpellsBelow 18446744073709551616 text ms ∧ timeout = .ofMilliseconds ms
  | .staticDirectory, text, directory => directory = some text
  | .envName, text, held | .apiVersion, text, held | .baseDirectory, text, held
  | .versionFile, text, held | .versionCheckUrl, text, held | .accountsScheme, text, held
  | .accountsHost, text, held | .backendUrl, text, held => held = text

/-- What a variable stands for and the setting that comes of it: what the text is read as, or else
the default. -/
inductive Takes (x : Variable) : Option String → x.Holds → Prop
  | read {text held} : x.Reads text held → Takes x (some text) held
  | unset : Takes x none (x.of Settings.defaults)
  | unreadable {text} : (∀ held, ¬ x.Reads text held) → Takes x (some text) (x.of Settings.defaults)

def read? : (x : Variable) → String → Option x.Holds
  | .listenAddress, text => SocketAddress.ofText? text
  | .accountsPort, text => (Settings.unsigned? 65536 text).map Nat.toUInt16
  | .destinationsTimeout, text =>
      (Settings.unsigned? 18446744073709551616 text).map Duration.ofMilliseconds
  | .staticDirectory, text => some (some text)
  | .envName, text | .apiVersion, text | .baseDirectory, text | .versionFile, text
  | .versionCheckUrl, text | .accountsScheme, text | .accountsHost, text | .backendUrl, text =>
      some text

theorem reads_iff {x : Variable} {text : String} {held : x.Holds} :
    x.Reads text held ↔ x.read? text = some held := by
  cases x with
  | listenAddress => exact Iff.rfl
  | accountsPort =>
      rw [Reads, read?, Option.map_eq_some_iff]
      constructor
      · exact fun spells => ⟨held.toNat, Settings.unsigned?_eq_some_iff.mpr spells,
          UInt16.ofNat_toNat⟩
      · rintro ⟨port, read, rfl⟩
        have spells := Settings.unsigned?_eq_some_iff.mp read
        have same : port.toUInt16.toNat = port := UInt16.toNat_ofNat_of_lt spells.lt
        rwa [same]
  | destinationsTimeout =>
      rw [Reads, read?, Option.map_eq_some_iff]
      refine exists_congr fun ms => ?_
      rw [Settings.unsigned?_eq_some_iff, eq_comm]
  | _ => exact ⟨fun same => congrArg some same.symm, fun same => (Option.some.inj same).symm⟩

theorem takes_iff {x : Variable} {found : Option String} {held : x.Holds} :
    x.Takes found held ↔ held = (found.bind x.read?).getD (x.of Settings.defaults) := by
  constructor
  · intro takes
    cases takes with
    | read reads => rw [Option.bind_some, reads_iff.mp reads, Option.getD_some]
    | unset => rfl
    | @unreadable text refused =>
        cases read : x.read? text with
        | none => rw [Option.bind_some, read, Option.getD_none]
        | some held => exact absurd (reads_iff.mpr read) (refused held)
  · rintro rfl
    cases found with
    | none => exact .unset
    | some text =>
        cases read : x.read? text with
        | some held =>
            rw [Option.bind_some, read, Option.getD_some]
            exact .read (reads_iff.mpr read)
        | none =>
            rw [Option.bind_some, read, Option.getD_none]
            refine .unreadable fun held reads => ?_
            rw [reads_iff, read] at reads
            cases reads

end Variable

namespace Settings
variable {lookup : String → Option String}

theorem ofVariables?_eq_none_iff : ofVariables? lookup = none ↔
    ∃ text, lookup "LISTEN_ADDR" = some text ∧ SocketAddress.ofText? text = none := by
  rw [ofVariables?, Option.map_eq_none_iff, listenAddress?]
  cases lookup "LISTEN_ADDR" with
  | none => exact iff_of_false nofun nofun
  | some text =>
      refine ⟨fun refused => ⟨text, rfl, refused⟩, ?_⟩
      rintro ⟨_, ⟨⟩, refused⟩
      exact refused

theorem listenAddress?_takes {address : SocketAddress}
    (told : listenAddress? lookup = some address) :
    address = ((lookup "LISTEN_ADDR").bind SocketAddress.ofText?).getD defaults.listenAddress := by
  unfold listenAddress? at told
  cases found : lookup "LISTEN_ADDR" with
  | none =>
      rw [found] at told
      exact (Option.some.inj told).symm
  | some text =>
      rw [found] at told
      dsimp only at told
      rw [Option.bind_some, told, Option.getD_some]

/-- Every setting is what its own variable says. -/
theorem takes_of_ofVariables? {s : Settings} (of : ofVariables? lookup = some s) (x : Variable) :
    x.Takes (lookup x.name) (x.of s) := by
  obtain ⟨address, told, rfl⟩ := Option.map_eq_some_iff.mp of
  rw [Variable.takes_iff]
  cases x with
  | listenAddress => exact listenAddress?_takes told
  | _ =>
      simp only [Variable.name, Variable.of]
      cases lookup _ <;> rfl

end Settings

/-! ### Surroundings -/

/-- What a bridge finds when it looks for its settings. -/
structure Surroundings where
  environment : List (String × Bytes)
  files : FileTree
  working : Place

namespace Surroundings

def texts (p : Surroundings) : EnvFile.Names := Settings.environmentNames p.environment

/-- The nearest file of assignments; without one, nothing is assigned. -/
def file (p : Surroundings) : Bytes := (Settings.assignmentsFile? p.files p.working).getD []

def assignments (p : Surroundings) : EnvFile.Names := EnvFile.assignments p.texts p.file

/-- What a variable stands for: its text in the environment, else its first assignment. -/
def resolved (p : Surroundings) (name : String) : Option String :=
  (p.texts.get? name).or (p.assignments.get? name)

def load (p : Surroundings) : Except Settings.Fault Settings :=
  Settings.load p.environment p.files p.working

def AssignsNul (p : Surroundings) : Prop :=
  ∃ name value, p.texts.get? name = none ∧ p.assignments.get? name = some value ∧
    '\x00' ∈ value.toList

def NoAddress (p : Surroundings) : Prop :=
  ∃ text, p.resolved "LISTEN_ADDR" = some text ∧ SocketAddress.ofText? text = none

/-- Surroundings that have the same to say of a variable. It has one text in both environments; or
the environments are the same and so are the files, up to a line end before which the variable is
assigned; or it is assigned first by one and the same line, in which no name is looked up, or by
none. -/
inductive SameFor (p q : Surroundings) (name : String) : Prop
  | environment {text} : p.texts.get? name = some text → q.texts.get? name = some text →
      SameFor p q name
  | behind {head tail tail'} : p.texts = q.texts → p.file = head ++ Octet.newline :: tail →
      q.file = head ++ Octet.newline :: tail' →
      ((EnvFile.assignments p.texts (head ++ [Octet.newline])).get? name).isSome = true →
        SameFor p q name
  | line : p.texts.get? name = q.texts.get? name →
      EnvFile.assigning? name (EnvFile.lines p.file) =
        EnvFile.assigning? name (EnvFile.lines q.file) →
      (∀ line ∈ EnvFile.assigning? name (EnvFile.lines p.file), '$' ∉ line) → SameFor p q name

section Load
variable {p q : Surroundings}

theorem load_nulInValue (assigns : p.AssignsNul) : p.load = .error .nulInValue := by
  change Settings.ofAssignments p.texts p.assignments = _
  rw [Settings.ofAssignments, EnvFile.Names.load?_eq_none_iff.mpr assigns]

/-- Once the file is loaded, every variable is found with what it stands for. -/
theorem load_eq (noNul : ¬ p.AssignsNul) :
    p.load = (Settings.ofVariables? p.resolved).elim (.error .noAddress) .ok := by
  change Settings.ofAssignments p.texts p.assignments = _
  rw [Settings.ofAssignments]
  cases loaded : p.texts.load? p.assignments with
  | none => exact absurd (EnvFile.Names.load?_eq_none_iff.mp loaded) noNul
  | some names =>
      have same : names.get? = p.resolved := funext fun name => EnvFile.Names.get?_load loaded name
      dsimp only
      rw [same]

theorem load_noAddress (noNul : ¬ p.AssignsNul) (noAddress : p.NoAddress) :
    p.load = .error .noAddress := by
  rw [load_eq noNul, Settings.ofVariables?_eq_none_iff.mpr noAddress, Option.elim_none]

theorem load_ok (noNul : ¬ p.AssignsNul) (address : ¬ p.NoAddress) :
    ∃ s, p.load = .ok s ∧ ∀ x : Variable, x.Takes (p.resolved x.name) (x.of s) := by
  cases found : Settings.ofVariables? p.resolved with
  | none => exact absurd (Settings.ofVariables?_eq_none_iff.mp found) address
  | some s =>
      refine ⟨s, ?_, Settings.takes_of_ofVariables? found⟩
      rw [load_eq noNul, found, Option.elim_some]

/-- A file is loaded or assigns a value with a NUL, and with it loaded there are settings or the
address is none. -/
theorem load_cases (p : Surroundings) : (p.AssignsNul ∧ p.load = .error .nulInValue) ∨
    (¬ p.AssignsNul ∧ p.NoAddress ∧ p.load = .error .noAddress) ∨
    (¬ p.AssignsNul ∧ ¬ p.NoAddress ∧
      ∃ s, p.load = .ok s ∧ ∀ x : Variable, x.Takes (p.resolved x.name) (x.of s)) := by
  by_cases assigns : p.AssignsNul
  · exact .inl ⟨assigns, load_nulInValue assigns⟩
  · by_cases noAddress : p.NoAddress
    · exact .inr (.inl ⟨assigns, noAddress, load_noAddress assigns noAddress⟩)
    · exact .inr (.inr ⟨assigns, noAddress, load_ok assigns noAddress⟩)

theorem takes_of_load {s : Settings} (loads : p.load = .ok s) (x : Variable) :
    x.Takes (p.resolved x.name) (x.of s) := by
  rcases p.load_cases with ⟨-, fails⟩ | ⟨-, -, fails⟩ | ⟨-, -, s', loads', takes⟩
  · cases loads.symm.trans fails
  · cases loads.symm.trans fails
  · cases loads.symm.trans loads'
    exact takes x

theorem load_nulInValue_iff : p.load = .error .nulInValue ↔ p.AssignsNul := by
  rcases p.load_cases with ⟨assigns, fails⟩ | ⟨noNul, -, fails⟩ | ⟨noNul, -, s, loads, -⟩
  · exact iff_of_true fails assigns
  · rw [fails]
    exact iff_of_false nofun noNul
  · rw [loads]
    exact iff_of_false nofun noNul

theorem load_noAddress_iff : p.load = .error .noAddress ↔ ¬ p.AssignsNul ∧ p.NoAddress := by
  rcases p.load_cases with ⟨assigns, fails⟩ | ⟨noNul, noAddress, fails⟩ |
    ⟨noNul, address, s, loads, -⟩
  · rw [fails]
    exact iff_of_false nofun fun ⟨noNul, _⟩ => noNul assigns
  · exact iff_of_true fails ⟨noNul, noAddress⟩
  · rw [loads]
    exact iff_of_false nofun fun ⟨_, noAddress⟩ => address noAddress

/-- A setting is told by what its own variable stands for, whatever the others do. -/
theorem of_eq_of_resolved_eq {s t : Settings} (ours : p.load = .ok s) (theirs : q.load = .ok t)
    {x : Variable} (same : p.resolved x.name = q.resolved x.name) : x.of s = x.of t := by
  have mine := Variable.takes_iff.mp (takes_of_load ours x)
  rw [same] at mine
  exact mine.trans (Variable.takes_iff.mp (takes_of_load theirs x)).symm

theorem SameFor.resolved_eq {name : String} (same : SameFor p q name) :
    p.resolved name = q.resolved name := by
  unfold resolved
  cases same with
  | environment ours theirs =>
      rw [ours, theirs]
      rfl
  | @behind head tail tail' texts ours theirs assigned =>
      have kept := EnvFile.get?_assignments_append assigned
      rw [assignments, assignments, ours, theirs, ← texts, kept tail, kept tail']
  | line texts lines plain =>
      have told : p.assignments.get? name = q.assignments.get? name := by
        rw [assignments, assignments, EnvFile.assignments, EnvFile.assignments,
          EnvFile.get?_readLines plain, lines, EnvFile.get?_readLines (lines ▸ plain)]
      rw [texts, told]

end Load

/-- The settings of a bridge, in whatever surroundings. There are none where a value of the file
that counts holds a NUL, and otherwise only for the address to listen on. Every setting is what its
own variable stands for, read in its way, or its default, so surroundings in which a variable stands
for the same agree on its setting; and it stands for the same in surroundings that have the same to
say of it. -/
theorem settings_by_variable (p : Surroundings) :
    (p.load = .error .nulInValue ↔ p.AssignsNul) ∧
    (p.load = .error .noAddress ↔ ¬ p.AssignsNul ∧ p.NoAddress) ∧
    (¬ p.AssignsNul → ¬ p.NoAddress →
      ∃ s, p.load = .ok s ∧ ∀ x : Variable, x.Takes (p.resolved x.name) (x.of s)) ∧
    ∀ q : Surroundings,
      (∀ s t, p.load = .ok s → q.load = .ok t →
        ∀ x : Variable, p.resolved x.name = q.resolved x.name → x.of s = x.of t) ∧
      ∀ name, SameFor p q name → p.resolved name = q.resolved name := by
  refine ⟨load_nulInValue_iff, load_noAddress_iff, load_ok,
    fun q => ⟨?_, fun name => SameFor.resolved_eq⟩⟩
  exact fun s t ours theirs x same => of_eq_of_resolved_eq ours theirs same

def withFile (environment : List (String × Bytes)) (file : String) : Surroundings :=
  ⟨environment, ⟨[([".env"], .file (octets file))]⟩, []⟩

/-- A file that refers to one variable in the value for another. -/
def referring (environment : List (String × Bytes)) : Surroundings :=
  withFile environment "BRIDGE_ENV_NAME=$\x7bACCOUNTS_HOST\x7d\n"

theorem exists_load {p : Surroundings} {name : String}
    (told : p.load.toOption.map Settings.envName = some name) :
    ∃ s, p.load = .ok s ∧ s.envName = name := by
  obtain ⟨s, found, named⟩ := Option.map_eq_some_iff.mp told
  cases load : p.load with
  | error e =>
      rw [load] at found
      cases found
  | ok s' =>
      rw [load] at found
      cases found
      exact ⟨s, rfl, named⟩

/-- A variable of the environment can change what comes from another one, when the file refers to it
there; and there can be no settings where no address to listen on is told. -/
theorem referring_changes :
    (∃ s t, (referring []).load = .ok s ∧ (referring [("ACCOUNTS_HOST", octets "b")]).load = .ok t ∧
      s.envName = "" ∧ t.envName = "b") ∧
    (withFile [] "ACCOUNTS_HOST=\x00\n").load = .error .nulInValue ∧
      (withFile [] "ACCOUNTS_HOST=\x00\n").resolved "LISTEN_ADDR" = none := by
  obtain ⟨s, ours, named⟩ : ∃ s, (referring []).load = .ok s ∧ s.envName = "" :=
    exists_load (by decide +kernel)
  obtain ⟨t, theirs, named'⟩ : ∃ t, (referring [("ACCOUNTS_HOST", octets "b")]).load = .ok t ∧
      t.envName = "b" :=
    exists_load (by decide +kernel)
  exact ⟨⟨s, t, ours, theirs, named, named'⟩, rfl, rfl⟩

end Surroundings

end CommandBridge
