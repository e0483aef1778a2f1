import CommandBridge.Proofs.DestinationsBody
import CommandBridge.Proofs.Formats
import CommandBridge.Rehearsal.Instruction

/-! The version that is installed and the newest one, from one text. The installed one goes without
all blanks at its end, the newest one without its line feeds, so a text is the same version on both
sides only where the blanks at its end are line feeds and no others are within. -/
namespace CommandBridge

namespace Text

def dropMark : List Char → List Char
  | '\uFEFF' :: rest => rest
  | cs => cs

def dropFeeds (cs : List Char) : List Char := cs.filter (· != '\n')

variable {cs : List Char}

theorem exists_blanks (cs : List Char) :
    ∃ tail, cs = trimEnd cs ++ tail ∧ ∀ c ∈ tail, isBlank c = true := by
  refine ⟨(cs.reverse.takeWhile isBlank).reverse, ?_, fun c within => ?_⟩
  · rw [trimEnd, ← List.reverse_append, List.takeWhile_append_dropWhile, List.reverse_reverse]
  · exact List.mem_takeWhile_imp (List.mem_reverse.mp within)

theorem dropMark_eq_self (noMark : cs.head? ≠ some '\uFEFF') : dropMark cs = cs := by
  unfold dropMark
  split
  · exact absurd rfl noMark
  · rfl

theorem newline_not_mem_dropFeeds : '\n' ∉ dropFeeds cs := by
  simp [dropFeeds]

theorem dropFeeds_eq_self (none : '\n' ∉ cs) : dropFeeds cs = cs := by
  refine List.filter_eq_self.mpr fun c within => ?_
  simp only [bne_iff_ne, ne_eq]
  rintro rfl
  exact none within

/-- A text loses the same to either rule just where it has line feeds at its end only, and no other
blanks there. -/
theorem dropFeeds_eq_trimEnd_iff : dropFeeds cs = trimEnd cs ↔
    '\n' ∉ trimEnd cs ∧ ∃ n, cs = trimEnd cs ++ List.replicate n '\n' := by
  constructor
  · intro same
    have none : '\n' ∉ trimEnd cs := same ▸ newline_not_mem_dropFeeds
    refine ⟨none, ?_⟩
    obtain ⟨tail, parts, -⟩ := exists_blanks cs
    have lost : dropFeeds tail = [] := by
      have split : dropFeeds cs = dropFeeds (trimEnd cs) ++ dropFeeds tail := by
        conv_lhs => rw [parts]
        exact List.filter_append ..
      rw [same, dropFeeds_eq_self none] at split
      exact List.self_eq_append_right.mp split
    refine ⟨tail.length, ?_⟩
    have feeds : tail = List.replicate tail.length '\n' := by
      refine List.eq_replicate_iff.mpr ⟨rfl, fun c within => ?_⟩
      simpa using List.filter_eq_nil_iff.mp lost c within
    rw [← feeds]
    exact parts
  · rintro ⟨none, n, parts⟩
    have feeds : dropFeeds (List.replicate n '\n') = [] := by simp [dropFeeds]
    calc dropFeeds cs = dropFeeds (trimEnd cs ++ List.replicate n '\n') := congrArg dropFeeds parts
      _ = dropFeeds (trimEnd cs) ++ dropFeeds (List.replicate n '\n') := List.filter_append ..
      _ = trimEnd cs := by rw [dropFeeds_eq_self none, feeds, List.append_nil]

/-- A byte order mark that is lost is missed. -/
theorem dropFeeds_ne_trimEnd (rest : List Char) : dropFeeds rest ≠ trimEnd ('\uFEFF' :: rest) := by
  intro same
  obtain ⟨tail, parts, blank⟩ := exists_blanks ('\uFEFF' :: rest)
  have marks := congrArg (List.count '\uFEFF') parts
  have noMark : '\uFEFF' ∉ tail := fun within => absurd (blank _ within) (by decide)
  rw [List.count_append, ← same, List.count_eq_zero.mpr noMark, List.count_cons_self] at marks
  have kept : List.count '\uFEFF' (dropFeeds rest) = List.count '\uFEFF' rest :=
    List.count_filter (by decide)
  omega

/-- What becomes of a text over the network and of the same text in a file: they stay the same just
where there is no byte order mark, no line feed within and nothing but line feeds behind. -/
theorem dropFeeds_dropMark_eq_iff : dropFeeds (dropMark cs) = trimEnd cs ↔
    cs.head? ≠ some '\uFEFF' ∧ '\n' ∉ trimEnd cs ∧
    ∃ n, cs = trimEnd cs ++ List.replicate n '\n' := by
  by_cases mark : cs.head? = some '\uFEFF'
  · obtain ⟨rest, rfl⟩ := List.head?_eq_some_iff.mp mark
    exact iff_of_false (dropFeeds_ne_trimEnd rest) fun all => all.1 mark
  · rw [dropMark_eq_self mark, dropFeeds_eq_trimEnd_iff]
    exact (and_iff_right mark).symm

end Text

theorem Charset.marked?_encode {cs : List Char} (noMark : cs.head? ≠ some '\uFEFF') :
    marked? (Utf8.encode cs) = none := by
  have short := Utf8.head_encode_le cs
  unfold marked?
  split
  · rename_i rest same
    obtain ⟨cs', rfl, -⟩ := Utf8.encode_eq_append_iff (c := '\uFEFF').mp same
    exact absurd rfl noMark
  · rename_i same
    exact absurd (short 0xFF (same ▸ rfl)) (by decide)
  · rename_i same
    exact absurd (short 0xFE (same ▸ rfl)) (by decide)
  · rfl

theorem Charset.decode_encode (cs : List Char) :
    Charset.utf8.decode (Utf8.encode cs) = Text.dropMark cs := by
  by_cases mark : cs.head? = some '\uFEFF'
  · obtain ⟨rest, rfl⟩ := List.head?_eq_some_iff.mp mark
    exact Utf8.decodeLossy_encode rest
  · rw [decode, marked?_encode mark, Text.dropMark_eq_self mark]
    exact Utf8.decodeLossy_encode cs

/-- Octets that write a text in an encoding: in UTF-8 those of the text, in another encoding any
that are read as the text, but for a byte order mark at its head. -/
def Charset.Writes (charset : Charset) (cs : List Char) (bytes : Bytes) : Prop :=
  match charset with
  | .utf8 => bytes = Utf8.encode cs
  | .utf16le | .utf16be | .windows1252 | .other _ => charset.decode bytes = Text.dropMark cs

theorem Charset.decode_eq_of_writes {charset : Charset} {cs : List Char} {bytes : Bytes}
    (writes : charset.Writes cs bytes) : charset.decode bytes = Text.dropMark cs := by
  cases charset with
  | utf8 =>
      subst writes
      exact decode_encode cs
  | utf16le | utf16be | windows1252 | other _ => exact writes

namespace Lookup

def versionRequest (settings : Settings) : Except FetchError Outgoing :=
  Fetch.request? "GET" settings.versionCheckUrl.toList none none []

/-- A reply brings a text: whole, in the encoding of the reply. -/
structure Brings (encodings : Encodings) (reply : Reply) (t : String) : Prop where
  bodied : Fetch.isBodiless reply.status = false
  whole : reply.bodyEnd = .whole
  written : ∃ charset, Fetch.IsIn encodings reply charset ∧ charset.Writes t.toList reply.body

theorem versionIn_octets (t : String) :
    versionIn (some (octets t)) = String.ofList (Text.trimEnd t.toList) := by
  rw [versionIn, Option.bind_some, octets, Utf8.decode?_encode]
  rfl

/-- The newest version is the text of the last reply, without a byte order mark and line feeds. -/
theorem newestVersion_eq {settings : Settings} {encodings : Encodings} {n n' : Network}
    {outgoing : Outgoing} {url : Url} {reply : Reply} {t : String}
    (built : versionRequest settings = .ok outgoing)
    (leads : Fetch.Leads Fetch.redirectLimit n outgoing (.reply url reply) n')
    (brings : Brings encodings reply t) :
    newestVersion settings encodings n =
      (some (.ok (String.ofList (Text.dropFeeds (Text.dropMark t.toList)))), n') := by
  have read : Fetch.readBody encodings none url reply =
      .text reply.status (String.ofList (Text.dropMark t.toList)) := by
    obtain ⟨charset, isIn, writes⟩ := brings.written
    have content : Fetch.content reply = reply.body := by simp [Fetch.content, brings.bodied]
    have text : Fetch.bodyText encodings reply = String.ofList (Text.dropMark t.toList) := by
      rw [Fetch.bodyText, Fetch.isIn_iff.mp isIn, content, Charset.decode_eq_of_writes writes]
    simp [Fetch.readBody, brings.bodied, Fetch.brokenLimit?, brings.whole, text]
  rw [versionRequest] at built
  simp [newestVersion, built, Fetch.runIfBuilt, Fetch.run, leads.follow_eq, read, result?,
    Text.dropFeeds, Except.map]

end Lookup

theorem Versions.read_text (v : Versions) :
    Versions.record.read (octets (Versions.record.text v)) = .ok v := by
  obtain ⟨current, newest⟩ := v
  refine Json.Record.read_text rfl ?_ ?_
  · exact List.forall_mem_cons.mpr ⟨.string current, List.forall_mem_singleton.mpr (.string newest)⟩
  · exact List.forall_mem_cons.mpr ⟨Json.doublesReadBack_string current,
      List.forall_mem_singleton.mpr (Json.doublesReadBack_string newest)⟩

namespace Rehearsal

/-- The settings, the encodings and the version of a rehearsal: what is the same once and for
all. -/
def fixed (r : Rehearsal) : Settings × Encodings × String :=
  (r.settings, r.encodings, r.localVersion)

section Fixed
variable (r : Rehearsal)

theorem call_fixed (task : Nat) (call : Call) : (r.call task call).2.fixed = r.fixed := by
  unfold Rehearsal.call
  split <;> rfl

theorem run_fixed (steps : List Step) : (r.run steps).1.fixed = r.fixed := rfl

theorem settle_fixed (effects : List Effect) : (r.settle effects).1.fixed = r.fixed := by
  induction effects with
  | nil => rfl
  | cons first rest ih =>
      cases first with
      | called task call =>
          have kept := r.call_fixed task call
          rcases called : r.call task call with ⟨outcome, r'⟩
          rw [called] at kept
          simp only [settle, called]
          cases outcome <;> exact kept
      | answered | emitted => exact ih

theorem runCalling_fixed (s : Step) : (r.runCalling s).1.fixed = r.fixed :=
  (settle_fixed (r.run [s]).1 (r.run [s]).2).trans (r.run_fixed [s])

theorem writeKeyFile_fixed : r.writeKeyFile.fixed = r.fixed := by
  unfold writeKeyFile
  split <;> rfl

theorem answer_fixed (request : Http.Request) : (r.answer request).2.fixed = r.fixed := by
  unfold answer answerInquiry
  split
  · rfl
  · rfl
  · rfl
  · exact writeKeyFile_fixed _
  · rename_i file archive _
    exact r.runCalling_fixed (.upload file archive)
  · rfl

theorem respond_fixed (request : Http.Request) : (r.respond request).2.fixed = r.fixed := by
  have kept := r.answer_fixed request
  unfold respond
  dsimp only
  split <;> exact kept

theorem send_fixed (label frame : String) : (r.send label frame).2.fixed = r.fixed := by
  unfold send
  split
  · rfl
  · rfl
  · rename_i link _ _
    dsimp only
    split
    · rfl
    · exact r.runCalling_fixed (.receive link (.text frame))

theorem handle_fixed (label : String) (channel : Channel) (command : Command) :
    (r.handle label channel command).2.fixed = r.fixed := by
  unfold handle
  split
  · rfl
  · rename_i link _
    rcases dispatched : r.bridge.dispatch link channel command with ⟨bridge, seen⟩
    exact settle_fixed { r with bridge } seen

theorem release_fixed (method : String) : (r.release method).2.fixed = r.fixed := by
  unfold release
  dsimp only
  split <;> rfl

theorem perform_fixed (i : Instruction) : (r.perform i).2.fixed = r.fixed := by
  cases i with
  | release method => exact r.release_fixed method
  | send label frame => exact r.send_fixed label frame
  | handle label channel command => exact r.handle_fixed label channel command
  | upload call => exact r.call_fixed _ call
  | request request => exact r.respond_fixed request
  | script | connect | close | emit | active | setKey | keys | change | «show» | expect => rfl

end Fixed

def after (r : Rehearsal) (instructions : List Instruction) : Rehearsal :=
  instructions.foldl (fun r i => (r.perform i).2) r

theorem after_fixed (r : Rehearsal) (instructions : List Instruction) :
    (r.after instructions).fixed = r.fixed := by
  induction instructions generalizing r with
  | nil => rfl
  | cons i rest ih => exact (ih (r.perform i).2).trans (r.perform_fixed i)

/-- What is answered where the installed version is a text without the blanks at its end, and the
newest one is the same text over the network. -/
def bothOf (t : String) : Versions :=
  ⟨String.ofList (Text.trimEnd t.toList), String.ofList (Text.dropFeeds (Text.dropMark t.toList))⟩

section Told
variable {r : Rehearsal} {request : Http.Request} {outgoing : Outgoing} {url : Url} {reply : Reply}
  {n' : Network} {t : String}

theorem respond_versions (asks : request.AsksFor .version)
    (installed : r.localVersion = Lookup.versionIn (some (octets t)))
    (built : Lookup.versionRequest r.settings = .ok outgoing)
    (leads : Fetch.Leads Fetch.redirectLimit r.network outgoing (.reply url reply) n')
    (brings : Lookup.Brings r.encodings reply t) :
    r.respond request =
      (⟨some (.ofText 200 "application-json" (Versions.record.text (bothOf t))), []⟩,
        { r with network := n' }) := by
  have found := Lookup.newestVersion_eq built leads brings
  rw [respond_onRoute asks rfl, Http.Inquiry.onRoute, answerInquiry, answerVersion]
  simp only [found, installed, Lookup.versionIn_octets]
  rfl

theorem bothOf_same_iff : (bothOf t).current = (bothOf t).newest ↔
    t.toList.head? ≠ some '\uFEFF' ∧ '\n' ∉ Text.trimEnd t.toList ∧
      ∃ n, t.toList = Text.trimEnd t.toList ++ List.replicate n '\n' := by
  rw [← Text.dropFeeds_dropMark_eq_iff, bothOf, String.ofList_inj]
  exact eq_comm

end Told

/-- Where the file of the version held a text at the start and the text of the last reply is the
same, both versions are told as an object, whatever has happened since: the installed one is the
text without the blanks at its end, the newest one the text without a byte order mark and line
feeds. They are the same just where the text begins with no mark, has no line feed before its last
sign and nothing but line feeds behind it. -/
theorem versions_same_iff {settings : Settings} {files : FileTree} {working : Place} {t : String}
    (holds : files.read? working settings.versionFile.toList = some (octets t)) (written : Nat)
    (network : Network) (encodings : Encodings) (backend : BackendKind)
    (instructions : List Instruction) {request : Http.Request} {outgoing : Outgoing}
    (asks : request.AsksFor .version) (built : Lookup.versionRequest settings = .ok outgoing)
    {url : Url} {reply : Reply} {n' : Network} (r : Rehearsal)
    (since : r = (start settings files written working network encodings backend).after
      instructions)
    (leads : Fetch.Leads Fetch.redirectLimit r.network outgoing (.reply url reply) n')
    (brings : Lookup.Brings encodings reply t) :
    ∃ response versions, r.respond request = (⟨some response, []⟩, { r with network := n' }) ∧
      response.status = 200 ∧ Versions.record.read response.body = .ok versions ∧
      versions.current = String.ofList (Text.trimEnd t.toList) ∧
      versions.newest = String.ofList (Text.dropFeeds (Text.dropMark t.toList)) ∧
      (versions.current = versions.newest ↔ t.toList.head? ≠ some '\uFEFF' ∧
        '\n' ∉ Text.trimEnd t.toList ∧
        ∃ n, t.toList = Text.trimEnd t.toList ++ List.replicate n '\n') := by
  have kept : r.fixed = (settings, encodings, Lookup.versionIn (some (octets t))) := by
    rw [since, after_fixed, ← holds]
    rfl
  obtain ⟨sameSettings, others⟩ := Prod.mk.inj kept
  obtain ⟨sameEncodings, installed⟩ := Prod.mk.inj others
  rw [← sameSettings] at built
  rw [← sameEncodings] at brings
  refine ⟨_, bothOf t, respond_versions asks installed built leads brings, rfl, ?_,
    rfl, rfl, bothOf_same_iff⟩
  simpa only [Http.Response.ofText] using Versions.read_text (bothOf t)

def hostSettings : Settings :=
  { Settings.defaults with versionCheckUrl := "http://[::1]:1/version" }

def versionFiles (t : String) : FileTree := ⟨[(["VERSION"], .file (octets t))]⟩

def hostReply (t : String) : Reply := ⟨200, [], octets t, .whole, 3, isInterim_ok⟩

def withHost (t : String) : Rehearsal :=
  .start hostSettings (versionFiles t) 0 [] (nearNetwork (hostReply t)) .none .scripted

theorem hostAsked_built :
    Lookup.versionRequest hostSettings = .ok (Lookup.nearRequest "/version") := rfl

theorem leads_hostReply (t : String) :
    Fetch.Leads Fetch.redirectLimit (nearNetwork (hostReply t)) (Lookup.nearRequest "/version")
      (.reply (Lookup.nearRequest "/version").url (hostReply t)) (askedNetwork "/version") :=
  leads_nearNetwork _ ⟨show 100 ≤ 200 by decide, show 200 ≤ 999 by decide⟩ rfl

theorem hostReply_brings (t : String) : Lookup.Brings .none (hostReply t) t :=
  ⟨rfl, rfl, .utf8, .untold nofun, rfl⟩

/-- A line feed at the end makes no difference, and a later change of the file none either. -/
theorem versions_same_line : ∃ response versions,
    (((withHost "1.0\n").after [.change (.file "VERSION" (octets "2.0"))]).respond
      Http.Route.version.bare).1 =
        ⟨some response, []⟩ ∧
      Versions.record.read response.body = .ok versions ∧ versions.current = versions.newest := by
  have holds : (versionFiles "1.0\n").read? [] hostSettings.versionFile.toList =
    some (octets "1.0\n") := rfl
  obtain ⟨response, versions, answered, -, read, -, -, same⟩ := versions_same_iff holds 0
    (nearNetwork (hostReply "1.0\n")) .none .scripted [.change (.file "VERSION" (octets "2.0"))]
      (Http.Route.bare_asksFor _)
    hostAsked_built _ rfl (leads_hostReply "1.0\n") (hostReply_brings "1.0\n")
  exact ⟨response, versions, congrArg Prod.fst answered, read,
    same.mpr ⟨by decide, by decide, 1, by decide⟩⟩

/-- A blank before the line feed stays in the newest version only. -/
theorem versions_differ_blank :
    ((withHost "1.0 \n").respond Http.Route.version.bare).1 =
      ⟨some (.ofText 200 "application-json" (Versions.record.text ⟨"1.0", "1.0 "⟩)), []⟩ := by
  have installed : (withHost "1.0 \n").localVersion = Lookup.versionIn (some (octets "1.0 \n")) :=
    rfl
  have answered :=
    respond_versions (Http.Route.bare_asksFor _) installed hostAsked_built
      (leads_hostReply "1.0 \n")
    (hostReply_brings "1.0 \n")
  have both : bothOf "1.0 \n" = ⟨"1.0", "1.0 "⟩ := by
    rw [bothOf, Versions.mk.injEq]
    exact ⟨by decide, by decide⟩
  rw [answered, both]

end Rehearsal

end CommandBridge
