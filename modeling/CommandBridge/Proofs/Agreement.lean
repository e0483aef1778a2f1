import CommandBridge.Proofs.CommandGrammar
import CommandBridge.Proofs.Formats
import CommandBridge.Proofs.Json.Repeats

/-! Reading a thing of the wire straight from a text, and reading it from the text's value. Whatever
can be read in both ways is the same thing, and a text that only the second way takes repeats a name
of the thing. -/
namespace CommandBridge

open Json (Blanks Enclosed Following Assigned MemberText SpellsString SpellsObject Repeats nullTail)

namespace Channel

/-- The octets of a channel: its name in quotes, or an object of which the one member has the name
and is null. -/
inductive Body (c : Channel) : Bytes → Prop
  | name {text} : SpellsString text c.name → Body c text
  | object {inside} : Enclosed Octet.closeBrace MemberText [(c.name, Octet.smallN :: nullTail)]
      inside →
      Body c (Octet.openBrace :: inside)

def Spelled (text : Bytes) (c : Channel) : Prop :=
  ∃ before body after, Blanks before ∧ Blanks after ∧ text = before ++ (body ++ after) ∧ Body c body

theorem readNothing_sound {c c' : Channel} {bytes rest : Bytes}
    (reads : readNothing c bytes = .ok (c', rest)) :
    c' = c ∧ ∃ value last, Assigned (Octet.smallN :: nullTail) value ∧ Blanks last ∧
      bytes = value ++ (last ++ [Octet.closeBrace] ++ rest) := by
  obtain ⟨behind, colon, goes⟩ := Json.bind_ok reads
  obtain ⟨left, blank, rfl⟩ := Json.readColon_sound colon
  obtain ⟨right, blank', parts⟩ := Json.skipBlanks_sound behind
  split at goes
  · cases goes
  rename_i b tail front
  rw [front] at parts
  split at goes
  · subst ‹b = Octet.smallN›
    obtain ⟨behind', word, ends⟩ := Json.bind_ok goes
    obtain rfl := Json.readWord_eq_ok_iff.mp word
    obtain ⟨last, blank'', parts'⟩ := Json.skipBlanks_sound behind'
    split at ends
    · cases ends
    rename_i b' tail' front'
    rw [front'] at parts'
    split at ends
    · cases ends
      subst ‹b' = Octet.closeBrace›
      refine ⟨rfl, _, last, .colon blank blank', blank'', ?_⟩
      rw [parts, parts']
      simp
    · cases ends
  · cases goes

theorem readNothing_eq {value last : Bytes} (assigned : Assigned (Octet.smallN :: nullTail) value)
    (blank : Blanks last) (c : Channel) (rest : Bytes) :
    readNothing c (value ++ (last ++ Octet.closeBrace :: rest)) = .ok (c, rest) := by
  cases assigned with
  | @colon left right blank' blank'' =>
      have word : Json.readWord nullTail (nullTail ++ (last ++ Octet.closeBrace :: rest)) =
          .ok (last ++ Octet.closeBrace :: rest) := Json.readWord_eq_ok_iff.mpr rfl
      rw [List.append_assoc, List.cons_append, List.append_assoc, List.cons_append, readNothing,
        blank'.readColon_eq]
      simp only [bind, Except.bind, blank''.skip_cons (b := Octet.smallN) (by decide),
        if_true, word, blank.skip_cons (b := Octet.closeBrace) (by decide)]

theorem read_sound {text : Bytes} {c : Channel} (reads : read text = .ok c) : Spelled text c := by
  obtain ⟨after, blankAfter, reads⟩ := Json.whole_eq_ok_iff.mp reads
  obtain ⟨before, blank, parts⟩ := Json.skipBlanks_sound text
  split at reads
  · cases reads
  rename_i b behind front
  rw [front] at parts
  split at reads
  · subst ‹b = Octet.quote›
    obtain ⟨⟨name, rest⟩, string, goes⟩ := Json.bind_ok reads
    obtain ⟨body, rfl, undone⟩ := Json.readString_eq_ok_iff.mp string
    dsimp only at goes
    split at goes
    · cases goes
      obtain rfl := Channel.ofName?_eq_some_iff.mp ‹_›
      exact ⟨before, _, after, blank, blankAfter, by rw [parts]; simp, .name ⟨body, rfl, undone⟩⟩
    · cases goes
  split at reads
  · subst ‹b = Octet.openBrace›
    obtain ⟨⟨name, rest⟩, key, goes⟩ := Json.bind_ok reads
    obtain ⟨between, string, blank', rfl, spells⟩ := Json.readText_eq_ok_iff.mp key
    dsimp only at goes
    split at goes
    · cases goes
    · rename_i c' known
      obtain rfl := Channel.ofName?_eq_some_iff.mp known
      obtain ⟨rfl, value, last, assigned, blank'', rfl⟩ := readNothing_sound goes
      have one : MemberText (c.name, Octet.smallN :: nullTail) (string ++ value) :=
        ⟨string, value, spells, assigned, rfl⟩
      exact ⟨before, _, after, blank,
        blankAfter, by rw [parts]; simp, .object (.full blank' one (.close blank''))⟩
  · cases reads

theorem Spelled.read_eq {text : Bytes} {c : Channel} (spelled : Spelled text c) :
    read text = .ok c := by
  obtain ⟨before, body, after, blank, blankAfter, rfl, body⟩ := spelled
  refine Json.whole_eq_ok_iff.mpr ⟨after, blankAfter, ?_⟩
  cases body with
  | name spells =>
      obtain ⟨body, rfl, undone⟩ := spells
      have string : Json.readString (body ++ Octet.quote :: after) = .ok (c.name, after) :=
        Json.readString_eq_ok_iff.mpr ⟨body, rfl, undone⟩
      rw [List.cons_append, List.append_assoc, List.singleton_append, blank.skip_cons (by decide)]
      simp only [if_true, string, bind, Except.bind, ofName?_name]
  | object enclosed =>
      cases enclosed with
      | @full between _ _ _ _ blank' one following =>
          obtain ⟨key, value, spells, assigned, rfl⟩ := one
          cases following with
          | @close last blank'' =>
              have string :
                Json.readText (between ++ (key ++ (value ++ (last ++ Octet.closeBrace :: after)))) =
                  .ok (c.name, value ++ (last ++ Octet.closeBrace :: after)) :=
                Json.readText_eq_ok_iff.mpr ⟨between, key, blank', rfl, spells⟩
              have noQuote : Octet.openBrace ≠ Octet.quote := by decide
              rw [List.cons_append, blank.skip_cons (by decide)]
              simp only [List.append_assoc, List.cons_append, List.nil_append, if_neg noQuote,
                if_true, string, bind, Except.bind, ofName?_name]
              exact readNothing_eq assigned blank'' c after

theorem read_eq_ok_iff {text : Bytes} {c : Channel} : read text = .ok c ↔ Spelled text c :=
  ⟨read_sound, Spelled.read_eq⟩

theorem ofJson?_eq_some_iff {v : Json} {c : Channel} :
    ofJson? v = some c ↔ v = .string c.name ∨ v = .object [(c.name, .null)] := by
  constructor
  · intro of
    unfold ofJson? at of
    split at of
    · exact .inl (congrArg _ (ofName?_eq_some_iff.mp of))
    · exact .inr (by rw [ofName?_eq_some_iff.mp of])
    · cases of
  · rintro (rfl | rfl) <;> exact ofName?_name c

def names : List String := all.map name

theorem Spelled.value {text : Bytes} {c : Channel} (spelled : Spelled text c) :
    ∃ v, Json.read text = .ok v ∧ ofJson? v = some c ∧ ¬ Repeats names text := by
  obtain ⟨before, body, after, blank, blankAfter, rfl, body⟩ := spelled
  cases body with
  | name spells =>
      have reads := Json.read_eq_ok_iff.mpr
        ⟨before, body, after, blank, blankAfter, rfl, Json.spells_string_iff.mpr spells⟩
      obtain ⟨inner, rfl, -⟩ := spells
      exact ⟨_, reads, ofName?_name c, Json.not_repeats blank (by decide) (by decide) names⟩
  | @object inside enclosed =>
      have spelled : Json.SpellsMembers (Json.depthLimit - 1) [(c.name, Octet.smallN :: nullTail)]
          [(c.name, .null)] :=
        .cons ⟨rfl, Json.spells_null_iff.mpr rfl⟩ .nil
      have spells : Json.Spells Json.depthLimit (Octet.openBrace :: inside)
          (Json.ofMembers [(c.name, .null)]) :=
        .inr (.inr ⟨_, _, inside, rfl, rfl, enclosed, spelled⟩)
      have reads := Json.read_eq_ok_iff.mpr ⟨before, _, after, blank, blankAfter, rfl, spells⟩
      refine ⟨_, reads, ofJson?_eq_some_iff.mpr (.inr rfl), ?_⟩
      rw [(SpellsObject.braces blank blankAfter enclosed spelled).repeats_iff]
      rintro ⟨name, -, twice⟩
      have short := twice.trans (List.length_filter_le _ _)
      rw [List.length_singleton] at short
      omega

/-- An object that is a channel spells it when the name of the channel stands in the text once. -/
theorem spelled_of_object {text : Bytes} {texts : List (String × Bytes)} {members : Members}
    {c : Channel} (spells : SpellsObject text texts members)
    (single : Json.ofMembers members = .object [(c.name, .null)]) (once : ¬ Repeats names text) :
    Spelled text c := by
  have single := Json.object.inj single
  have named : ∀ m ∈ members, m.1 = c.name := by
    intro m within
    have held := Json.find?_foldl_insert_isSome [] within
    rw [single, Json.find?_cons] at held
    by_contra other
    rw [if_neg (Ne.symm other)] at held
    cases held
  rw [spells.repeats_iff] at once
  cases spells with
  | @braces before inside after _ _ blank blankAfter enclosed spelled =>
      have ours := spelled.filter (· = c.name)
      have all : members.filter (fun m => decide (m.1 = c.name)) = members :=
        List.filter_eq_self.mpr fun m within => decide_eq_true (named m within)
      have few : members.length < 2 := by
        rw [← all, ← ours.length_eq]
        by_contra many
        exact once ⟨c.name, List.mem_map_of_mem (by cases c <;> decide), Nat.le_of_not_lt many⟩
      cases spelled with
      | nil => cases single
      | @cons shown _ _ _ one rest =>
          cases rest with
          | cons _ _ =>
              rw [List.length_cons, List.length_cons] at few
              omega
          | nil =>
              obtain ⟨named, nothing⟩ := Prod.mk.inj (List.cons.inj single).1
              rw [named, nothing] at one
              have member : shown = (c.name, Octet.smallN :: nullTail) :=
                Prod.ext one.1 (Json.spells_null_iff.mp one.2)
              rw [member] at enclosed
              exact ⟨before, _, after, blank, blankAfter, rfl, .object enclosed⟩

/-- A channel is read from a text as from its value, unless the name of one stands twice in the
text. -/
theorem read_iff_ofJson? {text : Bytes} {v : Json} {c : Channel} (isJson : Json.read text = .ok v) :
    read text = .ok c ↔ ofJson? v = some c ∧ ¬ Repeats names text := by
  constructor
  · intro reads
    obtain ⟨v', isJson', of, once⟩ := (read_eq_ok_iff.mp reads).value
    cases isJson.symm.trans isJson'
    exact ⟨of, once⟩
  · rintro ⟨of, once⟩
    rcases ofJson?_eq_some_iff.mp of with rfl | rfl
    · obtain ⟨before, body, after, blank, blankAfter, parts, spells⟩ :=
        Json.read_eq_ok_iff.mp isJson
      exact read_eq_ok_iff.mpr
        ⟨before, body, after, blank, blankAfter, parts, .name (Json.spells_string_iff.mp spells)⟩
    · rcases Json.read_cases isJson with ⟨_, _, _, -, -, -, -, noObject⟩ |
        ⟨_, _, _, _, -, -, -, same, -⟩ |
        ⟨texts, members, spells, single⟩
      · exact absurd rfl (noObject _)
      · cases same
      · exact read_eq_ok_iff.mpr (spelled_of_object spells single.symm once)

end Channel

namespace Format

def ofJson? : (format : Format) → Json → Option format.Holds
  | .frame => Frame.record.ofJson?
  | .command => Command.record.ofJson?
  | .greeting => Greeting.record.ofJson?
  | .answer => Answer.record.ofJson?
  | .uploadStatus => UploadStatus.record.ofJson?
  | .failure => fun v => some ⟨v⟩
  | .versions => Versions.record.ofJson?
  | .channel => Channel.ofJson?

/-- The names that the members of a thing can have: those of its fields, those of the channels for a
channel, and none for a failure, which is any value. -/
def names : Format → List String
  | .frame => Frame.record.schema.names
  | .command => Command.record.schema.names
  | .greeting => Greeting.record.schema.names
  | .answer => Answer.record.schema.names
  | .uploadStatus => UploadStatus.record.schema.names
  | .failure => []
  | .versions => Versions.record.schema.names
  | .channel => Channel.names

end Format

theorem Json.Record.read_iff_ofJson? {α : Type} (record : Json.Record α) {text : Bytes} {v : Json}
    {thing : α} (distinct : record.schema.names.Nodup) (isJson : Json.read text = .ok v) :
    record.read text = .ok thing ↔ record.ofJson? v = some thing ∧
    ¬ Repeats record.schema.names text := by
  rw [Json.Record.read_iff_slots, Json.Record.ofJson?, Option.map_eq_some_iff]
  rw [← exists_and_right]
  refine exists_congr fun slots => ?_
  rw [Json.Schema.read_iff_ofJson? distinct isJson, and_right_comm]

theorem Failure.read_iff_ofJson? {text : Bytes} {v : Json} {failure : Failure}
    (isJson : Json.read text = .ok v) :
    (Json.read text).map Failure.mk = .ok failure ↔ some ⟨v⟩ = some failure ∧
    ¬ Repeats [] text := by
  have once : ¬ Repeats [] text := by
    rintro ⟨-, -, -, name, absent, -⟩
    exact List.not_mem_nil absent
  rw [isJson, and_iff_left once]
  exact ⟨fun same => congrArg some (Except.ok.inj same), fun same => congrArg Except.ok
    (Option.some.inj same)⟩

namespace Format

theorem read_iff_ofJson? (format : Format) {text : Bytes} {v : Json} {thing : format.Holds}
    (isJson : Json.read text = .ok v) :
    format.read text = .ok thing ↔ format.ofJson? v = some thing ∧ ¬ Repeats format.names text := by
  cases format with
  | frame => exact Frame.record.read_iff_ofJson? (by decide) isJson
  | command => exact Command.record.read_iff_ofJson? (by decide) isJson
  | greeting => exact Greeting.record.read_iff_ofJson? (by decide) isJson
  | answer => exact Answer.record.read_iff_ofJson? (by decide) isJson
  | uploadStatus => exact UploadStatus.record.read_iff_ofJson? (by decide) isJson
  | versions => exact Versions.record.read_iff_ofJson? (by decide) isJson
  | channel => exact Channel.read_iff_ofJson? isJson
  | failure => exact Failure.read_iff_ofJson? isJson

/-- What is read straight from a text is what its value is taken for. Where a value is taken for a
thing, its text is refused exactly when it repeats a name of the thing. -/
theorem readings_agree (format : Format) {text : Bytes} {v : Json}
    (isJson : Json.read text = .ok v) :
    (∀ thing, format.read text = .ok thing → format.ofJson? v = some thing) ∧
      ∀ thing, format.ofJson? v = some thing →
        ((∃ e, format.read text = .error e) ↔ Repeats format.names text) := by
  refine ⟨fun thing reads => ((format.read_iff_ofJson? isJson).mp reads).1,
    fun thing of => ⟨?_, ?_⟩⟩
  · rintro ⟨e, fails⟩
    by_contra once
    have reads := (format.read_iff_ofJson? isJson).mpr ⟨of, once⟩
    cases fails.symm.trans reads
  · intro twice
    cases reads : format.read text with
    | ok thing => exact absurd twice ((format.read_iff_ofJson? isJson).mp reads).2
    | error e => exact ⟨e, rfl⟩

def repeatedFrame : String := "\x7b\"event\":\"far\",\"args\":[],\"event\":\"monitor\"\x7d"

/-- The value of that text keeps the later event, and the frame is refused; a frame that tells
nothing twice is the same both ways. -/
theorem readings_agree_frames :
    (Json.read (octets repeatedFrame) =
      .ok (.object [("args", .array []), ("event", .string "monitor")]) ∧
      Format.frame.ofJson? (.object [("args", .array []), ("event", .string "monitor")]) =
        some ⟨"monitor", []⟩ ∧
      Repeats Format.frame.names (octets repeatedFrame)) ∧
    Json.read (octets spelledFrame) =
        .ok (.array [.string "far", .array [.object [("a", .array []), ("b", .string "2")]]]) ∧
      Format.frame.ofJson?
        (.array [.string "far", .array [.object [("a", .array []), ("b", .string "2")]]]) =
        some plainFrame := by
  constructor
  · have isJson : Json.read (octets repeatedFrame) =
        .ok (.object [("args", .array []), ("event", .string "monitor")]) := by cbv
    have refused : ∃ e, Format.frame.read (octets repeatedFrame) = .error e :=
      ⟨⟨.duplicateField "event", octets ":\"monitor\"\x7d", none⟩, by cbv⟩
    exact ⟨isJson, rfl, ((readings_agree .frame isJson).2 _ rfl).mp refused⟩
  · have isJson : Json.read (octets spelledFrame) =
        .ok (.array [.string "far", .array [.object [("a", .array []), ("b", .string "2")]]]) := by
      cbv
    exact ⟨isJson, (readings_agree .frame isJson).1 _ read_spelledFrame⟩

end Format

end CommandBridge
