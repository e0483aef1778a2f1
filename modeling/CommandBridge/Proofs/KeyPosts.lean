import CommandBridge.Proofs.Destinations
import CommandBridge.Proofs.FileTree
import CommandBridge.Proofs.Forms
import CommandBridge.Proofs.Json.Schemas
import CommandBridge.Proofs.MediaTypes
import CommandBridge.Proofs.SharedKey

/-! A key that is handed over as JSON and as a form. The grammar says of the octets of a request
which key they spell; what a request leads to depends on that key alone, not on the way in which it
is written. -/
namespace CommandBridge

namespace KeyPost

open Json (Blanks Enclosed MemberText Passes SpellsString depthLimit)

/-- The octets of a key in JSON. An object has one member with its name, a string; what other
members it has need be of the form of values only. An array has the key alone. -/
inductive Body : Bytes → String → Prop
  | object {members inside m key} : Enclosed Octet.closeBrace MemberText members inside →
      members.filter (·.1 = memberName) = [m] → SpellsString m.2 key →
      (∀ other ∈ members, other.1 ≠ memberName → Passes none other.2) →
        Body (Octet.openBrace :: inside) key
  | array {inside key} :
      Enclosed Octet.closeBracket (fun item text => Json.Spells (depthLimit - 1) text item)
        [.string key] inside →
      Body (Octet.openBracket :: inside) key

def Spelled (text : Bytes) (key : String) : Prop :=
  ∃ before body after, Blanks before ∧ Blanks after ∧ text = before ++ (body ++ after) ∧
    Body body key

variable {members : List (String × Bytes)} {key : String}

theorem among_iff : Json.Slots.Among (depthLimit - 1) record.schema.fields members (key, ()) ↔
    (∃ m, members.filter (·.1 = memberName) = [m] ∧ SpellsString m.2 key) ∧
      ∀ other ∈ members, other.1 ≠ memberName → Passes none other.2 := by
  refine and_congr ?_ ?_
  · refine Json.Field.among_iff.trans ?_
    simp only [Json.Field.required, reduceCtorEq, and_false, false_or]
    exact exists_congr fun m => and_congr Iff.rfl (Json.Kind.spells_text_iff.trans
      Json.spells_string_iff)
  · show (∀ m ∈ members.filter (·.1 ≠ memberName), Passes none m.2) ↔ _
    simp [List.mem_filter]

theorem ofItems?_iff {items : List Json} :
    Json.Slots.ofItems? record.schema.fields items = some (key, ()) ↔ items = [.string key] := by
  constructor
  · intro of
    cases items with
    | nil => cases of
    | cons first rest =>
        obtain ⟨isKey, ends⟩ := Json.Slots.ofItems?_cons_iff.mp of
        obtain rfl := Json.Kind.ofJson?_text_iff.mp isKey
        cases rest with
        | nil => rfl
        | cons second rest => cases ends
  · rintro rfl
    rfl

theorem spells_iff {body : Bytes} : record.Spells body ⟨key⟩ ↔ Body body key := by
  constructor
  · rintro ⟨⟨key', ⟨⟩⟩, spells, same⟩
    cases same
    rcases spells with ⟨members, inside, rfl, enclosed, among⟩ | ⟨items, inside, rfl, enclosed, of⟩
    · obtain ⟨⟨m, one, spells⟩, others⟩ := among_iff.mp among
      exact .object enclosed one spells others
    · obtain rfl := ofItems?_iff.mp of
      exact .array enclosed
  · intro body
    refine ⟨(key, ()), ?_, rfl⟩
    cases body with
    | object enclosed one spells others =>
        exact .inl ⟨_, _, rfl, enclosed, among_iff.mpr ⟨⟨_, one, spells⟩, others⟩⟩
    | array enclosed => exact .inr ⟨_, _, rfl, enclosed, ofItems?_iff.mpr rfl⟩

/-- The texts that are read as a key in JSON are those that spell it. -/
theorem read_iff_spelled {text : Bytes} : record.read text = .ok ⟨key⟩ ↔ Spelled text key := by
  simp only [Json.Record.read_eq_ok_iff, spells_iff]
  rfl

/-- What may stand behind the type of JSON: nothing, or parameters. -/
def IsTypeEnd (tail : List Char) : Prop :=
  tail = [] ∨ ∃ more, tail = ';' :: more ∧ Http.MediaType.Parameters more

/-- A request that hands over a key as JSON: its type is that of JSON, alone or with parameters, and
its body is not too long and spells the key. -/
structure IsJson (request : Http.Request) (key : String) : Prop where
  typed : ∃ tail, request.headerText? "content-type" = some (jsonType ++ tail) ∧ IsTypeEnd tail
  short : request.body.length ≤ bodyLimit
  spelled : Spelled request.body key

/-- A request that hands over a key as a form: its type begins as that of forms does, and its body
is not too long and spells fields of which one has the name of the key. -/
structure IsForm (request : Http.Request) (key : String) : Prop where
  typed : ∃ tail, request.headerText? "content-type" = some (formType ++ tail)
  short : request.body.length ≤ bodyLimit
  spelled : ∃ fields, Form.Text fields request.body ∧
    fields.filter (fun field => field.1 == memberName) = [(memberName, key)]

variable {request : Http.Request}

theorem IsJson.ofRequest_eq (isJson : IsJson request key) : ofRequest request = .ok ⟨key⟩ := by
  obtain ⟨tail, typed, ends⟩ := isJson.typed
  have noToken : ∀ c ∈ tail.head?, Http.MediaType.isToken c = false := by
    rcases ends with rfl | ⟨more, rfl, -⟩
    · exact nofun
    · rintro _ ⟨⟩
      decide
  have media : ((Http.MediaType.ofText? (jsonType ++ tail)).map (·.isJson)).getD false = true :=
    (Http.MediaType.isJson_iff noToken).mpr ends
  have begins : jsonType.isPrefixOf (jsonType ++ tail) = true := by cbv
  have read := read_iff_spelled.mpr isJson.spelled
  simp [ofRequest, typed, begins, ofJsonBody, media, Nat.not_lt.mpr isJson.short, read]

theorem IsForm.ofRequest_eq (isForm : IsForm request key) : ofRequest request = .ok ⟨key⟩ := by
  obtain ⟨tail, typed⟩ := isForm.typed
  obtain ⟨fields, text, one⟩ := isForm.spelled
  refine ofRequest_formType typed isForm.short ?_
  rw [text.pairs_eq, ofPairs, one]

/-- A request of which the type is that of JSON, and goes on as no parameters do, hands over
nothing. -/
theorem ofRequest_notJson {tail : List Char}
    (typed : request.headerText? "content-type" = some (jsonType ++ tail))
    (noToken : ∀ c ∈ tail.head?, Http.MediaType.isToken c = false)
    (other : ¬ IsTypeEnd tail) :
    ofRequest request = .error .notJson := by
  have media : ((Http.MediaType.ofText? (jsonType ++ tail)).map (·.isJson)).getD false = false :=
    Bool.eq_false_iff.mpr fun isJson => other ((Http.MediaType.isJson_iff noToken).mp isJson)
  have begins : jsonType.isPrefixOf (jsonType ++ tail) = true := by cbv
  simp [ofRequest, typed, begins, ofJsonBody, media]

end KeyPost

namespace Rehearsal

theorem answerKey_eq (r : Rehearsal) (request : Http.Request) : r.answerKey request =
    let taken := r.bridge.perform (.postKey request r.isKeyFileWritable)
    (⟨answerIn taken.2, taken.2⟩, { r with bridge := taken.1 }.writeKeyFile) := rfl

theorem bridge_writeKeyFile (r : Rehearsal) : r.writeKeyFile.bridge = r.bridge := by
  unfold writeKeyFile
  split <;> rfl

theorem files_writeKeyFile {r : Rehearsal} (unwritable : r.isKeyFileWritable = false) :
    r.writeKeyFile.files = r.files := by
  unfold writeKeyFile
  split
  · rename_i content _
    have failed : (r.files.write? r.working r.settings.credentialPath content).isSome = false :=
      (FileTree.write?_isSome _ _ _ _ []).trans unwritable
    rw [Option.not_isSome_iff_eq_none.mp (Bool.eq_false_iff.mp failed)]
    rfl
  · rfl

section Taken
variable {request : Http.Request} {post : KeyPost} {r : Rehearsal}

/-- A key is taken into the file and for calls where the file can be written. -/
theorem answerKey_taken (read : KeyPost.ofRequest request = .ok post)
    (writable : r.isKeyFileWritable = true) :
    (r.answerKey request).1.response = some (.text 200 "true") ∧
      (r.answerKey request).2.files.read? r.working r.settings.credentialPath =
        some (octets post.key) ∧
      (r.answerKey request).2.bridge.keyFile = some (octets post.key) ∧
      (r.answerKey request).2.bridge.liveKey = some post.key := by
  obtain ⟨files, written⟩ := Option.isSome_iff_exists.mp
    ((FileTree.write?_isSome r.files r.working r.settings.credentialPath (octets post.key) []).trans
      writable)
  rw [answerKey_eq, writable, Bridge.perform_taken _ read, bridge_writeKeyFile]
  refine ⟨rfl, ?_, rfl, rfl⟩
  simp only [writeKeyFile, written, Option.getD_some]
  exact FileTree.read?_of_write? written

/-- Where the file cannot be written, a key is not taken, and the file and calls keep theirs. -/
theorem answerKey_unsaved (read : KeyPost.ofRequest request = .ok post)
    (unwritable : r.isKeyFileWritable = false) :
    (r.answerKey request).1.response = some Bridge.unsavedResponse ∧
    (r.answerKey request).2.files = r.files ∧
      (r.answerKey request).2.bridge.keyFile = r.bridge.keyFile ∧
      (r.answerKey request).2.bridge.liveKey = r.bridge.liveKey := by
  rw [answerKey_eq, unwritable, Bridge.perform_unsaved _ read, bridge_writeKeyFile]
  exact ⟨rfl, files_writeKeyFile unwritable, rfl, rfl⟩

/-- A request that hands over nothing is answered with what is wrong with it. -/
theorem answerKey_refused {e : KeyPostError} (read : KeyPost.ofRequest request = .error e)
    (r : Rehearsal) :
    (r.answerKey request).1.response = some (ServiceError.invalidRequest e.text).response ∧
      (r.answerKey request).2.bridge.keyFile = r.bridge.keyFile ∧
      (r.answerKey request).2.bridge.liveKey = r.bridge.liveKey := by
  rw [answerKey_eq, Bridge.perform_refused _ read, bridge_writeKeyFile]
  exact ⟨rfl, rfl, rfl⟩

end Taken

/-- A key that is handed over as JSON and as a form is the same key, however either spells it, and
from then on nothing tells the two apart: one request is taken up as the other is, in whatever
state, and where they are answered the answer, the file and the key that calls carry are the same.
The key is kept where the file can be written. A request of which the type is that of JSON, and goes
on as no parameters do, is refused, and the file and calls keep theirs. -/
theorem key_json_form {json form : Http.Request} {key : String} (isJson : KeyPost.IsJson json key)
    (isForm : KeyPost.IsForm form key) (handsJson : json.AsksFor .credential)
    (handsForm : form.AsksFor .credential) :
    (∀ b : Bridge, b.step (.postKey json) = b.step (.postKey form)) ∧
    (∀ r : Rehearsal, r.respond json = r.respond form ∧
      (r.isKeyFileWritable = true → (r.respond json).1.response = some (.text 200 "true") ∧
        (r.respond json).2.files.read? r.working r.settings.credentialPath = some (octets key) ∧
        (r.respond json).2.bridge.keyFile = some (octets key) ∧
        (r.respond json).2.bridge.liveKey = some key) ∧
      (r.isKeyFileWritable = false → (r.respond json).1.response = some Bridge.unsavedResponse ∧
        (r.respond json).2.files = r.files ∧ (r.respond json).2.bridge.keyFile = r.bridge.keyFile ∧
        (r.respond json).2.bridge.liveKey = r.bridge.liveKey)) ∧
    ∀ (other : Http.Request) (tail : List Char), other.AsksFor .credential →
      other.headerText? "content-type" = some (KeyPost.jsonType ++ tail) →
      (∀ c ∈ tail.head?, Http.MediaType.isToken c = false) → ¬ KeyPost.IsTypeEnd tail →
      ∀ r : Rehearsal, ∃ response, (r.respond other).1.response = some response ∧
        response.status = 400 ∧
        (r.respond other).2.bridge.keyFile = r.bridge.keyFile ∧
        (r.respond other).2.bridge.liveKey = r.bridge.liveKey := by
  have same : ∀ b : Bridge, b.postKey json = b.postKey form := by
    intro b
    rw [Bridge.postKey, isJson.ofRequest_eq, Bridge.postKey, isForm.ofRequest_eq]
  refine ⟨same, fun r => ?_, fun other tail hands typed noToken goesOn r => ?_⟩
  · have answers : r.answerKey json = r.answerKey form := by
      have steps : ∀ writable, r.bridge.perform (.postKey json writable) =
          r.bridge.perform (.postKey form writable) := by
        intro writable
        simp only [Bridge.perform, Undertaking.steps, Bridge.run, Bridge.step, same]
      rw [answerKey_eq, answerKey_eq, steps]
    rw [respond_onRoute handsJson rfl, respond_onRoute handsForm rfl]
    exact ⟨answers, answerKey_taken isJson.ofRequest_eq, answerKey_unsaved isJson.ofRequest_eq⟩
  · obtain ⟨refused, kept⟩ := answerKey_refused (KeyPost.ofRequest_notJson typed noToken goesOn) r
    rw [respond_onRoute hands rfl]
    exact ⟨_, refused, rfl, kept⟩

def jsonPost (contentType body : String) : Http.Request where
  method := "POST"
  target := ⟨none, none, "/credential".toList, none⟩
  headers := [⟨"content-type", octets contentType⟩]
  body := octets body

def fresh : Rehearsal := .start Settings.defaults .empty 0 [] .unreachable .none .scripted

theorem isForm_escaped : KeyPost.IsForm (Bridge.formPost "%C3%A9+%2b") "é +" where
  typed := ⟨[], by cbv⟩
  short := by cbv
  spelled := by
    have name : Form.Spells (octets "apiKey") (octets "apiKey") := by
      repeat' first | exact .nil | refine .plain (by decide) ?_
    have value : Form.Spells (octets "%C3%A9+%2b") (octets "é +") :=
      @Form.Spells.escape 0x43 0x33 0xC 0x3 _ _ rfl rfl <|
        @Form.Spells.escape 0x41 0x39 0xA 0x9 _ _ rfl rfl <|
        .plus <| @Form.Spells.escape 0x32 0x62 0x2 0xB _ _ rfl rfl .nil
    exact ⟨[("apiKey", "é +")], .last (.assign name (by decide) value), rfl⟩

theorem isJson_escaped :
    KeyPost.IsJson (jsonPost "application/json; charset=utf-8" "\x7b\"apiKey\":\"\\u00e9 +\"\x7d")
      "é +" where
  typed := ⟨"; charset=utf-8".toList, by cbv, .inr ⟨" charset=utf-8".toList, rfl,
    (Http.MediaType.parameters?_isSome_iff (Nat.lt_succ_self _)).mp (by decide)⟩⟩
  short := by cbv
  spelled := KeyPost.read_iff_spelled.mp (by cbv)

def spacedEnd : List Char := " ; charset=utf-8".toList

theorem typed_spaced (body : String) :
    (jsonPost "application/json ; charset=utf-8" body).headerText?
    "content-type" = some (KeyPost.jsonType ++ spacedEnd) := by
  show Http.valueText? (octets "application/json ; charset=utf-8") = _
  decide

theorem noToken_spacedEnd : ∀ c ∈ spacedEnd.head?, Http.MediaType.isToken c = false := by
  rintro _ ⟨⟩
  decide

theorem not_isTypeEnd_spacedEnd : ¬ KeyPost.IsTypeEnd spacedEnd := by
  rintro (none | ⟨more, begins, -⟩)
  · cases none
  · exact absurd (List.cons.inj begins).1 (by decide)

/-- An accented letter, a space and a plus sign, each escaped as the one and the other do it, and a
type with a space in front of the semicolon. -/
theorem key_json_form_escaped :
    let json := jsonPost "application/json; charset=utf-8" "\x7b\"apiKey\":\"\\u00e9 +\"\x7d"
    let form := Bridge.formPost "%C3%A9+%2b"
    let spaced := jsonPost "application/json ; charset=utf-8" "\x7b\"apiKey\":\"k\"\x7d"
    KeyPost.IsJson json "é +" ∧ KeyPost.IsForm form "é +" ∧ json.AsksFor .credential ∧
      form.AsksFor .credential ∧ fresh.respond json = fresh.respond form ∧
      (fresh.respond json).2.bridge.liveKey = some "é +" ∧
      ∃ response, (fresh.respond spaced).1.response = some response ∧ response.status = 400 := by
  intro json form spaced
  obtain ⟨-, answers, refuses⟩ := key_json_form isJson_escaped isForm_escaped ⟨rfl, rfl⟩ ⟨rfl, rfl⟩
  obtain ⟨same, taken, -⟩ := answers fresh
  obtain ⟨response, refused, status, -⟩ :=
    refuses spaced _ ⟨rfl, rfl⟩ (typed_spaced _) noToken_spacedEnd
      not_isTypeEnd_spacedEnd fresh
  exact ⟨isJson_escaped, isForm_escaped, ⟨rfl, rfl⟩, ⟨rfl, rfl⟩, same, (taken (by decide)).2.2.2,
    response, refused, status⟩

/-- With a space in front of the semicolon, JSON is not taken for JSON. -/
theorem key_json_spaced :
    let json := jsonPost "application/json ; charset=utf-8" "\x7b\"apiKey\":\"k\"\x7d"
    KeyPost.Spelled json.body "k" ∧ json.body.length ≤ KeyPost.bodyLimit ∧
      json.AsksFor .credential ∧
      (fresh.respond json).1.response =
        some (ServiceError.invalidRequest KeyPostError.notJson.text).response ∧
      (fresh.respond (Bridge.formPost "k")).1.response = some (.text 200 "true") := by
  intro json
  have refused : KeyPost.ofRequest json = .error .notJson :=
    KeyPost.ofRequest_notJson (typed_spaced _) noToken_spacedEnd not_isTypeEnd_spacedEnd
  have taken : KeyPost.ofRequest (Bridge.formPost "k") = .ok ⟨"k"⟩ :=
    KeyPost.ofRequest_form (by cbv) (by cbv) (by cbv)
  have hands : json.AsksFor .credential := ⟨rfl, rfl⟩
  have hands' : (Bridge.formPost "k").AsksFor .credential := ⟨rfl, rfl⟩
  refine ⟨KeyPost.read_iff_spelled.mp (by cbv), by cbv, hands, ?_, ?_⟩
  · rw [respond_onRoute hands rfl]
    exact (answerKey_refused refused fresh).1
  · rw [respond_onRoute hands' rfl]
    exact (answerKey_taken taken (by decide)).1

end Rehearsal

end CommandBridge
