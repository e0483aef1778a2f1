import CommandBridge.Proofs.Charset
import CommandBridge.Proofs.DestinationsAddress

/-! What becomes of the body of the last reply when the places to push to are passed on. It is read
as a text and written in UTF-8, so it is passed on as it came just where that keeps its octets. -/
namespace CommandBridge

namespace Fetch

/-- A reply is in the encoding that its label tells, and in UTF-8 where no label tells one. -/
inductive IsIn (encodings : Encodings) (reply : Reply) : Charset → Prop
  | told {label charset} : label? reply = some label →
      Charset.ofLabel? encodings label = some charset → IsIn encodings reply charset
  | untold : (∀ label, label? reply = some label → Charset.ofLabel? encodings label = none) →
      IsIn encodings reply .utf8

variable {encodings : Encodings} {reply : Reply}

theorem isIn_iff {declared : Charset} :
    IsIn encodings reply declared ↔ Fetch.charset encodings reply = declared := by
  constructor
  · intro isIn
    cases isIn with
    | told label known => rw [Fetch.charset, label, Option.bind_some, known, Option.getD_some]
    | untold unknown =>
        rw [Fetch.charset]
        cases label : label? reply with
        | none => rfl
        | some label' => rw [Option.bind_some, unknown label' label, Option.getD_none]
  · rintro rfl
    rw [Fetch.charset]
    cases label : label? reply with
    | none =>
        refine .untold fun label' known => ?_
        cases label.symm.trans known
    | some label' =>
        rw [Option.bind_some]
        cases known : Charset.ofLabel? encodings label' with
        | none =>
            refine .untold fun other same => ?_
            rw [← Option.some.inj (label.symm.trans same), known]
        | some charset => exact .told label known

theorem octets_bodyText (encodings : Encodings) (reply : Reply) :
    octets (bodyText encodings reply) =
      Utf8.encode ((charset encodings reply).decode (content reply)) := by
  rw [bodyText, octets, String.toList_ofList]

end Fetch

namespace Rehearsal

open Fetch (ComesWhole bodyText redirectLimit)

section Passed
variable {request : Http.Request} {r : Rehearsal} {key : String} {outgoing : Outgoing}
  {url : Url} {reply : Reply} {n' : Network}

/-- The text of a whole last reply is passed on. -/
theorem respond_passed (asks : request.AsksFor .destinations)
    (stored : r.bridge.storedKey = some key)
    (built : Lookup.destinationsRequest r.settings key = .ok outgoing)
    (leads : Fetch.Leads redirectLimit r.network outgoing (.reply url reply) n')
    (whole : ComesWhole r.settings.destinationsTimeout reply) :
    r.respond request =
      (⟨some (.text 200 (bodyText r.encodings reply)), []⟩, { r with network := n' }) := by
  have told : Lookup.Told r.settings r.encodings r.network (some key)
      (bodyText r.encodings reply) n' :=
    .passed built leads whole
  obtain ⟨answer, network⟩ := told.answer_eq
  rw [respond_onRoute asks rfl, Http.Inquiry.onRoute, answerInquiry, answerDestinations]
  simp only [stored, answer, network]

/-- A whole last reply is passed on with a status of success, whatever its own. Its octets stay the
same just where they begin with no byte order mark and are what the encoding of the reply keeps: the
octets of a text in UTF-8, ASCII in single octets, none in UTF-16, and in another encoding those
that are the octets of the text that they are read as. -/
theorem destinations_unchanged_iff (asks : request.AsksFor .destinations)
    (stored : r.bridge.storedKey = some key)
    (built : Lookup.destinationsRequest r.settings key = .ok outgoing)
    (leads : Fetch.Leads redirectLimit r.network outgoing (.reply url reply) n')
    (whole : ComesWhole r.settings.destinationsTimeout reply) {charset : Charset}
    (isIn : Fetch.IsIn r.encodings reply charset) :
    ∃ response, r.respond request = (⟨some response, []⟩, { r with network := n' }) ∧
      response.status = 200 ∧
      (response.body = Fetch.content reply ↔
        Charset.marked? (Fetch.content reply) = none ∧ charset.Keeps (Fetch.content reply)) := by
  refine ⟨_, respond_passed asks stored built leads whole, rfl, ?_⟩
  have body : (Http.Response.text 200 (bodyText r.encodings reply)).body =
      Utf8.encode (charset.decode (Fetch.content reply)) := by
    rw [← Fetch.isIn_iff.mp isIn, ← Fetch.octets_bodyText]
    rfl
  rw [body]
  exact Charset.encode_decode_eq_iff

end Passed

def nearNetwork (reply : Reply) : Network := ⟨some "[::1]:1".toList, false, [.replied reply], []⟩

def askedNetwork (path : String) : Network :=
  ⟨some "[::1]:1".toList, false, [], [.request (Lookup.nearRequest path)]⟩

theorem leads_nearNetwork {reply : Reply} (path : String) (proper : Fetch.IsProper reply)
    (settled : Fetch.location? (Lookup.nearRequest path) reply = none) :
    Fetch.Leads redirectLimit (nearNetwork reply) (Lookup.nearRequest path)
      (.reply (Lookup.nearRequest path).url reply) (askedNetwork path) :=
  .last rfl proper settled

def withAccounts (reply : Reply) : Rehearsal :=
  .start Lookup.nearAccounts ⟨[([".credential"], .file (octets "k"))]⟩ 0 []
    (nearNetwork reply) .none
    .scripted

theorem storedKey_withAccounts (reply : Reply) : (withAccounts reply).bridge.storedKey = some "k" :=
  Bridge.keyIn_eq_some_iff.mpr rfl

theorem accountsAsked_built (reply : Reply) :
    Lookup.destinationsRequest (withAccounts reply).settings "k" =
      .ok (Lookup.nearRequest "/api/vpc/list/k") := by
  show Lookup.destinationsRequest Lookup.nearAccounts "k" =
    .ok (Lookup.nearRequest "/api/vpc/list/k")
  rfl

/-- Letters beyond ASCII stay the same without a label. -/
theorem destinations_unchanged_accented :
    let reply : Reply := ⟨500, [], [0xC3, 0xA9], .whole, 3, isInterim_failed⟩
    ∃ response, ((withAccounts reply).respond Http.Route.destinations.bare).1 =
      ⟨some response, []⟩ ∧
      response.status = 200 ∧ response.body = [0xC3, 0xA9] := by
  intro reply
  have isIn : Fetch.IsIn .none reply .utf8 := .untold nofun
  obtain ⟨response, answered, status, unchanged⟩ :=
    destinations_unchanged_iff (Http.Route.bare_asksFor _) (storedKey_withAccounts reply)
      (accountsAsked_built reply) (leads_nearNetwork _ ⟨by decide, by decide⟩ rfl)
      (.inr ⟨rfl, .inl (by decide)⟩) isIn
  exact ⟨response, congrArg Prod.fst answered, status, unchanged.mpr ⟨rfl, ['é'], rfl⟩⟩

/-- An octet that begins no character is passed on as a replacement. -/
theorem destinations_changed_stray :
    let reply : Reply := ⟨200, [], [0xFF], .whole, 3, isInterim_ok⟩
    ∃ response, ((withAccounts reply).respond Http.Route.destinations.bare).1 =
      ⟨some response, []⟩ ∧
      Fetch.content reply = [0xFF] ∧ response.body = [0xEF, 0xBF, 0xBD] := by
  intro reply
  have answered := respond_passed (Http.Route.bare_asksFor _) (storedKey_withAccounts reply)
    (accountsAsked_built reply) (leads_nearNetwork _ ⟨by decide, by decide⟩ rfl)
    (.inr ⟨rfl, .inl (by decide)⟩)
  have body : (Http.Response.text 200 (bodyText .none reply)).body = [0xEF, 0xBF, 0xBD] :=
    (Fetch.octets_bodyText .none reply).trans rfl
  exact ⟨_, congrArg Prod.fst answered, rfl, body⟩

end Rehearsal

end CommandBridge
