import CommandBridge.Outgoing.Backend
import CommandBridge.Proofs.Utf8

/-! What a peer sees of a fetch. Whatever redirects make of a request, the key that goes along stays
the same, and the first thing that a peer within reach sees is the request as it was built. A key is
no obstacle to a request unless it holds a control character other than the tab. -/
namespace CommandBridge

/-- Does a key fit the header that it goes in? It may hold no control character but the tab. -/
def FitsHeader (key : String) : Prop :=
  ∀ c ∈ key.toList, c = '\t' ∨ 0x20 ≤ c.toNat ∧ c.toNat ≠ 0x7F

def Outgoing.withKey (request : Outgoing) (key : Option String) : Outgoing :=
  { request with apiKey := key }

namespace Fetch

theorem redirected_apiKey (request : Outgoing) (status : Nat) (url : Url) :
    (redirected request status url).apiKey = request.apiKey := by
  unfold redirected
  split <;> rfl

/-- A delivery shows the peer nothing but the request, and that for certain where the peer takes it.
Otherwise nothing comes of it. -/
theorem deliver_seen {n network : Network} {request : Outgoing} {delivery : Delivery}
    (delivered : n.deliver request = (delivery, network)) :
    ∃ new, network.seen = n.seen ++ new ∧
      (∀ outgoing, .request outgoing ∈ new → outgoing = request) ∧
      (n.Takes request.url → new = [.request request]) ∧
      (¬ n.Takes request.url → delivery = .refused) := by
  unfold Network.deliver at delivered
  split at delivered
  · rename_i near
    split at delivered
    · rename_i unsecured
      cases delivered
      have away : ¬ n.Takes request.url := by
        rintro ⟨-, secures⟩
        simp only [Bool.and_eq_true, Bool.not_eq_true'] at unsecured
        cases unsecured.2.symm.trans (secures unsecured.1)
      exact ⟨[.greeting], rfl, by simp, fun takes => absurd takes away, fun _ => rfl⟩
    · rename_i secured
      have takes : n.Takes request.url := by
        refine ⟨near, fun asks => ?_⟩
        simpa [asks] using secured
      refine ⟨[.request request], ?_, by simp, fun _ => rfl, absurd takes⟩
      dsimp only at delivered
      split at delivered <;> cases delivered <;> rfl
  · rename_i far
    cases delivered
    exact ⟨[], by simp, nofun, fun takes => absurd takes.1 far, fun _ => rfl⟩

/-- What a peer sees of a request, when all of it comes to `landed`: requests with its key, and the
request itself first of all where the peer takes it, as it does where a reply comes of it. -/
def Sees (request : Outgoing) (n : Network) (landed : Landed × Network) : Prop :=
  ∃ new, landed.2.seen = n.seen ++ new ∧
    (∀ outgoing, .request outgoing ∈ new → outgoing.apiKey = request.apiKey) ∧
    (n.Takes request.url → new.head? = some (.request request)) ∧
    ∀ url reply, landed.1 = .reply url reply → n.Takes request.url

section Delivered
variable {n network : Network} {request : Outgoing}

theorem takes_of_replied {reply : Reply}
    (delivered : n.deliver request = (.replied reply, network)) :
    n.Takes request.url := by
  obtain ⟨-, -, -, -, refuses⟩ := deliver_seen delivered
  by_cases takes : n.Takes request.url
  · exact takes
  · cases refuses takes

theorem sees_delivered {delivery : Delivery} {landed : Landed}
    (delivered : n.deliver request = (delivery, network))
    (replied : ∀ url reply, landed = .reply url reply → n.Takes request.url) :
    Sees request n (landed, network) := by
  obtain ⟨new, seen, only, first, -⟩ := deliver_seen delivered
  refine ⟨new, seen, ?_, fun takes => by rw [first takes]; rfl, replied⟩
  intro outgoing within
  rw [only outgoing within]

theorem sees_redirected {next : Outgoing} {reply : Reply} {landed : Landed × Network}
    (delivered : n.deliver request = (.replied reply, network))
    (sameKey : next.apiKey = request.apiKey) (later : Sees next network landed) :
    Sees request n landed := by
  obtain ⟨new, seen, -, first, -⟩ := deliver_seen delivered
  obtain ⟨more, seenLater, keyed, -⟩ := later
  have takes := takes_of_replied delivered
  rw [first takes] at seen
  refine ⟨.request request :: more, ?_, ?_, fun _ => rfl, fun _ _ _ => takes⟩
  · rw [seenLater, seen, List.append_assoc, List.singleton_append]
  · intro outgoing within
    rcases List.mem_cons.mp within with same | behind
    · cases same
      rfl
    · rw [keyed outgoing behind, sameKey]

end Delivered

theorem follow_sees (left : Nat) (n : Network) (request : Outgoing) :
    Sees request n (follow left n request) := by
  fun_induction follow left n request with
  | case1 _ _ _ _ delivered => exact sees_delivered delivered nofun
  | case2 _ _ _ _ delivered => exact sees_delivered delivered nofun
  | case3 _ _ _ _ _ delivered => exact sees_delivered delivered nofun
  | case4 _ _ _ _ _ delivered =>
      exact sees_delivered delivered fun _ _ _ => takes_of_replied delivered
  | case5 _ _ _ _ delivered => exact sees_delivered delivered nofun
  | case6 _ _ _ _ delivered _ _ _ _ _ ih =>
      exact sees_redirected delivered (redirected_apiKey ..) ih
  | case7 _ _ _ _ delivered => exact sees_delivered delivered nofun

/-- Every request that a peer sees of a fetch carries the key of the request that was built, and the
first of them is that request where the peer takes it, as it does where a text comes of it. -/
theorem run_seen (encodings : Encodings) (limit : Option Duration) (n : Network)
    (request : Outgoing) :
    ∃ new, (run encodings limit n request).2.seen = n.seen ++ new ∧
      (∀ outgoing, .request outgoing ∈ new → outgoing.apiKey = request.apiKey) ∧
      (n.Takes request.url → new.head? = some (.request request)) ∧
      ∀ status body, (run encodings limit n request).1 = .text status body →
        n.Takes request.url := by
  obtain ⟨new, seen, keyed, first, replied⟩ := follow_sees redirectLimit n request
  rw [run]
  rcases landed : follow redirectLimit n request with ⟨landing, network⟩
  rw [landed] at seen replied
  refine ⟨new, ?_⟩
  cases landing with
  | lost => exact ⟨seen, keyed, first, nofun⟩
  | silence => exact ⟨seen, keyed, first, fun status body told => by cases limit <;> cases told⟩
  | reply url reply => exact ⟨seen, keyed, first, fun _ _ _ => replied url reply rfl⟩

section Built
variable {method : String} {address : List Char} {apiKey contentType : Option String} {body : Bytes}
  {request : Outgoing}

/-- What is built is a request to the address, without the credentials in it: the address names a
host, the key is fit for a header, and requests can go there. -/
theorem request?_eq_ok_iff : request? method address apiKey contentType body = .ok request ↔
    ∃ url, Url.parse? address = some url ∧ url.hasHost = true ∧
      (apiKey.map isHeaderValue).getD true = true ∧ isFit url.withoutCredentials = true ∧
      request = ⟨method, url.withoutCredentials, apiKey, contentType, body⟩ := by
  unfold request?
  cases Url.parse? address with
  | none => simp
  | some url =>
      cases hosted : url.hasHost <;> cases keyed : (apiKey.map isHeaderValue).getD true <;>
        cases fit : isFit url.withoutCredentials <;> simp [hosted, fit, @eq_comm _ request]

theorem request?_built (built : request? method address apiKey contentType body = .ok request) :
    ∃ url, Url.parse? address = some url ∧ url.withoutCredentials.isHttp = true ∧
      request = ⟨method, url.withoutCredentials, apiKey, contentType, body⟩ := by
  obtain ⟨url, parsed, -, -, fit, rfl⟩ := request?_eq_ok_iff.mp built
  exact ⟨url, parsed, (Bool.and_eq_true_iff.mp fit).1, rfl⟩

end Built

/-! ### Keys -/

theorem isHeaderOctet_iff (b : UInt8) :
    isHeaderOctet b = true ↔ b.toNat = 9 ∨ 0x20 ≤ b.toNat ∧ b.toNat ≠ 0x7F := by
  simp [isHeaderOctet, Octet.tab, ← UInt8.toNat_inj, UInt8.le_iff_toNat_le]

theorem isHeaderOctet_encodeChar (c : Char) : (String.utf8EncodeChar c).all isHeaderOctet = true ↔
    c = '\t' ∨ 0x20 ≤ c.toNat ∧ c.toNat ≠ 0x7F := by
  by_cases ascii : c.toNat < 0x80
  · have tab : c = '\t' ↔ c.toNat = 9 := by
      rw [← Char.toNat_inj]
      rfl
    have number : c.toNat.toUInt8.toNat = c.toNat :=
      UInt8.toNat_ofNat_of_lt' (show _ < 256 by omega)
    rw [Utf8.encodeChar_of_lt ascii, List.all_cons, List.all_nil, Bool.and_true, isHeaderOctet_iff,
      number, tab]
  · refine ⟨fun _ => .inr (by omega), fun _ => List.all_eq_true.mpr fun b within => ?_⟩
    have high := Utf8.encodeChar_of_not_ascii ascii b within
    rw [isHeaderOctet_iff]
    omega

theorem isHeaderValue_iff (key : String) : isHeaderValue key = true ↔ FitsHeader key := by
  have each : isHeaderValue key =
      key.toList.all fun c => (String.utf8EncodeChar c).all isHeaderOctet := List.all_flatMap ..
  rw [each, List.all_eq_true]
  exact forall₂_congr fun c _ => isHeaderOctet_encodeChar c

section Keyed
variable (method : String) (address : List Char) (contentType : Option String) (body : Bytes)

theorem request?_of_fits {key : Option String} (fits : ∀ k ∈ key, FitsHeader k) :
    request? method address key contentType body =
      (request? method address none contentType body).map (·.withKey key) := by
  have valid : (key.map isHeaderValue).getD true = true := by
    cases key with
    | none => rfl
    | some key => exact (isHeaderValue_iff key).mpr (fits key rfl)
  unfold request?
  cases Url.parse? address with
  | none => rfl
  | some url =>
      simp only [valid, Option.map_none, Option.getD_none]
      cases url.hasHost <;> cases isFit url.withoutCredentials <;> rfl

theorem request?_of_unfit {key : String} (unfit : ¬ FitsHeader key) : ∃ e,
    request? method address (some key) contentType body = .error e ∧
      ∀ sent, request? method address none contentType body = .ok sent → e = .notBuilt := by
  have invalid : isHeaderValue key = false := by
    rw [← Bool.not_eq_true, isHeaderValue_iff]
    exact unfit
  unfold request?
  cases Url.parse? address with
  | none => exact ⟨_, rfl, nofun⟩
  | some url =>
      simp only [Option.map_some, Option.map_none, Option.getD_some, Option.getD_none, invalid]
      cases url.hasHost <;> simp

end Keyed

end Fetch

namespace RemoteBackend

theorem request_of_fits {key : Option String} (fits : ∀ k ∈ key, FitsHeader k) (address : String)
    (call : Call) : request address key call = (request address none call).map (·.withKey key) :=
  Fetch.request?_of_fits _ _ _ _ fits

theorem request_of_unfit {key : String} (unfit : ¬ FitsHeader key) (address : String)
    (call : Call) :
    ∃ e, request address (some key) call = .error e ∧
      ∀ sent, request address none call = .ok sent → e = .notBuilt :=
  Fetch.request?_of_unfit _ _ _ _ unfit

theorem apiKey_of_request {address : String} {key : Option String} {call : Call} {sent : Outgoing}
    (built : request address key call = .ok sent) : sent.apiKey = key := by
  obtain ⟨url, -, -, rfl⟩ := Fetch.request?_built built
  rfl

end RemoteBackend

end CommandBridge
