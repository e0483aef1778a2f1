import CommandBridge.Proofs.KeyStores
import CommandBridge.Proofs.Routes

/-! The places to push to, as they are looked up for a browser. The answer is one of three: a word
where no key is kept, another where the lookup fails at any point, and otherwise the text of the
last reply, which came whole. -/
namespace CommandBridge

namespace Fetch

def IsProper (reply : Reply) : Prop := 100 ≤ reply.status ∧ reply.status ≤ 999

/-- Where a request leads over the network while `left` redirects may still be followed: it is lost,
it meets a silence without end, or a reply to it is the last. -/
inductive Leads : Nat → Network → Outgoing → Landed → Network → Prop
  | refused {left n n' request} : n.deliver request = (.refused, n') → Leads left n request .lost n'
  | unanswered {left n n' request} : n.deliver request = (.unanswered, n') →
      Leads left n request .silence n'
  | improper {left n n' request reply} : n.deliver request = (.replied reply, n') →
      ¬ IsProper reply → Leads left n request .lost n'
  | last {left n n' request reply} : n.deliver request = (.replied reply, n') → IsProper reply →
      location? request reply = none → Leads left n request (.reply request.url reply) n'
  | exhausted {n n' request reply url} : n.deliver request = (.replied reply, n') → IsProper reply →
      location? request reply = some url → Leads 0 n request .lost n'
  | astray {left n n' request reply url} : n.deliver request = (.replied reply, n') →
      IsProper reply →
      location? request reply = some url → isFit url = false → Leads left n request .lost n'
  | onward {left n n' n'' request reply url landed} : n.deliver request = (.replied reply, n') →
      IsProper reply → location? request reply = some url → isFit url = true →
      Leads left n' (redirected request reply.status url) landed n'' →
      Leads (left + 1) n request landed n''

theorem isProper_iff (reply : Reply) :
    IsProper reply ↔ ¬ (reply.status < 100 || 999 < reply.status) = true := by
  simp [IsProper]

theorem Leads.follow_eq {left : Nat} {n n' : Network} {request : Outgoing} {landed : Landed}
    (leads : Leads left n request landed n') : follow left n request = (landed, n') := by
  induction leads with
  | refused delivered => rw [follow, delivered]
  | unanswered delivered => rw [follow, delivered]
  | @improper left _ _ _ reply delivered improper =>
      rw [isProper_iff, not_not] at improper
      rw [follow, delivered]
      simp only [improper, if_true]
  | @last left _ _ _ reply delivered proper settled =>
      rw [follow, delivered]
      simp only [if_neg ((isProper_iff reply).mp proper), settled]
  | @exhausted _ _ _ reply _ delivered proper led =>
      rw [follow, delivered]
      simp only [if_neg ((isProper_iff reply).mp proper), led]
  | @astray left _ _ _ reply _ delivered proper led unfit =>
      rw [follow, delivered]
      simp only [if_neg ((isProper_iff reply).mp proper), led]
      cases left with
      | zero => rfl
      | succ left => simp only [unfit, Bool.false_eq_true, if_false]
  | @onward left _ _ _ _ reply _ _ delivered proper led fit _ ih =>
      rw [follow, delivered]
      simp only [if_neg ((isProper_iff reply).mp proper), led, fit, if_true, ih]

/-- Does a reply come whole, without a silence longer than the limit within it? One that has no body
by its status does. -/
def ComesWhole (limit : Duration) (reply : Reply) : Prop :=
  isBodiless reply.status = true ∨
    reply.bodyEnd = .whole ∧ (reply.pause ≤ limit.milliseconds ∨ reply.body = [])

section Body
variable {encodings : Encodings} {limit : Duration} {reply : Reply}

theorem readBody_whole (whole : ComesWhole limit reply) (url : Url) :
    readBody encodings (some limit) url reply = .text reply.status (bodyText encodings reply) := by
  rw [readBody]
  by_cases bodiless : isBodiless reply.status = true
  · rw [if_pos bodiless]
  · rw [if_neg bodiless]
    obtain ⟨ended, soon⟩ := whole.resolve_left bodiless
    have unbroken : brokenLimit? (some limit) reply = none := by
      rw [brokenLimit?, Option.filter_some, if_neg]
      rcases soon with short | empty
      · simp [Nat.not_lt.mpr short]
      · simp [empty]
    rw [unbroken, ended]

theorem readBody_cut (cut : ¬ ComesWhole limit reply) (encodings : Encodings) (url : Url) :
    (∃ e, readBody encodings (some limit) url reply = .failed e) ∨
      readBody encodings (some limit) url reply = .timedOut limit := by
  rw [ComesWhole, not_or] at cut
  obtain ⟨bodied, unended⟩ := cut
  rw [readBody, if_neg bodied]
  cases broken : brokenLimit? (some limit) reply with
  | some limit' =>
      obtain ⟨same, -⟩ := Option.filter_eq_some_iff.mp broken
      cases same
      exact .inr rfl
  | none =>
      cases ended : reply.bodyEnd with
      | brokenOff => exact .inl ⟨_, rfl⟩
      | stalled => exact .inr rfl
      | whole =>
          refine absurd ⟨ended, ?_⟩ unended
          by_cases empty : reply.body = []
          · exact .inr empty
          · refine .inl (Nat.not_lt.mp fun long => ?_)
            rw [brokenLimit?, Option.filter_some, if_pos (by simp [long, empty])] at broken
            cases broken

end Body

end Fetch

namespace Lookup

def destinationsRequest (settings : Settings) (key : String) : Except FetchError Outgoing :=
  Fetch.request? "GET" (destinationsAddress settings key) none none []

open Fetch

/-- What is told of the places to push to by the key that is kept, with the network after it.
Nothing is sent where no key is kept or no request is built. -/
inductive Told (settings : Settings) (encodings : Encodings) (n : Network) :
    Option String → String → Network → Prop
  | keyless : Told settings encodings n none "false" n
  | unbuilt {key e} : destinationsRequest settings key = .error e →
      Told settings encodings n (some key) "network" n
  | lost {key request n'} : destinationsRequest settings key = .ok request →
      Fetch.Leads redirectLimit n request .lost n' →
        Told settings encodings n (some key) "network" n'
  | unanswered {key request n'} : destinationsRequest settings key = .ok request →
      Fetch.Leads redirectLimit n request .silence n' →
      Told settings encodings n (some key) "network" n'
  | cutShort {key request url reply n'} : destinationsRequest settings key = .ok request →
      Fetch.Leads redirectLimit n request (.reply url reply) n' →
      ¬ ComesWhole settings.destinationsTimeout reply →
      Told settings encodings n (some key) "network" n'
  | passed {key request url reply n'} : destinationsRequest settings key = .ok request →
      Fetch.Leads redirectLimit n request (.reply url reply) n' →
      ComesWhole settings.destinationsTimeout reply →
      Told settings encodings n (some key) (bodyText encodings reply) n'

variable (settings : Settings) (encodings : Encodings) (n : Network)

variable {settings encodings n}

theorem destinations_eq {key : String} {request : Outgoing} {landed : Landed} {n' : Network}
    (built : destinationsRequest settings key = .ok request)
    (leads : Fetch.Leads redirectLimit n request landed n') :
    destinations settings encodings n (some key) =
      (result? (match landed with
        | .lost => .failed (.sending request.url)
        | .silence => .timedOut settings.destinationsTimeout
        | .reply url reply =>
          readBody encodings (some settings.destinationsTimeout) url reply), n') := by
  rw [destinationsRequest] at built
  rw [destinations]
  simp only [built, runIfBuilt, run, leads.follow_eq]
  cases landed <;> rfl

/-- What is told is what the lookup answers. -/
theorem Told.answer_eq {key : Option String} {body : String} {n' : Network}
    (told : Told settings encodings n key body n') :
    (destinations settings encodings n key).1.map destinationsResponse = some (.text 200 body) ∧
      (destinations settings encodings n key).2 = n' := by
  cases told with
  | keyless => exact ⟨rfl, rfl⟩
  | unbuilt failed =>
      rw [destinationsRequest] at failed
      rw [destinations]
      simp only [failed, runIfBuilt]
      exact ⟨rfl, trivial⟩
  | lost built leads =>
      rw [destinations_eq built leads]
      exact ⟨rfl, rfl⟩
  | unanswered built leads =>
      rw [destinations_eq built leads]
      exact ⟨rfl, rfl⟩
  | @cutShort _ _ url reply _ built leads cut =>
      rw [destinations_eq built leads]
      refine ⟨?_, rfl⟩
      rcases readBody_cut cut encodings url with ⟨e, failed⟩ | silent
      · simp only [failed]
        rfl
      · simp only [silent]
        rfl
  | @passed _ _ url reply _ built leads whole =>
      rw [destinations_eq built leads]
      refine ⟨?_, rfl⟩
      simp only [readBody_whole whole url]
      rfl

end Lookup

namespace Rehearsal

end Rehearsal

end CommandBridge
