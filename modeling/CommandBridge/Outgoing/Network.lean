import CommandBridge.Url.Basic

/-! The network as the bridge meets it: one peer that may or may not be reachable, and what it does
with each request that reaches it, in the order of the requests. -/
namespace CommandBridge

structure Outgoing where
  method : String
  url : Url
  apiKey : Option String
  contentType : Option String
  body : Bytes

/-- How the body of a reply ends: whole, broken off, or with a silence that does not end. -/
inductive BodyEnd where
  | whole
  | brokenOff
  | stalled
deriving DecidableEq

/-- Does a head with this status only inform, so that another one follows it? -/
def isInterim (status : Nat) : Bool := 100 ≤ status && status < 200 && status != 101

theorem isInterim_ok : isInterim 200 = false := rfl

theorem isInterim_failed : isInterim 500 = false := rfl

/-- A reply: its head, as much of the body as comes, and the greatest silence between two parts of
the body, in milliseconds. Heads that only inform may come before it; they are passed over, and none
of them is the head of a reply. -/
structure Reply where
  status : Nat
  headers : List (String × Bytes)
  body : Bytes
  bodyEnd : BodyEnd
  pause : Nat
  final : isInterim status = false

/-- What becomes of a request on its way: no connection or no proper answer, no answer ever, or a
reply. -/
inductive Delivery where
  | refused
  | unanswered
  | replied (reply : Reply)

/-- What a peer sees of a request: the request itself, or the greeting of a secured connection that
does not come about. -/
inductive Sighting where
  | request (request : Outgoing)
  | greeting

/-- The peer's address while it can be reached, whether connections with it can be secured, what it
does with the requests to come, and what it has seen. -/
structure Network where
  peer : Option (List Char)
  secures : Bool
  replies : List Delivery
  seen : List Sighting

namespace Network

def Takes (n : Network) (url : Url) : Prop :=
  n.peer = some url.authority ∧ (url.isSecured = true → n.secures = true)

def unreachable : Network := ⟨none, false, [], []⟩

/-- Sends a request, over a secured connection where its address asks for one. With no reply left
the peer hangs up. -/
def deliver (n : Network) (request : Outgoing) : Delivery × Network :=
  if n.peer = some request.url.authority then
    if request.url.isSecured && !n.secures then (.refused, { n with seen := n.seen ++ [.greeting] })
    else
      let n := { n with seen := n.seen ++ [Sighting.request request] }
      match n.replies with
      | [] => (.refused, n)
      | delivery :: rest => (delivery, { n with replies := rest })
  else (.refused, n)

end Network

def Reply.header? (r : Reply) (name : String) : Option Bytes :=
  (r.headers.find? fun h => h.1.toList.map Char.toLower == name.toList).map (·.2)

end CommandBridge
