import CommandBridge.Proofs.Fetching
import CommandBridge.Proofs.KeyStores
import CommandBridge.Rehearsal.Answering

/-! The key while one undertaking ends before the next one begins. Then the file and the calls keep
the same key, so that announcements, calls and lookups all go by the key that was taken last. -/
namespace CommandBridge

/-- What a dashboard or a browser sets going, with how it turns out: whether the file can be
written, and how the call of the backend ends. A lookup only reads the file. -/
inductive Undertaking where
  | connect
  | postKey (request : Http.Request) (writable : Bool)
  | message (link : Nat) (incoming : Incoming) (outcome : Outcome)
  | upload (file : String) (archive : Bytes) (outcome : Outcome)
  | close (link : Nat)
  | lookUp

/-- The steps of an undertaking from its beginning to its end, when the task that it starts has the
given number. A key is saved at one stroke. -/
def Undertaking.steps (task : Nat) : Undertaking → List Step
  | .connect => [.connect, .readKey task, .greet task]
  | .postKey request writable => [.postKey request, .saveKey task writable, .adoptKey task]
  | .message link incoming outcome => [.receive link incoming, .endCall task outcome]
  | .upload file archive outcome =>
    [.upload file archive, .endCall task outcome, .readActive task, .report task]
  | .close link => [.close link]
  | .lookUp => []

def Http.Response.tellsTaken (r : Http.Response) : Bool :=
  r.status == 200 && r.body == octets "true"

def Effect.tellsTaken : Effect → Bool
  | .answered _ response => response.tellsTaken
  | .called .. | .emitted .. => false

namespace Rehearsal

/-- The surroundings of a rehearsal for another bridge, whose backend is reached over the
network. -/
def remotely (r : Rehearsal) (b : Bridge) : Rehearsal := { r with bridge := b, backend := .remote }

/-- Every request of a call comes with the key that calls carry. Where the peer takes the request
that is built, it sees that one first. -/
theorem call_seen {r : Rehearsal} (remote : r.backend = .remote) (task : Nat) (call : Call) :
    ∃ new, (r.call task call).2.network.seen = r.network.seen ++ new ∧
      (∀ outgoing, .request outgoing ∈ new → outgoing.apiKey = r.bridge.liveKey) ∧
      ∀ sent, RemoteBackend.request r.settings.backendUrl r.bridge.liveKey call = .ok sent →
        r.network.Takes sent.url → new.head? = some (.request sent) := by
  rw [Rehearsal.call, remote]
  dsimp only
  cases built : RemoteBackend.request r.settings.backendUrl r.bridge.liveKey call with
  | error e => exact ⟨[], (List.append_nil _).symm, nofun, nofun⟩
  | ok sent =>
      obtain ⟨new, seen, keyed, first, -⟩ := Fetch.run_seen r.encodings none r.network sent
      rw [RemoteBackend.apiKey_of_request built] at keyed
      refine ⟨new, seen, keyed, fun sent' same takes => ?_⟩
      cases same
      exact first takes

end Rehearsal

namespace Bridge

def perform (b : Bridge) (op : Undertaking) : Bridge × List Effect :=
  b.run (op.steps b.tasks.length)

/-- Performs undertakings one after the other. Each is kept with what became visible of it. -/
def performAll (b : Bridge) : List Undertaking → Bridge × List (Undertaking × List Effect)
  | [] => (b, [])
  | op :: rest =>
    let (b, seen) := b.perform op
    let (b, done) := b.performAll rest
    (b, (op, seen) :: done)

section Taking
variable (b : Bridge) {request : Http.Request} {post : KeyPost}

theorem perform_taken (read : KeyPost.ofRequest request = .ok post) :
    b.perform (.postKey request true) =
      ({ b.addTask .finished with keyFile := some (octets post.key), liveKey := some post.key },
        [.answered b.tasks.length adoptedResponse]) := by
  simp [perform, Undertaking.steps, step, postKey, read, saveKey, adoptKey, addTask, setTask]

theorem perform_unsaved (read : KeyPost.ofRequest request = .ok post) :
    b.perform (.postKey request false) =
      (b.addTask .finished, [.answered b.tasks.length unsavedResponse]) := by
  simp [perform, Undertaking.steps, step, postKey, read, saveKey, adoptKey,
    addTask, setTask, giveUpKey]

theorem perform_refused {e : KeyPostError} (read : KeyPost.ofRequest request = .error e)
    (writable : Bool) :
    b.perform (.postKey request writable) =
      (b.addTask .finished,
        [.answered b.tasks.length (ServiceError.invalidRequest e.text).response]) := by
  simp [perform, Undertaking.steps, step, postKey, read, saveKey, adoptKey, addTask]

end Taking

theorem status_response (e : ServiceError) : e.response.status = e.status := by
  cases e <;> rfl

theorem isError_status (e : ServiceError) : 400 ≤ e.status := by
  cases e <;> simp [ServiceError.status]

end Bridge

end CommandBridge
