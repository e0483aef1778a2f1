import CommandBridge.Proofs.SharedKey

/-! Keys as calls carry them. A key that holds a control character other than the tab is taken like
any other, from a request and from the file, and then no call leaves the bridge: each ends with an
error at once. Every other key goes along with each call that could be made without one. -/
namespace CommandBridge

namespace Rehearsal

theorem call_of_error {r : Rehearsal} {call : Call} {e : FetchError} (remote : r.backend = .remote)
    (unbuilt : RemoteBackend.request r.settings.backendUrl r.bridge.liveKey call = .error e)
    (task : Nat) :
    r.call task call = (some (.failed (.message e.text)), r) := by
  obtain ⟨_, _, _, _, _, _, _, _, _, _, _⟩ := r
  cases remote
  simp only [Rehearsal.call, unbuilt, Fetch.runIfBuilt, RemoteBackend.outcome?]

end Rehearsal

namespace Bridge

theorem tellsTaken_uploadResponse (file : String) (result : Except Failure Payload) :
    (uploadResponse file result).tellsTaken = false := by
  cases result with
  | ok value =>
      have other :
          (Json.object [("file", .string file), ("result", value.toJson)]).render ≠ "true" := by
        intro same
        have chars := congrArg String.toList same
        rw [Json.render, String.toList_ofList, Json.text] at chars
        exact absurd (congrArg List.head? chars) (by simp)
      simp [Http.Response.tellsTaken, uploadResponse, Http.Response.ofText, Utf8.octets_inj, other]
  | error failure => rfl

/-- An answer tells that a key was taken just where calls begin to carry it. -/
theorem Change.tellsTaken_eq {b b' : Bridge} {s : Step} {seen : List Effect}
    (change : Change b s b' seen) :
    seen.any Effect.tellsTaken = (b.adopted? s).isSome := by
  have refused : ∀ e : ServiceError, e.response.tellsTaken = false := by
    intro e
    have high := isError_status e
    have other : e.response.status ≠ 200 := by
      rw [status_response]
      omega
    simp [Http.Response.tellsTaken, other]
  cases change with
  | idle unready => rw [adopted?_eq_none unready]; rfl
  | closed ends _ => rw [adopted?_eq_none (unready_of_endsLink ends)]; rfl
  | keyUnsaved s kind held =>
      rcases kind with rfl | rfl <;> simp [adopted?, Effect.tellsTaken, unsavedResponse, refused]
  | keyAdopted held =>
      have told : adoptedResponse.tellsTaken = true := by decide
      simp [adopted?, held, Effect.tellsTaken, told]
  | reported held =>
      rename_i t file result target
      cases target <;> simp [adopted?, Effect.tellsTaken, emission, tellsTaken_uploadResponse]
  | keyRefused | fileSpoilt => simp [adopted?, Effect.tellsTaken, unsavedResponse, refused]
  | connected | keyRead | greeted | takenUp | settled | uploadKept | uploadBroken | uploadTaken
  | activeRead | keyTaken | keySaved | fileEmptied | fileFilled => rfl

/-- Whatever interleaves from the start on, let a key be the last one that a request was told to be
taken, or the one in the file at the start where there was none. A call then comes with this key
where a call without a key would leave the bridge, so long as the key fits its header. Where it does
not, every call ends with an error at once and leaves the network alone. -/
theorem taken_key_carried (name version : String) (keyFile : Option Bytes) (steps : List Step)
    {key : String}
    (taken : lastKey (keyIn keyFile) ((start name version keyFile).adoptions steps) = some key)
    (r : Rehearsal) (task : Nat) (call : Call) :
    let remote := r.remotely ((start name version keyFile).run steps).1
    let bare := RemoteBackend.request r.settings.backendUrl none call
    (∀ earlier s later, steps = earlier ++ s :: later →
      let b := ((start name version keyFile).run earlier).1
      (b.step s).2.any Effect.tellsTaken = (b.adopted? s).isSome) ∧
    (FitsHeader key →
      RemoteBackend.request r.settings.backendUrl remote.bridge.liveKey call =
        bare.map (·.withKey (some key)) ∧
      ∀ sent, bare = .ok sent → ∃ new,
        (remote.call task call).2.network.seen = r.network.seen ++ new ∧
        (∀ outgoing, .request outgoing ∈ new → outgoing.apiKey = some key) ∧
        (r.network.Takes sent.url → new.head? = some (.request (sent.withKey (some key))))) ∧
    (¬ FitsHeader key → ∃ e : FetchError,
      remote.call task call = (some (.failed (.message e.text)), remote) ∧
      ∀ sent, bare = .ok sent → e = .notBuilt) := by
  intro remote bare
  have live : remote.bridge.liveKey = some key := (run_liveKey _ steps).trans taken
  refine ⟨fun _ s _ _ => (step_change _ s).tellsTaken_eq, ?_, ?_⟩
  · intro fits
    have allFit : ∀ k ∈ some key, FitsHeader k := by
      rintro _ ⟨⟩
      exact fits
    have built := RemoteBackend.request_of_fits allFit r.settings.backendUrl call
    rw [live]
    refine ⟨built, fun sent bareSent => ?_⟩
    have keyed : RemoteBackend.request remote.settings.backendUrl remote.bridge.liveKey call =
        .ok (sent.withKey (some key)) := by
      rw [live]
      exact built.trans (congrArg _ bareSent)
    obtain ⟨new, seen, all, first⟩ := Rehearsal.call_seen (r := remote) rfl task call
    exact ⟨new, seen, fun outgoing within => (all outgoing within).trans live, first _ keyed⟩
  · intro unfit
    obtain ⟨e, unbuilt, blame⟩ := RemoteBackend.request_of_unfit unfit r.settings.backendUrl call
    refine ⟨e, Rehearsal.call_of_error rfl ?_ task, blame⟩
    rw [live]
    exact unbuilt

def nearPeer : Rehearsal :=
  .start { Settings.defaults with backendUrl := "http://[::1]" } .empty 0 []
    ⟨some "[::1]".toList, false, [], []⟩ .none .remote

/-- An archive of one octet, and the request for it without a key. -/
def archiveCall : Call := .upload uploadAccount "app.jar" [0x78]

def sentArchive : Outgoing where
  method := "POST"
  url :=
    ⟨"http".toList, none, some "[::1]".toList, none, "/upload/developer/app.jar".toList, none, none⟩
  apiKey := none
  contentType := none
  body := [0x78]

theorem request_archive :
    RemoteBackend.request nearPeer.settings.backendUrl none archiveCall = .ok sentArchive := rfl

/-- A key of two words in the file, and the same with a line break behind it. -/
theorem taken_key_carried_words :
    (∃ new, ((nearPeer.remotely ((start "local" "v2" (some (octets "two words"))).run []).1).call 0
        archiveCall).2.network.seen = nearPeer.network.seen ++ new ∧
      new.head? = some (.request (sentArchive.withKey (some "two words")))) ∧
    (nearPeer.remotely ((start "local" "v2" (some (octets "two words\n"))).run []).1).call 0
        archiveCall =
      (some (.failed (.message FetchError.notBuilt.text)),
        nearPeer.remotely ((start "local" "v2" (some (octets "two words\n"))).run []).1) := by
  constructor
  · obtain ⟨-, carried, -⟩ := taken_key_carried "local" "v2" (some (octets "two words")) []
      (keyIn_octets "two words") nearPeer 0 archiveCall
    obtain ⟨-, goes⟩ := carried (by simp [FitsHeader])
    obtain ⟨new, seen, -, first⟩ := goes sentArchive request_archive
    exact ⟨new, seen, first ⟨by rfl, nofun⟩⟩
  · obtain ⟨-, -, ended⟩ := taken_key_carried "local" "v2" (some (octets "two words\n")) []
      (keyIn_octets "two words\n") nearPeer 0 archiveCall
    obtain ⟨e, failed, blame⟩ := ended (by simp [FitsHeader])
    rw [blame sentArchive request_archive] at failed
    exact failed

/-- A key is taken with the answer that it was, and no archive leaves the bridge from then on. -/
theorem taken_key_stops_calls :
    let posted :=
      (start "local" "v2" none).run [.postKey (formPost "a%0Ab"), .saveKey 0 true, .adoptKey 0]
    let remote := nearPeer.remotely posted.1
    posted.2 = [.answered 0 adoptedResponse] ∧ adoptedResponse = .text 200 "true" ∧
      RemoteBackend.request remote.settings.backendUrl none archiveCall = .ok sentArchive ∧
      remote.call 1 archiveCall = (some (.failed (.message "builder error")), remote) := by
  intro posted remote
  have read : KeyPost.ofRequest (formPost "a%0Ab") = .ok ⟨"a\nb"⟩ :=
    KeyPost.ofRequest_form (by cbv) (by cbv) (by cbv)
  have ended : posted = ({ (start "local" "v2" none).addTask .finished with
      keyFile := some (octets "a\nb"), liveKey := some "a\nb" },
          [.answered 0 adoptedResponse]) := by
    simp [posted, step, postKey, read, saveKey, adoptKey, addTask, setTask, start]
  have live : remote.bridge.liveKey = some "a\nb" := congrArg (·.1.liveKey) ended
  refine ⟨congrArg Prod.snd ended, rfl, request_archive, ?_⟩
  have unfit : ¬ FitsHeader "a\nb" := by simp [FitsHeader]
  obtain ⟨e, unbuilt, blame⟩ :=
    RemoteBackend.request_of_unfit unfit nearPeer.settings.backendUrl archiveCall
  rw [blame sentArchive request_archive] at unbuilt
  have failed : RemoteBackend.request remote.settings.backendUrl remote.bridge.liveKey archiveCall =
      .error .notBuilt := by
    rw [live]
    exact unbuilt
  exact Rehearsal.call_of_error (r := remote) rfl failed 1

end Bridge

end CommandBridge
