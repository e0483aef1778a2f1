import CommandBridge.Proofs.SharedKey

/-! Keys that could not be saved. The file is opened for writing, which empties it, and then it is
filled; either may fail. Whatever fails, calls go on with the key that they carried before. The file
keeps its key as well, unless it was emptied before: then it holds as much of the new key as was
written. -/
namespace CommandBridge.Bridge

/-- Takes up a request that hands over a key. The file is opened or not, and filling it fails behind
some octets or does not. -/
def keepKey (b : Bridge) (request : Http.Request) (opens : Bool) (failsBehind : Option Nat) :
    Bridge × List Effect :=
  b.run [.postKey request, .emptyFile b.tasks.length opens, .fillFile b.tasks.length failsBehind,
    .adoptKey b.tasks.length]

section Outcomes
variable (b : Bridge) {request : Http.Request} {post : KeyPost}

theorem keepKey_refused {e : KeyPostError} (refused : KeyPost.ofRequest request = .error e)
    (opens : Bool) (failsBehind : Option Nat) : b.keepKey request opens failsBehind =
      (b.addTask .finished,
        [.answered b.tasks.length (ServiceError.invalidRequest e.text).response]) := by
  simp [keepKey, step, postKey, refused, emptyFile, fillFile, adoptKey, addTask]

theorem keepKey_unopened (taken : KeyPost.ofRequest request = .ok post) (failsBehind : Option Nat) :
    b.keepKey request false failsBehind =
      (b.addTask .finished, [.answered b.tasks.length unsavedResponse]) := by
  simp [keepKey, step, postKey, taken, emptyFile, giveUpKey, fillFile, adoptKey, addTask, setTask]

theorem keepKey_spoilt (taken : KeyPost.ofRequest request = .ok post) (n : Nat) :
    b.keepKey request true (some n) =
      ({ b.addTask .finished with keyFile := some ((octets post.key).take n) },
        [.answered b.tasks.length unsavedResponse]) := by
  simp [keepKey, step, postKey, taken, emptyFile, giveUpKey, fillFile, adoptKey, addTask, setTask]

theorem keepKey_kept (taken : KeyPost.ofRequest request = .ok post) :
    b.keepKey request true none =
      ({ b.addTask .finished with keyFile := some (octets post.key), liveKey := some post.key },
        [.answered b.tasks.length adoptedResponse]) := by
  simp [keepKey, step, postKey, taken, emptyFile, fillFile, adoptKey, addTask, setTask]

end Outcomes

theorem isError_unsaved : 400 ≤ unsavedResponse.status := by
  rw [unsavedResponse, status_response]
  exact isError_status _

/-- A request that hands over a key is answered once. Where the answer is an error, calls go on with
the key that they carried, and the file holds what it held, unless it was opened and filling it
failed: then it holds what was written of the new key, and gives a key just where these octets are
the octets of one. -/
theorem failed_save_keeps (b : Bridge) (request : Http.Request) (opens : Bool)
    (failsBehind : Option Nat) :
    let after := (b.keepKey request opens failsBehind).1
    ∃ response, (b.keepKey request opens failsBehind).2 = [.answered b.tasks.length response] ∧
      (response.tellsTaken = true ∨ 400 ≤ response.status) ∧
      (400 ≤ response.status → after.liveKey = b.liveKey ∧
        match KeyPost.ofRequest request, opens, failsBehind with
        | .ok post, true, some n => after.keyFile = some ((octets post.key).take n) ∧
            ∀ key, after.storedKey = some key ↔ octets key = (octets post.key).take n
        | _, _, _ => after.keyFile = b.keyFile ∧ after.storedKey = b.storedKey) := by
  intro after
  cases read : KeyPost.ofRequest request with
  | error e =>
      have ended := b.keepKey_refused read opens failsBehind
      have same : after = b.addTask .finished := congrArg Prod.fst ended
      refine ⟨_, congrArg Prod.snd ended, .inr ?_, fun _ => ?_⟩
      · rw [status_response]
        exact isError_status _
      · rw [same]
        exact ⟨rfl, rfl, rfl⟩
  | ok post =>
      cases opens with
      | false =>
          have ended := b.keepKey_unopened read failsBehind
          have same : after = b.addTask .finished := congrArg Prod.fst ended
          refine ⟨_, congrArg Prod.snd ended, .inr isError_unsaved, fun _ => ?_⟩
          rw [same]
          exact ⟨rfl, rfl, rfl⟩
      | true =>
          cases failsBehind with
          | none =>
              have ended := b.keepKey_kept read
              refine ⟨_, congrArg Prod.snd ended, .inl (by decide), fun failed => ?_⟩
              exact absurd failed (by decide)
          | some n =>
              have ended := b.keepKey_spoilt read n
              have same :
                  after = { b.addTask .finished with keyFile := some ((octets post.key).take n) } :=
                congrArg Prod.fst ended
              refine ⟨_, congrArg Prod.snd ended, .inr isError_unsaved, fun _ => ?_⟩
              rw [same]
              refine ⟨rfl, rfl, fun key => ?_⟩
              rw [storedKey, keyIn_eq_some_iff, Option.some.injEq]
              exact eq_comm

/-- A key of which the first octet of a character of two was written. -/
theorem failed_save_keeps_torn :
    let b := start "local" "v2" (some (octets "old"))
    let after := (b.keepKey (formPost "%C3%A9") true (some 1)).1
    400 ≤ unsavedResponse.status ∧ after.liveKey = some "old" ∧ after.keyFile = some [0xC3] ∧
      after.storedKey = none := by
  intro b after
  have taken : KeyPost.ofRequest (formPost "%C3%A9") = .ok ⟨"é"⟩ :=
    KeyPost.ofRequest_form (by cbv) (by cbv) (by cbv)
  have ended := b.keepKey_spoilt taken 1
  obtain ⟨response, told, -, keeps⟩ := failed_save_keeps b (formPost "%C3%A9") true (some 1)
  obtain rfl : unsavedResponse = response := by
    rw [ended] at told
    cases told
    rfl
  have held := keeps isError_unsaved
  rw [taken] at held
  obtain ⟨live, file, stored⟩ := held
  refine ⟨isError_unsaved, live, file, ?_⟩
  rw [storedKey, file]
  rfl

/-- A request that is answered with an error may take the key from the file. -/
theorem failed_save_may_lose :
    ¬ ∀ (b : Bridge) (request : Http.Request) (opens : Bool) (failsBehind : Option Nat)
    (response : Http.Response), (b.keepKey request opens failsBehind).2 =
      [.answered b.tasks.length response] →
    400 ≤ response.status → (b.keepKey request opens failsBehind).1.storedKey = b.storedKey ∧
      (b.keepKey request opens failsBehind).1.liveKey = b.liveKey := by
  intro keeps
  let b := start "local" "v2" (some (octets "old"))
  have ended := b.keepKey_spoilt ofRequest_two 0
  obtain ⟨stored, -⟩ :=
    keeps b (formPost "two") true (some 0) unsavedResponse (congrArg Prod.snd ended)
    isError_unsaved
  rw [ended] at stored
  have emptied : keyIn (some (octets "")) = keyIn (some (octets "old")) := stored
  rw [keyIn_octets, keyIn_octets] at emptied
  exact absurd emptied (by decide)

end CommandBridge.Bridge
