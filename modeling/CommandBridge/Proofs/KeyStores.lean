import Mathlib
import CommandBridge.Proofs.Tasks
import CommandBridge.Proofs.Utf8

/-! The key in the file and the key that calls carry, when requests that hand over keys interleave.
Each request saves its key and adopts it later, and nothing keeps another request from doing so in
between, so the two stores go by two orders: what was saved last and what was adopted last. -/
namespace CommandBridge

/-- The key that a task has yet to save or to adopt. -/
def Task.key? : Task → Option String
  | .accepted key | .emptied key | .saved key => some key
  | _ => none

/-- A task that has saved its key owes its adoption. -/
def Task.owed? : Task → Option String
  | .saved key => some key
  | _ => none

/-- Does a step replace the content of the file at one stroke, if it writes at all? -/
def Step.SavesWhole : Step → Prop
  | .emptyFile .. | .fillFile .. => False
  | _ => True

theorem KeyPost.ofRequest_formType {r : Http.Request} {post : KeyPost} {tail : List Char}
    (typed : r.headerText? "content-type" = some (formType ++ tail))
    (short : r.body.length ≤ bodyLimit)
    (read : ofPairs (Form.pairs r.body) = .ok post) : ofRequest r = .ok post := by
  have notJson : jsonType.isPrefixOf (formType ++ tail) = false := by cbv
  have isForm : formType.isPrefixOf (formType ++ tail) = true := by cbv
  simp [ofRequest, typed, notJson, ofFormBody, isForm, Nat.not_lt.mpr short, read]

theorem KeyPost.ofRequest_form {r : Http.Request} {post : KeyPost}
    (typed : r.headerText? "content-type" = some formType) (short : r.body.length ≤ bodyLimit)
    (read : ofPairs (Form.pairs r.body) = .ok post) : ofRequest r = .ok post :=
  ofRequest_formType (typed.trans (congrArg some (List.append_nil formType).symm)) short read

namespace Bridge

theorem keyIn_octets (key : String) : keyIn (some (octets key)) = some key := by
  rw [keyIn, Option.bind_some, octets, Utf8.decode?_encode, Option.map_some, String.ofList_toList]

theorem keyIn_eq_some_iff {content : Option Bytes} {key : String} :
    keyIn content = some key ↔ content = some (octets key) := by
  constructor
  · intro held
    obtain ⟨cs, decoded, rfl⟩ := Option.map_eq_some_iff.mp held
    obtain ⟨bytes, rfl, read⟩ := Option.bind_eq_some_iff.mp decoded
    rw [Utf8.decode?_eq_some_iff.mp read, octets, String.toList_ofList]
  · rintro rfl
    exact keyIn_octets key

/-- The key that a step saves, and the task that it does so for. -/
def saved? (b : Bridge) : Step → Option (Nat × String)
  | .saveKey t true =>
    match b.tasks[t]? with
    | some (.accepted key) => some (t, key)
    | _ => none
  | .fillFile t none =>
    match b.tasks[t]? with
    | some (.emptied key) => some (t, key)
    | _ => none
  | _ => none

def adopted? (b : Bridge) : Step → Option (Nat × String)
  | .adoptKey t =>
    match b.tasks[t]? with
    | some (.saved key) => some (t, key)
    | _ => none
  | _ => none

/-- What the steps of a run do, in order. -/
def along {α : Type} (does : Bridge → Step → Option α) (b : Bridge) : List Step → List α
  | [] => []
  | s :: rest => (does b s).toList ++ along does (b.step s).1 rest

def saves (b : Bridge) (steps : List Step) : List (Nat × String) := along saved? b steps

def adoptions (b : Bridge) (steps : List Step) : List (Nat × String) := along adopted? b steps

abbrev owed (b : Bridge) (t : Nat) : Option String := b.told Task.owed? t

def ofTask (t : Nat) (listed : List (Nat × String)) : List String :=
  (listed.filter fun entry => entry.1 == t).map Prod.snd

/-- The key of a store that was written as listed. -/
def lastKey (before : Option String) (listed : List (Nat × String)) : Option String :=
  (listed.getLast?.map Prod.snd).or before

theorem lastKey_append (before : Option String) (earlier later : List (Nat × String)) :
    lastKey before (earlier ++ later) = lastKey (lastKey before earlier) later := by
  simp only [lastKey, List.getLast?_append, Option.map_or, Option.or_assoc]

theorem saved?_eq_none {b : Bridge} {s : Step} (unready : b.Unready s) : b.saved? s = none := by
  unfold saved?
  split
  · split
    · rename_i key held
      exact (unready _ rfl _ held ⟨_, .inl rfl⟩).elim
    · rfl
  · split
    · rename_i key held
      exact (unready _ rfl _ held ⟨_, rfl⟩).elim
    · rfl
  · rfl

theorem adopted?_eq_none {b : Bridge} {s : Step} (unready : b.Unready s) : b.adopted? s = none := by
  unfold adopted?
  split
  · split
    · rename_i key held
      exact (unready _ rfl _ held rfl).elim
    · rfl
  · rfl

/-- What a step does to the keys: it saves one, it adopts one, or it leaves both stores and
everything owed as they are. -/
inductive KeyMove (b : Bridge) (s : Step) (b' : Bridge) : Prop
  | neither : b.saved? s = none → b.adopted? s = none → (s.SavesWhole → b'.keyFile = b.keyFile) →
      b'.liveKey = b.liveKey → (∀ t, b'.owed t = b.owed t) → KeyMove b s b'
  | saving {t key} : b.saved? s = some (t, key) → b.adopted? s = none →
      b'.keyFile = some (octets key) → b'.liveKey = b.liveKey → b.owed t = none →
      b'.owed t = some key → (∀ u, u ≠ t → b'.owed u = b.owed u) → KeyMove b s b'
  | adopting {t key} : b.saved? s = none → b.adopted? s = some (t, key) →
      b'.keyFile = b.keyFile → b'.liveKey = some key → b.owed t = some key →
      b'.owed t = none → (∀ u, u ≠ t → b'.owed u = b.owed u) → KeyMove b s b'

theorem Change.keyMove {b b' : Bridge} {s : Step} {seen : List Effect}
    (change : Change b s b' seen) :
    KeyMove b s b' := by
  cases change with
  | idle unready =>
      exact .neither (saved?_eq_none unready) (adopted?_eq_none unready) (fun _ => rfl)
        rfl fun _ => rfl
  | closed ends _ =>
      have unready : b.Unready s := unready_of_endsLink ends
      exact .neither (saved?_eq_none unready) (adopted?_eq_none unready) (fun _ => rfl)
        rfl fun _ => rfl
  | connected | takenUp | uploadTaken | keyTaken | keyRefused =>
      exact .neither rfl rfl (fun _ => rfl) rfl (told_of_concat_none rfl rfl)
  | keyRead held | greeted held | uploadKept held | uploadBroken held | activeRead held
  | reported held | settled _ held =>
      exact .neither rfl rfl (fun _ => rfl) rfl (told_of_same held rfl rfl)
  | keyUnsaved s kind held =>
      rcases kind with rfl | rfl <;>
        exact .neither rfl rfl (fun _ => rfl) rfl (told_of_same held rfl rfl)
  | fileEmptied held | fileSpoilt _ held =>
      exact .neither rfl rfl False.elim rfl (told_of_same held rfl rfl)
  | keySaved held | fileFilled held =>
      exact .saving (by simp only [saved?, held]) rfl rfl rfl (told_of_some held rfl)
        (told_of_set held rfl rfl) (told_of_set_ne rfl)
  | keyAdopted held =>
      exact .adopting rfl (by simp only [adopted?, held]) rfl rfl (told_of_some held rfl)
        (told_of_set held rfl rfl) (told_of_set_ne rfl)

section Move
variable {b b' : Bridge} {s : Step}

theorem KeyMove.storedKey_eq (move : KeyMove b s b') (whole : s.SavesWhole) :
    b'.storedKey = lastKey b.storedKey (b.saved? s).toList := by
  cases move with
  | neither saved adopted file => rw [saved, storedKey, file whole]; rfl
  | @saving t key saved adopted file => rw [saved, storedKey, file, keyIn_octets]; rfl
  | adopting saved adopted file => rw [saved, storedKey, file]; rfl

theorem KeyMove.liveKey_eq (move : KeyMove b s b') :
    b'.liveKey = lastKey b.liveKey (b.adopted? s).toList := by
  cases move with
  | neither saved adopted file live => rw [adopted, live]; rfl
  | saving saved adopted file live => rw [adopted, live]; rfl
  | adopting saved adopted file live => rw [adopted, live]; rfl

/-- Nothing is adopted that was not owed, and what is saved is owed until it is adopted. -/
theorem KeyMove.owed_eq (move : KeyMove b s b') (t : Nat) :
    ofTask t (b.adopted? s).toList ++ (b'.owed t).toList =
      (b.owed t).toList ++ ofTask t (b.saved? s).toList := by
  cases move with
  | neither saved adopted file live owed => simp [saved, adopted, owed, ofTask]
  | @saving u key saved adopted file live before after others =>
      by_cases same : u = t
      · subst same
        simp [saved, adopted, before, after, ofTask]
      · simp [saved, adopted, others t (Ne.symm same), ofTask, same]
  | @adopting u key saved adopted file live before after others =>
      by_cases same : u = t
      · subst same
        simp [saved, adopted, before, after, ofTask]
      · simp [saved, adopted, others t (Ne.symm same), ofTask, same]

end Move

theorem run_storedKey {steps : List Step} (whole : ∀ s ∈ steps, s.SavesWhole) (b : Bridge) :
    (b.run steps).1.storedKey = lastKey b.storedKey (b.saves steps) := by
  induction steps generalizing b with
  | nil => rfl
  | cons s rest ih =>
      have now := (step_change b s).keyMove.storedKey_eq (whole s List.mem_cons_self)
      have later := ih (fun s' within => whole s' (List.mem_cons_of_mem s within)) (b.step s).1
      rw [run_cons, later, now, ← lastKey_append]
      rfl

theorem run_liveKey (b : Bridge) (steps : List Step) :
    (b.run steps).1.liveKey = lastKey b.liveKey (b.adoptions steps) := by
  induction steps generalizing b with
  | nil => rfl
  | cons s rest ih =>
      have now := (step_change b s).keyMove.liveKey_eq
      rw [run_cons, ih, now, ← lastKey_append]
      rfl

@[simp] theorem ofTask_append (t : Nat) (listed later : List (Nat × String)) :
    ofTask t (listed ++ later) = ofTask t listed ++ ofTask t later := by
  simp [ofTask]

/-- Along a run every task adopts what it owed at the start and what it saved, but for what it still
owes at the end. -/
theorem run_owed (b : Bridge) (steps : List Step) (t : Nat) :
    ofTask t (b.adoptions steps) ++ ((b.run steps).1.owed t).toList =
      (b.owed t).toList ++ ofTask t (b.saves steps) := by
  induction steps generalizing b with
  | nil => simp [adoptions, saves, along, ofTask]
  | cons s rest ih =>
      have now := (step_change b s).keyMove.owed_eq t
      calc ofTask t (b.adoptions (s :: rest)) ++ ((b.run (s :: rest)).1.owed t).toList
          = ofTask t (b.adopted? s).toList ++
              (ofTask t ((b.step s).1.adoptions rest) ++
                  (((b.step s).1.run rest).1.owed t).toList) := by
            rw [← List.append_assoc, ← ofTask_append, run_cons]
            rfl
        _ = ofTask t (b.adopted? s).toList ++ ((b.step s).1.owed t).toList ++
              ofTask t ((b.step s).1.saves rest) := by
            rw [ih, List.append_assoc]
        _ = (b.owed t).toList ++ ofTask t (b.saves (s :: rest)) := by
            rw [now, List.append_assoc, ← ofTask_append]
            rfl

theorem owed_eq_none {b : Bridge} (answered : ∀ task ∈ b.tasks, task.key? = none) (t : Nat) :
    b.owed t = none := by
  cases held : b.tasks[t]? with
  | none => rw [owed, told, held, Option.bind_none]
  | some task =>
      have keyless := answered task (List.mem_of_getElem? held)
      refine told_of_some held ?_
      cases task with
      | saved key => cases keyless
      | _ => rfl

theorem getLast?_ofTask {listed : List (Nat × String)} {t : Nat} {key : String}
    (last : listed.getLast? = some (t, key)) : (ofTask t listed).getLast? = some key := by
  obtain ⟨earlier, rfl⟩ := List.getLast?_eq_some_iff.mp last
  rw [ofTask_append]
  simp [ofTask]

/-- Where every task has adopted what it has saved, the last save and the last adoption of one task
are of the same key. -/
theorem lastKey_eq_of_same_task {saves adoptions : List (Nat × String)}
    (balance : ∀ t, ofTask t adoptions = ofTask t saves)
    (same : saves.getLast?.map Prod.fst = adoptions.getLast?.map Prod.fst)
    (before : Option String) :
    lastKey before saves = lastKey before adoptions := by
  cases saved : saves.getLast? with
  | none =>
      rw [saved, Option.map_none] at same
      rw [lastKey, lastKey, saved, Option.map_eq_none_iff.mp same.symm]
  | some entry =>
      obtain ⟨t, key⟩ := entry
      rw [saved, Option.map_some] at same
      obtain ⟨⟨t', key'⟩, adopted, rfl⟩ := Option.map_eq_some_iff.mp same.symm
      have keys : some key' = some key := by
        rw [← getLast?_ofTask adopted, ← getLast?_ofTask saved, balance]
      rw [lastKey, lastKey, saved, adopted, Option.map_some, Option.map_some, keys]

/-- While requests that hand over keys interleave in any way, each saved whole, a request adopts its
key once for each time that it has saved it. The file keeps the key that was saved last, calls carry
the key that was adopted last, and once all requests have been answered the two are the same exactly
when these keys are; so they are where the request that saves last adopts last. -/
theorem keys_agree_iff {b : Bridge} {steps : List Step} (agree : b.storedKey = b.liveKey)
    (whole : ∀ s ∈ steps, s.SavesWhole)
    (answered : ∀ task ∈ (b.run steps).1.tasks, task.key? = none) :
    (∀ t, ofTask t (b.adoptions steps) = (b.owed t).toList ++ ofTask t (b.saves steps)) ∧
      (b.run steps).1.storedKey = lastKey b.storedKey (b.saves steps) ∧
      (b.run steps).1.liveKey = lastKey b.liveKey (b.adoptions steps) ∧
      ((b.run steps).1.storedKey = (b.run steps).1.liveKey ↔
        lastKey b.storedKey (b.saves steps) = lastKey b.storedKey (b.adoptions steps)) ∧
      ((∀ task ∈ b.tasks, task.key? = none) →
        (b.saves steps).getLast?.map Prod.fst = (b.adoptions steps).getLast?.map Prod.fst →
        (b.run steps).1.storedKey = (b.run steps).1.liveKey) := by
  have stored := run_storedKey whole b
  have live := run_liveKey b steps
  have balance : ∀ t, ofTask t (b.adoptions steps) = (b.owed t).toList ++
      ofTask t (b.saves steps) := by
    intro t
    have owing := run_owed b steps t
    rw [owed_eq_none answered t, Option.toList_none, List.append_nil] at owing
    exact owing
  refine ⟨balance, stored, live, ?_, ?_⟩
  · rw [stored, live, agree]
  · intro unbegun same
    rw [stored, live, agree]
    refine lastKey_eq_of_same_task (fun t => ?_) same b.liveKey
    rw [balance, owed_eq_none unbegun t, Option.toList_none, List.nil_append]

/-- Two requests whose steps interleave: the one that saves first adopts last. -/
def crossing (first second : Http.Request) : List Step :=
  [.postKey first, .postKey second, .saveKey 0 true, .saveKey 1 true, .adoptKey 1, .adoptKey 0]

theorem run_crossing {first second : Http.Request} {post post' : KeyPost}
    (taken : KeyPost.ofRequest first = .ok post) (taken' : KeyPost.ofRequest second = .ok post')
    (name version : String) (keyFile : Option Bytes) :
    ((start name version keyFile).run (crossing first second)).1 =
      { start name version keyFile with
        liveKey := some post.key
        keyFile := some (octets post'.key)
        tasks := [.finished, .finished] } := by
  simp [crossing, start, step, postKey, taken, taken', saveKey, adoptKey, addTask, setTask]

def formPost (key : String) : Http.Request where
  method := "POST"
  target := ⟨none, none, "/credential".toList, none⟩
  headers := [⟨"content-type", octets "application/x-www-form-urlencoded"⟩]
  body := octets ("apiKey=" ++ key)

theorem ofRequest_one : KeyPost.ofRequest (formPost "one") = .ok ⟨"one"⟩ :=
  KeyPost.ofRequest_form (by cbv) (by cbv) (by cbv)

theorem ofRequest_two : KeyPost.ofRequest (formPost "two") = .ok ⟨"two"⟩ :=
  KeyPost.ofRequest_form (by cbv) (by cbv) (by cbv)

theorem keys_agree_iff_crossing :
    let b := start "local" "v2" none
    let steps := crossing (formPost "one") (formPost "two")
    b.storedKey = b.liveKey ∧ (∀ s ∈ steps, s.SavesWhole) ∧
      (∀ task ∈ (b.run steps).1.tasks, task.key? = none) ∧
      (∀ t, ofTask t (b.adoptions steps) = (b.owed t).toList ++ ofTask t (b.saves steps)) ∧
      ((b.run steps).1.storedKey = (b.run steps).1.liveKey ↔
        lastKey b.storedKey (b.saves steps) = lastKey b.storedKey (b.adoptions steps)) := by
  intro b steps
  have whole : ∀ s ∈ steps, s.SavesWhole := by simp [steps, crossing, Step.SavesWhole]
  have answered : ∀ task ∈ (b.run steps).1.tasks, task.key? = none := by
    rw [run_crossing ofRequest_one ofRequest_two]
    simp [Task.key?]
  obtain ⟨balance, -, -, agreement, -⟩ := keys_agree_iff (b := b) rfl whole answered
  exact ⟨rfl, whole, answered, balance, agreement⟩

/-- Requests that interleave need not leave the stores in agreement, even where none was under way
at the start. -/
theorem keys_may_part : ¬ ∀ (b : Bridge) (steps : List Step), b.storedKey = b.liveKey →
    (∀ task ∈ b.tasks, task.key? = none) → (∀ s ∈ steps, s.SavesWhole) →
    (∀ task ∈ (b.run steps).1.tasks, task.key? = none) →
    (b.run steps).1.storedKey = (b.run steps).1.liveKey := by
  intro coherent
  have parted := coherent (start "local" "v2" none) (crossing (formPost "one") (formPost "two")) rfl
    (by simp [start]) (by simp [crossing, Step.SavesWhole])
    (by rw [run_crossing ofRequest_one ofRequest_two]; simp [Task.key?])
  rw [run_crossing ofRequest_one ofRequest_two, storedKey, keyIn_octets] at parted
  exact absurd parted (by decide)

end Bridge

end CommandBridge
