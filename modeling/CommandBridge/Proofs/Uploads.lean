import CommandBridge.Proofs.Accounting
import CommandBridge.Proofs.Routes

/-! Archives are told of twice, in the answer to the one who sent the archive and on a connection.
Both come from one outcome of one call. The connection is the one that was opened last when the
upload asks which one is active, however many have come and gone since its call began. -/
namespace CommandBridge

def Step.opens : Step → Bool
  | .connect => true
  | _ => false

/-- The last of a number of connections. They are numbered in the order in which they are opened. -/
def latest : Nat → Option Nat
  | 0 => none
  | n + 1 => some n

def newest (steps : List Step) : Option Nat := latest (steps.countP Step.opens)

def Task.archive? : Task → Option String
  | .uploading file | .uploaded file _ | .reporting file _ _ => some file
  | _ => none

namespace Bridge

/-- Opening a connection makes it the active one, and nothing else moves the active connection. -/
theorem step_links (b : Bridge) (s : Step) :
    (s.opens = true ∧ (b.step s).1.active = some b.links.length ∧
      (b.step s).1.links.length = b.links.length + 1) ∨
    (s.opens = false ∧ (b.step s).1.active = b.active ∧
      (b.step s).1.links.length = b.links.length) := by
  by_cases connects : s = .connect
  · subst connects
    exact .inl ⟨rfl, rfl, by simp [step, connect]⟩
  · have other : s.opens = false := by cases s <;> first | rfl | exact absurd rfl connects
    refine .inr ⟨other, ?_⟩
    have change := step_change b s
    generalize (b.step s).1 = b', (b.step s).2 = seen at change
    cases change with
    | connected => exact absurd rfl connects
    | greeted | closed => exact ⟨rfl, List.length_set⟩
    | _ => exact ⟨rfl, rfl⟩

theorem run_links_length (b : Bridge) (steps : List Step) :
    (b.run steps).1.links.length = b.links.length + steps.countP Step.opens := by
  induction steps generalizing b with
  | nil => rfl
  | cons s rest ih =>
      rw [run_cons, ih, List.countP_cons]
      rcases step_links b s with ⟨opens, -, longer⟩ | ⟨opens, -, same⟩
      · rw [longer, opens, if_pos rfl]
        omega
      · rw [same, opens, if_neg (by decide)]
        omega

theorem step_latest {b : Bridge} (last : b.active = latest b.links.length) (s : Step) :
    (b.step s).1.active = latest (b.step s).1.links.length := by
  rcases step_links b s with ⟨-, active, longer⟩ | ⟨-, active, same⟩
  · rw [active, longer]
    rfl
  · rw [active, same, last]

/-- The active connection is always the newest. -/
theorem run_active (name version : String) (keyFile : Option Bytes) (steps : List Step) :
    ((start name version keyFile).run steps).1.active = newest steps := by
  have last := run_induction (P := fun b => b.active = latest b.links.length)
    (fun b s last => step_latest last s) (b := start name version keyFile) rfl steps
  rw [last, run_links_length, newest]
  simp [start]

/-- In a run an archive comes in; a new task is at work on it, and `later` is what happens from then
on. -/
def Uploads (b : Bridge) (steps : List Step) (task : Nat) (file : String) (archive : Bytes)
    (later : List Step) : Prop :=
  ∃ earlier, steps = earlier ++ .upload file archive :: later ∧
    task = (b.run earlier).1.tasks.length

def Calling (b : Bridge) (steps : List Step) (task : Nat) (file : String) (archive : Bytes) :
    Prop :=
  ∃ later, b.Uploads steps task file archive later ∧ endings task later = []

/-- The call of an upload has ended; which connection is active has not been asked. -/
def Called (b : Bridge) (steps : List Step) (task : Nat) (file : String) (archive : Bytes)
    (outcome : Outcome) : Prop :=
  ∃ before later, steps = before ++ .endCall task outcome :: later ∧
    b.Calling before task file archive ∧
    .readActive task ∉ later

/-- An upload has asked, behind the steps `asked`, which connection is active, and has not
reported. -/
def Asked (b : Bridge) (steps : List Step) (task : Nat) (file : String) (archive : Bytes)
    (outcome : Outcome) (asked : List Step) : Prop :=
  ∃ later, steps = asked ++ .readActive task :: later ∧ b.Called asked task file archive outcome ∧
    .report task ∉ later

/-- An upload has asked which connection is active, and then, behind the steps `told`, it has
reported. -/
def Reported (b : Bridge) (steps : List Step) (task : Nat) (file : String) (archive : Bytes)
    (outcome : Outcome) (asked told : List Step) : Prop :=
  ∃ later, steps = told ++ .report task :: later ∧ b.Asked told task file archive outcome asked

section Course

variable {b : Bridge} {steps : List Step} {task : Nat} {file : String} {archive : Bytes}
  {outcome : Outcome} {result : Except Failure Payload}

theorem Calling.stands (calling : b.Calling steps task file archive) :
    b.Stands steps task (.uploading file) [.called task (.upload uploadAccount file archive)] := by
  obtain ⟨later, ⟨earlier, rfl, rfl⟩, going⟩ := calling
  exact .begin rfl (List.forall_mem_singleton.mpr rfl) (not_ends_of_endings going)

theorem step_endCall_of_uploading (held : b.tasks[task]? = some (.uploading file))
    (outcome : Outcome) :
    b.step (.endCall task outcome) = (b.setTask task (match outcome.result? with
      | some result => .uploaded file result
      | none => .finished), []) := by
  cases outcome <;> simp only [step, endCall, held, Outcome.result?]

theorem step_readActive_of_uploaded (held : b.tasks[task]? = some (.uploaded file result)) :
    b.step (.readActive task) = (b.setTask task (.reporting file result b.active), []) := by
  simp only [step, readActive, held]

theorem step_report_of_reporting {target : Option Nat}
    (held : b.tasks[task]? = some (.reporting file result target)) :
    b.step (.report task) = (b.setTask task .finished,
      (target.map fun link => b.emission task link (.upload (uploadStatus file result))).toList ++
        [.answered task (uploadResponse file result)]) := by
  simp only [step, report, held]

theorem Called.stands (called : b.Called steps task file archive outcome)
    (returned : outcome.result? = some result) :
    b.Stands steps task (.uploaded file result)
      [.called task (.upload uploadAccount file archive)] := by
  obtain ⟨before, later, rfl, calling, unasked⟩ := called
  have stood := calling.stands
  have ended := step_endCall_of_uploading stood.task outcome
  rw [returned] at ended
  refine stood.move ended (List.forall_mem_nil _) ?_
  rintro s within rfl
  exact unasked within

theorem Calling.stands_broken (calling : b.Calling steps task file archive)
    (broken : outcome.result? = none) (later : List Step) :
    b.Stands (steps ++ .endCall task outcome :: later) task .finished
      [.called task (.upload uploadAccount file archive)] := by
  have stood := calling.stands
  have ended := step_endCall_of_uploading stood.task outcome
  rw [broken] at ended
  exact stood.move ended (List.forall_mem_nil _) fun _ _ => id

theorem Asked.stands {asked : List Step} (waits : b.Asked steps task file archive outcome asked)
    (returned : outcome.result? = some result) :
    b.Stands steps task (.reporting file result (b.run asked).1.active)
      [.called task (.upload uploadAccount file archive)] := by
  obtain ⟨later, rfl, called, untold⟩ := waits
  have stood := called.stands returned
  refine stood.move (step_readActive_of_uploaded stood.task) (List.forall_mem_nil _) ?_
  rintro s within rfl
  exact untold within

/-- All that an upload does whose call returned: its call, an event for the connection that was
active when it asked, if there was one, and its answer. -/
theorem Reported.effects {asked told : List Step}
    (reported : b.Reported steps task file archive outcome asked told)
    (returned : outcome.result? = some result) :
    effectsOf task (b.run steps).2 =
      .called task (.upload uploadAccount file archive) ::
        (((b.run asked).1.active.map fun link =>
            (b.run told).1.emission task link (.upload (uploadStatus file result))).toList ++
          [.answered task (uploadResponse file result)]) := by
  obtain ⟨later, rfl, waits⟩ := reported
  have stood := waits.stands returned
  have own : ∀ e ∈ ((b.run asked).1.active.map fun link =>
      (b.run told).1.emission task link (.upload (uploadStatus file result))).toList ++
        [.answered task (uploadResponse file result)], e.task = task := by
    intro e made
    rcases mem_reported made with ⟨link, -, rfl⟩ | rfl <;> rfl
  exact (stood.move (step_report_of_reporting stood.task) own fun _ _ => id).seen

theorem Uploads.calling_or_ended {later : List Step}
    (uploads : b.Uploads steps task file archive later) :
    b.Calling steps task file archive ∨
      ∃ before outcome behind, steps = before ++ .endCall task outcome :: behind ∧
        b.Calling before task file archive := by
  cases ends : endings task later with
  | nil => exact .inl ⟨later, uploads, ends⟩
  | cons outcome rest =>
      obtain ⟨calling, s, behind, rfl, others, first, -⟩ := List.filterMap_eq_cons_iff.mp ends
      obtain ⟨earlier, rfl, number⟩ := uploads
      refine .inr ⟨earlier ++ .upload file archive :: calling, outcome, behind, ?_, calling,
        ⟨earlier, rfl, number⟩, List.filterMap_eq_nil_iff.mpr others⟩
      cases s with
      | endCall t o =>
          simp only [Option.ite_none_right_eq_some, Option.some.injEq] at first
          obtain ⟨rfl, rfl⟩ := first
          simp
      | _ => cases first

/-- An upload whose call has not returned, or that has not reported yet, has done nothing but
call. -/
theorem Uploads.reported_or_silent {later : List Step}
    (uploads : b.Uploads steps task file archive later) :
    (∃ outcome result asked told, outcome.result? = some result ∧
        b.Reported steps task file archive outcome asked told) ∨
      effectsOf task (b.run steps).2 = [.called task (.upload uploadAccount file archive)] := by
  rcases uploads.calling_or_ended with calling | ⟨before, outcome, behind, rfl, calling⟩
  · exact .inr calling.stands.seen
  cases returned : outcome.result? with
  | none => exact .inr (calling.stands_broken returned behind).seen
  | some result =>
      -- The run is cut at the first step that the task waits for, once for each stage that is left.
      by_cases asks : .readActive task ∈ behind
      · obtain ⟨reading, behind, rfl, unasked⟩ := List.eq_append_cons_of_mem asks
        have called : b.Called (before ++ .endCall task outcome :: reading)
            task file archive outcome :=
          ⟨before, reading, rfl, calling, unasked⟩
        rw [← List.cons_append, ← List.append_assoc]
        by_cases tells : .report task ∈ behind
        · obtain ⟨waiting, behind, rfl, untold⟩ := List.eq_append_cons_of_mem tells
          rw [← List.cons_append, ← List.append_assoc]
          exact .inl ⟨outcome, result, _, _, returned, behind, rfl, waiting, rfl, called, untold⟩
        · exact .inr (Asked.stands ⟨behind, rfl, called, tells⟩ returned).seen
      · exact .inr (Called.stands ⟨before, behind, rfl, calling, asks⟩ returned).seen

end Course

theorem Uploads.unique {b : Bridge} {steps later later' : List Step} {task : Nat}
    {file file' : String} {archive archive' : Bytes}
    (uploads : b.Uploads steps task file archive later)
    (uploads' : b.Uploads steps task file' archive' later') :
    file = file' ∧ archive = archive' ∧ later = later' := by
  obtain ⟨earlier, rfl, rfl⟩ := uploads
  obtain ⟨earlier', same, number⟩ := uploads'
  obtain ⟨-, step, rest⟩ :=
    started_unique same (by simp [step, upload]) (by simp [step, upload]) number
  cases step
  exact ⟨rfl, rfl, rest⟩

section Belongs

variable {b b' : Bridge} {s : Step} {seen : List Effect} {task : Nat} {file : String}

theorem Change.called_upload (change : Change b s b' seen) {account : String} {archive : Bytes}
    (made : .called task (.upload account file archive) ∈ seen) :
    task = b.tasks.length ∧ s = .upload file archive := by
  cases change.brings made with
  | uploaded => exact ⟨rfl, rfl⟩

theorem Change.emitted_upload (change : Change b s b' seen) {link : Nat} {status : UploadStatus}
    {delivered : Bool} (made : .emitted task link (.upload status) delivered ∈ seen) :
    ∃ file, b.told Task.archive? task = some file := by
  generalize same : Event.upload status = event at made
  cases change.sends made with
  | greeting => cases same
  | @settling channel command outcome =>
      obtain ⟨error, params, settled⟩ := settle_echoes command channel outcome
      cases same.trans settled
  | reporting _ held => exact ⟨_, told_of_some held rfl⟩

theorem Change.archive_new (change : Change b s b' seen)
    (new : b'.told Task.archive? task = some file) (old : b.told Task.archive? task ≠ some file) :
    task = b.tasks.length ∧ ∃ archive, s = .upload file archive := by
  cases change with
  | idle | closed => exact absurd new old
  | uploadTaken file' archive =>
      rw [told_of_concat (addTask_tasks b _)] at new
      split at new
      · cases new
        exact ⟨‹_›, archive, rfl⟩
      · exact absurd new old
  | connected | takenUp | keyTaken | keyRefused =>
      rw [told_of_concat_none rfl rfl] at new
      exact absurd new old
  | uploadKept held | activeRead held => exact absurd (told_of_set_some new held rfl id) old
  | keyRead held | greeted held | settled _ held | uploadBroken held | reported held | keySaved held
  | keyUnsaved _ _ held | fileEmptied held | fileFilled held | fileSpoilt _ held
  | keyAdopted held =>
      exact absurd (told_of_set_some new held rfl nofun) old

theorem exists_uploads_of_called {b : Bridge} {steps : List Step} {task : Nat}
    {account file : String} {archive : Bytes}
    (called : .called task (.upload account file archive) ∈ (b.run steps).2) :
    ∃ later, b.Uploads steps task file archive later := by
  obtain ⟨earlier, s, later, rfl, made⟩ := exists_step_of_mem_run called
  obtain ⟨number, rfl⟩ := (step_change _ s).called_upload made
  exact ⟨later, earlier, rfl, number⟩

theorem exists_uploads_of_emitted {b : Bridge} (start : b.tasks = []) {steps : List Step}
    {task link : Nat} {status : UploadStatus} {delivered : Bool}
    (emitted : .emitted task link (.upload status) delivered ∈ (b.run steps).2) :
    ∃ file archive later, b.Uploads steps task file archive later := by
  obtain ⟨before, s, behind, rfl, made⟩ := exists_step_of_mem_run emitted
  obtain ⟨file, held⟩ := (step_change _ s).emitted_upload made
  have old : b.told Task.archive? task ≠ some file := by simp [told, start]
  obtain ⟨earlier, s', later, rfl, unknown, known⟩ := exists_step_of_became
    (P := fun c => c.told Task.archive? task = some file) old held
  obtain ⟨number, archive, rfl⟩ := (step_change _ s').archive_new known unknown
  exact ⟨file, archive, _, earlier, List.append_assoc .., number⟩

end Belongs

theorem insert_file (file : Json) : Json.insert "file" file [] = [("file", file)] := rfl

theorem insert_status (status file : Json) :
    Json.insert "status" status [("file", file)] = [("file", file), ("status", status)] := by
  rw [Json.insert, if_neg (by decide), if_neg (by decide), Json.insert]

theorem insert_error (error file : Json) (rest : Members) :
    Json.insert "error" error (("file", file) :: rest) =
      ("error", error) :: ("file", file) :: rest := by
  rw [Json.insert, if_pos (by decide)]

theorem frame_upload_ok (file : String) (payload : Payload) :
    (Event.upload (uploadStatus file (.ok payload))).frame =
      ⟨"upload", [.object [("file", .string file), ("status", .string "deployed")]]⟩ := by
  have members : Json.ofMembers [("file", .string file), ("status", .string "deployed")] =
      .object [("file", .string file), ("status", .string "deployed")] := by
    simp only [Json.ofMembers, List.foldl_cons, List.foldl_nil, insert_file, insert_status]
  exact congrArg (fun told => Frame.mk "upload" [told]) members

theorem frame_upload_error (file : String) (failure : Failure) :
    (Event.upload (uploadStatus file (.error failure))).frame =
      ⟨"upload", [.object [("error", failure.value), ("file", .string file),
        ("status", .string "failed")]]⟩ := by
  have members : Json.ofMembers
        [("file", .string file), ("status", .string "failed"), ("error", failure.value)] =
      .object [("error", failure.value), ("file", .string file), ("status", .string "failed")] := by
    simp only [Json.ofMembers, List.foldl_cons, List.foldl_nil, insert_file,
      insert_status, insert_error]
  exact congrArg (fun told => Frame.mk "upload" [told]) members

/-- In every run an upload whose call returned calls the backend once, with the name and the octets
that came in; it sends one event, on the connection that had been opened last when it asked which
one is active, or none if there was no connection; and it answers once. The event and the answer
both tell the outcome of the call, and the answer is the same whether or not the connection still
takes the event. As long as the call has not returned or the report has not been made there is the
call alone. Archives that come in have different tasks, and only their tasks call for uploads and
send events about them. They come in by the requests that are posted to a path of one more segment:
its text, unescaped, is the name, and the body is the archive. -/
theorem uploads_told (name version : String) (keyFile : Option Bytes) (steps : List Step) :
    let b := start name version keyFile
    let seen := (b.run steps).2
    (∀ task file archive outcome result asked told,
      b.Reported steps task file archive outcome asked told → outcome.result? = some result →
      ∃ event response,
        effectsOf task seen = .called task (.upload "developer" file archive) ::
          (((newest asked).map fun link => .emitted task link event
            ((b.run told).1.isOpen link)).toList ++
            [.answered task response]) ∧
        (∀ payload, result = .ok payload →
          event.frame =
          ⟨"upload", [.object [("file", .string file), ("status", .string "deployed")]]⟩ ∧
          response = .ofText 200 "application/json"
            (Json.object [("file", .string file), ("result", payload.toJson)]).render) ∧
        ∀ failure, result = .error failure →
          event.frame = ⟨"upload", [.object [("error", failure.value), ("file", .string file),
            ("status", .string "failed")]]⟩ ∧
          response =
          .ofText 502 "application/json" (Json.object [("error", .object [("code", .word 5001),
            ("message", .string ("upload failed: " ++ failure.text)),
            ("details", failure.value)])]).render) ∧
    (∀ task file archive later, b.Uploads steps task file archive later →
      (∃ outcome result asked told, outcome.result? = some result ∧
        b.Reported steps task file archive outcome asked told) ∨
      effectsOf task seen = [.called task (.upload "developer" file archive)]) ∧
    (∀ task file file' archive archive' later later', b.Uploads steps task file archive later →
      b.Uploads steps task file' archive' later' → file = file' ∧ archive = archive' ∧
      later = later') ∧
    (∀ task account file archive, .called task (.upload account file archive) ∈ seen →
      ∃ later, b.Uploads steps task file archive later) ∧
    (∀ task link status delivered, .emitted task link (.upload status) delivered ∈ seen →
      ∃ file archive later, b.Uploads steps task file archive later) ∧
    ∀ (request : Http.Request) file archive, Http.Inquiry.ofRequest request = .upload file archive ↔
      request.method = "POST" ∧ archive = request.body ∧ ∃ segment,
        request.path = "/upload/".toList ++ segment ∧ segment ≠ [] ∧ '/' ∉ segment ∧
        Utf8.decode? (Percent.decode (Utf8.encode segment)) = some file.toList := by
  intro b seen
  refine ⟨?_, ?_, ?_, ?_, ?_, ?_⟩
  · intro task file archive outcome result asked told reported returned
    refine ⟨.upload (uploadStatus file result), uploadResponse file result, ?_, ?_, ?_⟩
    · rw [← run_active name version keyFile asked]
      exact reported.effects returned
    · rintro payload rfl
      exact ⟨frame_upload_ok file payload, rfl⟩
    · rintro failure rfl
      exact ⟨frame_upload_error file failure, rfl⟩
  · intro task file archive later uploads
    exact uploads.reported_or_silent
  · intro task file file' archive archive' later later' uploads uploads'
    exact uploads.unique uploads'
  · intro task account file archive called
    exact exists_uploads_of_called called
  · intro task link status delivered emitted
    exact exists_uploads_of_emitted rfl emitted
  · intro request file archive
    exact Http.Inquiry.ofRequest_eq_upload_iff

/-- An archive is refused. Its connection is replaced while the call goes on, and the new one is
closed before the report is made. -/
theorem uploads_told_replaced :
    let asked : List Step :=
      [.connect, .readKey 0, .greet 0, .upload "app.zip" [1, 2], .connect, .readKey 2,
        .greet 2, .endCall 1 (.failed ⟨.string "full"⟩)]
    let told := asked ++ [.readActive 1, .close 1]
    let b := start "local" "v2" none
    b.Reported (told ++ [.report 1]) 1 "app.zip" [1, 2] (.failed ⟨.string "full"⟩) asked told ∧
      ∃ event response, effectsOf 1 (b.run (told ++ [.report 1])).2 =
          [.called 1 (.upload "developer" "app.zip" [1, 2]), .emitted 1 1 event false,
            .answered 1 response] ∧
        event.frame = ⟨"upload", [.object [("error", .string "full"), ("file", .string "app.zip"),
          ("status", .string "failed")]]⟩ ∧
        response.status = 502 := by
  intro asked told b
  have uploads :
    b.Uploads [.connect, .readKey 0, .greet 0, .upload "app.zip" [1, 2], .connect, .readKey 2,
      .greet 2] 1 "app.zip" [1, 2] [.connect, .readKey 2, .greet 2] :=
    ⟨[.connect, .readKey 0, .greet 0], rfl, rfl⟩
  have called : b.Called asked 1 "app.zip" [1, 2] (.failed ⟨.string "full"⟩) :=
    ⟨_, [], rfl, ⟨_, uploads, rfl⟩, by simp⟩
  have reported : b.Reported (told ++ [.report 1]) 1 "app.zip" [1, 2] (.failed ⟨.string "full"⟩)
      asked told :=
    ⟨[], rfl, [.close 1], rfl, called, by simp⟩
  obtain ⟨event, response, all, -, refused⟩ :=
    (uploads_told "local" "v2" none (told ++ [.report 1])).1 1 "app.zip"
    [1, 2] (.failed ⟨.string "full"⟩) (.error ⟨.string "full"⟩) asked told reported rfl
  obtain ⟨frame, answer⟩ := refused _ rfl
  exact ⟨reported, event, response, all, frame, answer ▸ rfl⟩

end Bridge

end CommandBridge
