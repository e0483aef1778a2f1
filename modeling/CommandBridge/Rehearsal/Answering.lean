import CommandBridge.Http.Inquiry
import CommandBridge.Http.Pages
import CommandBridge.Rehearsal.Basic

/-! How a rehearsal answers requests. There is no answer while what is asked for waits for ever. -/
namespace CommandBridge.Rehearsal

/-- What became visible of a request: its answer, if there is one yet, and the effects. -/
structure Answered where
  response : Option Http.Response
  effects : List Effect

def answerIn : List Effect → Option Http.Response
  | [] => none
  | .answered _ response :: _ => some response
  | _ :: rest => answerIn rest

def answerVersion (r : Rehearsal) : Answered × Rehearsal :=
  let (newest, network) := Lookup.newestVersion r.settings r.encodings r.network
  (⟨newest.map (Lookup.versionResponse r.localVersion), []⟩, { r with network })

def answerDestinations (r : Rehearsal) : Answered × Rehearsal :=
  let (listed, network) := Lookup.destinations r.settings r.encodings r.network r.bridge.storedKey
  (⟨listed.map Lookup.destinationsResponse, []⟩, { r with network })

def answerKey (r : Rehearsal) (request : Http.Request) : Answered × Rehearsal :=
  let task := r.nextTask
  let (r, seen) := r.run [.postKey request, .saveKey task r.isKeyFileWritable, .adoptKey task]
  (⟨answerIn seen, seen⟩, r.writeKeyFile)

def answerUpload (r : Rehearsal) (file : String) (archive : Bytes) : Answered × Rehearsal :=
  let task := r.nextTask
  let (r, seen) := r.runCalling (.upload file archive)
  let (r, later) := r.run [.readActive task, .report task]
  (⟨answerIn later, seen ++ later⟩, r)

def answerPage (r : Rehearsal) (request : Http.Request) : Http.Response :=
  match r.settings.clientDirectory? r.files r.working with
  | some path => Http.Pages.response r.files r.written r.working path request
  | none => .empty 404

def answerInquiry (r : Rehearsal) (request : Http.Request) : Http.Inquiry → Answered × Rehearsal
  | .answered response => (⟨some response, []⟩, r)
  | .version => r.answerVersion
  | .destinations => r.answerDestinations
  | .key => r.answerKey request
  | .upload file archive => r.answerUpload file archive
  | .page => (⟨some (r.answerPage request), []⟩, r)

def answer (r : Rehearsal) (request : Http.Request) : Answered × Rehearsal :=
  r.answerInquiry request (.ofRequest request)

/-- The answer as it goes out: a request for the head alone gets no body. -/
def respond (r : Rehearsal) (request : Http.Request) : Answered × Rehearsal :=
  let (answered, r) := r.answer request
  if request.method == "HEAD" then
    ({ answered with response := answered.response.map (·.headOnly) }, r)
  else (answered, r)

end CommandBridge.Rehearsal
