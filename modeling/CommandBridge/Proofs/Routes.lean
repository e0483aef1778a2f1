import CommandBridge.Proofs.Utf8
import CommandBridge.Rehearsal.Answering

/-! Which requests go to which route. A request that goes to a route by the method that the route is
meant for asks for what the route is about; every operation that is listed is on such a route. -/
namespace CommandBridge

namespace Http

namespace Route

def path : Route → List Char
  | .version => "/version".toList
  | .destinations => "/destinations".toList
  | .credential => "/credential".toList
  | .upload segment => uploadPrefix ++ segment
  | .socket => "/ws".toList

def method (route : Route) : String := if route.takesIn then "POST" else "GET"

def bare (route : Route) : Request := ⟨route.method, ⟨none, none, route.path, none⟩, [], []⟩

theorem uploadPrefix_eq : uploadPrefix = ['/', 'u', 'p', 'l', 'o', 'a', 'd', '/'] := by decide

theorem ofPath?_eq_upload_iff {path segment : List Char} :
    ofPath? path = some (.upload segment) ↔
      path = uploadPrefix ++ segment ∧ segment ≠ [] ∧ '/' ∉ segment := by
  have other : ∀ text : String, text.toList[1]? ≠ some 'u' →
      uploadPrefix ++ segment ≠ text.toList := by
    intro text other same
    rw [uploadPrefix_eq] at same
    exact other (same ▸ rfl)
  constructor
  · intro known
    simp only [ofPath?] at known
    iterate 4
      split at known
      · cases known
    split at known
    · rename_i one
      simp only [Bool.and_eq_true, Bool.not_eq_true'] at one
      obtain ⟨⟨front, filled⟩, single⟩ := one
      cases known
      obtain ⟨rest, rfl⟩ := List.isPrefixOf_iff_prefix.mp front
      rw [List.drop_left] at filled single ⊢
      exact ⟨rfl, by simpa using filled, by simpa using single⟩
    · cases known
  · rintro ⟨rfl, filled, single⟩
    simp only [ofPath?]
    rw [if_neg (other _ (by decide)), if_neg (other _ (by decide)), if_neg (other _ (by decide)),
      if_neg (other _ (by decide)), List.drop_left, if_pos]
    simp [List.isPrefixOf_iff_prefix, filled, single]

end Route

/-- Does a request go to a route, by the method that the route is meant for? -/
def Request.AsksFor (request : Request) (route : Route) : Prop :=
  request.method = route.method ∧ request.path = route.path

theorem Route.bare_asksFor (route : Route) : route.bare.AsksFor route := ⟨rfl, rfl⟩

theorem archiveName?_eq_iff {segment : List Char} {file : String} :
    archiveName? segment = some file ↔
    Utf8.decode? (Percent.decode (Utf8.encode segment)) = some file.toList := by
  constructor
  · intro named
    obtain ⟨name, decoded, rfl⟩ := Option.map_eq_some_iff.mp named
    rw [decoded, String.toList_ofList]
  · intro decoded
    rw [archiveName?, decoded, Option.map_some, String.ofList_toList]

namespace Inquiry

/-- A request by the method that its route is meant for asks for what the route is about. -/
theorem ofRequest_onRoute {request : Request} {route : Route} (asks : request.AsksFor route)
    (known : Route.ofPath? route.path = some route) :
    ofRequest request = onRoute request route := by
  obtain ⟨method, path⟩ := asks
  have noQuestion : Sharing.isQuestion request = false := by
    rw [Sharing.isQuestion, method, Route.method]
    split <;> rfl
  have accepted : route.accepts request = true := by
    rw [Route.accepts, Request.isLook, method, Route.method]
    split <;> rfl
  rw [ofRequest, noQuestion, path, known]
  simp only [Bool.false_eq_true, if_false, accepted, if_true]

theorem onRoute_eq_upload_iff {r : Request} {route : Route} {file : String} {archive : Bytes} :
    onRoute r route = .upload file archive ↔
      ∃ segment, route = .upload segment ∧ archiveName? segment = some file ∧ archive = r.body := by
  constructor
  · intro asked
    cases route with
    | upload segment =>
        simp only [onRoute] at asked
        split at asked
        · cases asked
          exact ⟨segment, rfl, ‹_›, rfl⟩
        · cases asked
    | _ => cases asked
  · rintro ⟨segment, rfl, named, rfl⟩
    simp only [onRoute, named]

/-- The requests that bring an archive: those posted to a path of one more segment, whose text,
unescaped, is the name of the archive. The archive is the whole body. -/
theorem ofRequest_eq_upload_iff {r : Request} {file : String} {archive : Bytes} :
    ofRequest r = .upload file archive ↔
      r.method = "POST" ∧ archive = r.body ∧ ∃ segment, r.path = Route.uploadPrefix ++ segment ∧
        segment ≠ [] ∧ '/' ∉ segment ∧
        Utf8.decode? (Percent.decode (Utf8.encode segment)) = some file.toList := by
  constructor
  · intro asked
    simp only [ofRequest] at asked
    split at asked
    · cases asked
    split at asked
    · cases asked
    rename_i route known
    split at asked
    · rename_i accepted
      obtain ⟨segment, rfl, named, rfl⟩ := onRoute_eq_upload_iff.mp asked
      obtain ⟨path, filled, single⟩ := Route.ofPath?_eq_upload_iff.mp known
      exact ⟨eq_of_beq accepted, rfl, segment, path, filled, single, archiveName?_eq_iff.mp named⟩
    · cases asked
  · rintro ⟨posted, rfl, segment, path, filled, single, decoded⟩
    have known := Route.ofPath?_eq_upload_iff.mpr ⟨rfl, filled, single⟩
    have asks : r.AsksFor (.upload segment) := ⟨posted, path⟩
    rw [ofRequest_onRoute asks known]
    exact onRoute_eq_upload_iff.mpr ⟨segment, rfl, archiveName?_eq_iff.mpr decoded, rfl⟩

end Inquiry

theorem ApiDocument.ofRequest_listed {o : Operation} (listed : o ∈ operations) :
    ∃ route : Route, o.path.toList = route.path ∧
      o.method.toList = route.method.toList.map Char.toLower ∧
      ∀ request : Request, request.AsksFor route →
        Inquiry.ofRequest request = Inquiry.onRoute request route := by
  simp only [operations, List.mem_cons, List.not_mem_nil, or_false] at listed
  rcases listed with rfl | rfl | rfl | rfl
  · exact ⟨.credential, rfl, by decide, fun _ asks => Inquiry.ofRequest_onRoute asks rfl⟩
  · exact ⟨.destinations, rfl, by decide, fun _ asks => Inquiry.ofRequest_onRoute asks rfl⟩
  · exact ⟨.upload "\x7bfile\x7d".toList, rfl, by decide,
      fun _ asks => Inquiry.ofRequest_onRoute asks rfl⟩
  · exact ⟨.version, rfl, by decide, fun _ asks => Inquiry.ofRequest_onRoute asks rfl⟩

end Http

namespace Rehearsal

/-- A request by the method that its route is meant for is answered with what the route is about,
body and all. -/
theorem respond_onRoute {request : Http.Request} {route : Http.Route} (asks : request.AsksFor route)
    (known : Http.Route.ofPath? route.path = some route) (r : Rehearsal) :
    r.respond request = r.answerInquiry request (.onRoute request route) := by
  have withBody : request.method ≠ "HEAD" := by
    rw [asks.1, Http.Route.method]
    split <;> decide
  rw [respond, answer, Http.Inquiry.ofRequest_onRoute asks known]
  simp [withBody]

end Rehearsal

end CommandBridge
