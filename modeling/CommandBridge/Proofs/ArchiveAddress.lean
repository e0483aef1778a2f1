import CommandBridge.Bridge.Basic
import CommandBridge.Http.Inquiry
import CommandBridge.Outgoing.Backend
import CommandBridge.Proofs.Url.Naming

/-! Where an archive goes. Its name is put behind the address of the backend as it is, so it goes
below the place of the account only where the name means nothing else in an address. -/
namespace CommandBridge

namespace RemoteBackend

def place : List Char := "upload/developer/".toList

theorem address_of_upload (address file : String) (archive : Bytes) :
    base address ++ path (.upload Bridge.uploadAccount file archive) =
      base address ++ '/' :: (place ++ file.toList) := by
  have split : "/upload/".toList ++ Bridge.uploadAccount.toList ++
    "/".toList = '/' :: place := by decide
  rw [path, String.toList_append, String.toList_append, String.toList_append, split]
  rfl

def steps : List (List Char) := ["upload".toList, "developer".toList]

theorem place_eq : place = Url.way steps := by decide

theorem isStep_of_mem : ∀ step ∈ steps, Url.IsStep step := by
  rw [steps, List.forall_mem_cons, List.forall_mem_singleton]
  exact ⟨⟨⟨List.all_iff_forall_prop.mp (by decide), by decide, by decide, by decide⟩, by decide⟩,
    ⟨⟨List.all_iff_forall_prop.mp (by decide), by decide, by decide, by decide⟩, by decide⟩⟩

/-- An archive goes to the host of the backend, and below the place of the account there just where
the address of the backend asks nothing and the name of the archive stands for itself. -/
theorem upload_namesBelow_iff {address file : String} {key : Option String} {archive : Bytes}
    {u : Url} {request : Outgoing} (onWeb : Url.parse? (base address ++ ['/']) = some u)
    (built : RemoteBackend.request address key (.upload Bridge.uploadAccount file archive) =
      .ok request) :
    request.method = "POST" ∧ request.body = archive ∧ request.url.scheme = u.scheme ∧
      request.url.host = u.host ∧ request.url.port = u.port ∧
      (request.NamesBelow (u.path ++ place) file ↔
        u.query = none ∧ u.fragment = none ∧ Url.StandsForItself file.toList) := by
  rw [RemoteBackend.request, address_of_upload, place_eq] at built
  rw [place_eq]
  exact Fetch.request?_namesBelow_iff isStep_of_mem (by decide) onWeb built

/-- A blank and a sign of an escape that begins none are no obstacle. -/
theorem upload_namesBelow_spaced :
    ∃ request, RemoteBackend.request "http://[::1]:1/api/" none
        (.upload Bridge.uploadAccount "my app 5%.jar" [0x78]) = .ok request ∧
      request.url.path = "/api/upload/developer/my%20app%205%.jar".toList ∧
      request.NamesBelow ("/api/".toList ++ place) "my app 5%.jar" := by
  have built : RemoteBackend.request "http://[::1]:1/api/" none
      (.upload Bridge.uploadAccount "my app 5%.jar" [0x78]) = .ok ⟨"POST", ⟨"http".toList, none,
        some "[::1]".toList, some 1, "/api/upload/developer/my%20app%205%.jar".toList, none, none⟩,
        none, none, [0x78]⟩ := rfl
  have onWeb : Url.parse? (base "http://[::1]:1/api/" ++ ['/']) =
      some ⟨"http".toList, none, some "[::1]".toList, some 1, "/api/".toList, none, none⟩ := rfl
  have itself : Url.StandsForItself "my app 5%.jar".toList :=
    ⟨List.all_iff_forall_prop.mp (by decide), by decide, by decide, by decide⟩
  obtain ⟨-, -, -, -, -, below⟩ := upload_namesBelow_iff onWeb built
  exact ⟨_, built, rfl, below.mpr ⟨rfl, rfl, itself⟩⟩

/-- Escaped slashes and dots in the path of an upload are a name that leads out of the place of the
account. -/
theorem upload_leads_elsewhere :
    let asked : Http.Request :=
      ⟨"POST", ⟨none, none, "/upload/..%2F..%2Ffar".toList, none⟩, [], [0x78]⟩
    Http.Inquiry.ofRequest asked = .upload "../../far" [0x78] ∧
    ∃ request, RemoteBackend.request "http://[::1]:1/api/" none
        (.upload Bridge.uploadAccount "../../far" [0x78]) = .ok request ∧
      request.url.path = "/api/far".toList ∧
      ¬ request.NamesBelow ("/api/".toList ++ place) "../../far" := by
  refine ⟨rfl,
    ⟨"POST", ⟨"http".toList, none, some "[::1]".toList, some 1, "/api/far".toList, none, none⟩,
      none, none, [0x78]⟩, rfl, rfl, ?_⟩
  rintro ⟨segment, path, -⟩
  have leads : "/api/".toList ++ place <+: "/api/far".toList := ⟨segment, path.symm⟩
  exact absurd leads (by decide)

end RemoteBackend

end CommandBridge
