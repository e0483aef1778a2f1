import CommandBridge.Proofs.Destinations
import CommandBridge.Proofs.Url.Fitness
import CommandBridge.Proofs.Url.Naming

/-! Where the places to push to are looked up. The key is put behind the address of the accounts as
it is, so it is looked up below their place only where it means nothing else in an address. -/
namespace CommandBridge.Lookup

def accountsAddress (settings : Settings) : List Char :=
  (settings.accountsScheme ++ "://" ++ settings.accountsHost ++ ":" ++ Nat.repr
    settings.accountsPort.toNat).toList

def place : List Char := "api/vpc/list/".toList

def steps : List (List Char) := ["api".toList, "vpc".toList, "list".toList]

theorem place_eq : place = Url.way steps := by decide

theorem isStep_of_mem : ∀ step ∈ steps, Url.IsStep step := by
  rw [steps, List.forall_mem_cons, List.forall_mem_cons, List.forall_mem_singleton]
  exact ⟨⟨⟨List.all_iff_forall_prop.mp (by decide), by decide, by decide, by decide⟩, by decide⟩,
    ⟨⟨List.all_iff_forall_prop.mp (by decide), by decide, by decide, by decide⟩, by decide⟩,
    ⟨⟨List.all_iff_forall_prop.mp (by decide), by decide, by decide, by decide⟩, by decide⟩⟩

variable {settings : Settings} {key : String} {request : Outgoing}

theorem destinationsAddress_eq (settings : Settings) (key : String) :
    destinationsAddress settings key = accountsAddress settings ++
      '/' :: (Url.way steps ++ key.toList) := by
  have split : "/api/vpc/list/".toList = '/' :: Url.way steps := by decide
  rw [destinationsAddress, accountsAddress, String.toList_append, String.toList_append,
    split, List.append_assoc]
  rfl

/-- The address of the accounts ends in a digit of their port. -/
theorem accountsAddress_ends (settings : Settings) :
    ∃ c, (accountsAddress settings).getLast? = some c ∧ c.isDigit = true := by
  have digits : (Nat.repr settings.accountsPort.toNat).toList =
      Nat.toDigits 10 settings.accountsPort.toNat :=
    String.toList_ofList
  obtain ⟨c, last⟩ : ∃ c, (Nat.toDigits 10 settings.accountsPort.toNat).getLast? = some c :=
    Option.ne_none_iff_exists'.mp fun none => Nat.toDigits_ne_nil
      (List.getLast?_eq_none_iff.mp none)
  refine ⟨c, ?_, Nat.isDigit_of_mem_toDigits (by decide) (by decide) (List.mem_of_getLast? last)⟩
  rw [accountsAddress, String.toList_append, digits, List.getLast?_append, last]
  rfl

/-- Where a request can be built to the accounts themselves, one is built for every key, unless its
address is too long. -/
theorem destinationsRequest_built {front : Outgoing}
    (built : Fetch.request? "GET" (accountsAddress settings ++ ['/']) none none [] = .ok front)
    (key : String) :
    (∃ request, destinationsRequest settings key = .ok request) ∨
      ∃ url, destinationsRequest settings key = .error (.unfit url) ∧
        Http.Target.greatestLength < (Utf8.encode url.text).length := by
  obtain ⟨u, onWeb, hosted, -, fit, -⟩ := Fetch.request?_eq_ok_iff.mp built
  obtain ⟨url, parsed, host, short⟩ := Fetch.isFit_append onWeb fit (Url.way steps ++ key.toList)
  rw [Url.hasHost, ← host] at hosted
  by_cases fits : Fetch.isFit url.withoutCredentials = true
  · refine .inl ⟨⟨"GET", url.withoutCredentials, none, none, []⟩, ?_⟩
    simp [destinationsRequest, Fetch.request?, destinationsAddress_eq, parsed,
      Url.hasHost, hosted, fits]
  · refine .inr ⟨url.withoutCredentials, ?_, Nat.not_le.mp fun le => fits (short.mpr le)⟩
    simp [destinationsRequest, Fetch.request?, destinationsAddress_eq, parsed,
      Url.hasHost, hosted, fits]

/-- A text that a lookup comes to was replied to the request for the key, or to one that it was
redirected to. -/
theorem destinations_seen (built : destinationsRequest settings key = .ok request)
    {encodings : Encodings} {n n' : Network} {body : String}
    (found : destinations settings encodings n (some key) = (some (.ok body), n')) :
    ∃ new, n'.seen = n.seen ++ .request request :: new := by
  obtain ⟨new, seen, -, first, taken⟩ :=
    Fetch.run_seen encodings (some settings.destinationsTimeout) n request
  rw [destinationsRequest] at built
  rw [destinations] at found
  simp only [built, Fetch.runIfBuilt] at found
  rcases ran : Fetch.run encodings (some settings.destinationsTimeout) n request with
    ⟨fetched, network⟩
  rw [ran] at found seen taken
  cases fetched with
  | text status text =>
      cases found
      obtain ⟨rest, rfl⟩ := List.head?_eq_some_iff.mp (first (taken status body rfl))
      exact ⟨rest, seen⟩
  | failed e => cases found
  | timedOut limit => cases found
  | waiting => cases found

/-- Where a request can be built to the accounts, one is built for every key whose address is not
too long. It goes to the host of the accounts, and below the place of the lookup there just where
the address of the accounts asks nothing and the key stands for itself; two keys looked up there are
never looked up at one path. -/
theorem destinationsRequest_namesBelow_iff (settings : Settings) (key : String) :
    (∀ front, Fetch.request? "GET" (accountsAddress settings ++ ['/']) none none [] = .ok front →
      (∃ request, destinationsRequest settings key = .ok request) ∨
        ∃ url, destinationsRequest settings key = .error (.unfit url) ∧
          Http.Target.greatestLength < (Utf8.encode url.text).length) ∧
    ∀ request, destinationsRequest settings key = .ok request →
      (∀ encodings n n' body, destinations settings encodings n (some key) = (some (.ok body), n') →
        ∃ new, n'.seen = n.seen ++ .request request :: new) ∧
      ∃ u, Url.parse? (accountsAddress settings ++ ['/']) = some u ∧ request.method = "GET" ∧
        request.body = [] ∧
        request.url.scheme = u.scheme ∧ request.url.host = u.host ∧ request.url.port = u.port ∧
        (request.NamesBelow (u.path ++ place) key ↔
          u.query = none ∧ u.fragment = none ∧ Url.StandsForItself key.toList) ∧
        (request.NamesBelow (u.path ++ place) key → ∀ key' request',
          destinationsRequest settings key' = .ok request' →
          request'.NamesBelow (u.path ++ place) key' →
          request.url.path = request'.url.path → key = key') := by
  refine ⟨fun front built => destinationsRequest_built built key, fun request built =>
    ⟨fun encodings n n' body found => destinations_seen built found, ?_⟩⟩
  rw [destinationsRequest, destinationsAddress_eq] at built
  obtain ⟨url, parsed, http, -⟩ := Fetch.request?_built built
  rw [Url.isHttp, (Url.withoutCredentials_parts url).1] at http
  obtain ⟨u, onWeb⟩ := Url.parse?_front parsed http (accountsAddress_ends settings)
  obtain ⟨method, body, scheme, host, port, below⟩ :=
    Fetch.request?_namesBelow_iff isStep_of_mem (by decide) onWeb built
  rw [← place_eq] at below
  exact ⟨u, onWeb, method, body, scheme, host, port, below, fun names key' request' _ names' =>
    names.unique names'⟩

def nearAccounts : Settings :=
  { Settings.defaults with accountsScheme := "http", accountsHost := "[::1]", accountsPort := 1 }

def nearRequest (path : String) : Outgoing where
  method := "GET"
  url := ⟨"http".toList, none, some "[::1]".toList, some 1, path.toList, none, none⟩
  apiKey := none
  contentType := none
  body := []

/-- A blank and a sign of an escape that begins none are no obstacle. -/
theorem destinationsRequest_namesBelow_spaced :
    Fetch.request? "GET" (accountsAddress nearAccounts ++ ['/']) none none [] =
      .ok (nearRequest "/") ∧
    destinationsRequest nearAccounts "my key 5%" = .ok (nearRequest "/api/vpc/list/my%20key%205%") ∧
    (nearRequest "/api/vpc/list/my%20key%205%").NamesBelow ("/".toList ++ place) "my key 5%" := by
  have built : destinationsRequest nearAccounts "my key 5%" =
    .ok (nearRequest "/api/vpc/list/my%20key%205%") := rfl
  have itself : Url.StandsForItself "my key 5%".toList :=
    ⟨List.all_iff_forall_prop.mp (by decide), by decide, by decide, by decide⟩
  obtain ⟨-, leads⟩ := destinationsRequest_namesBelow_iff nearAccounts "my key 5%"
  obtain ⟨-, u, onWeb, -, -, -, -, -, below, -⟩ := leads _ built
  cases onWeb
  exact ⟨rfl, built, below.mpr ⟨rfl, rfl, itself⟩⟩

/-- Dots and slashes in a key lead out of the place of the lookup, and a line break at its end is
lost, so that two keys are looked up by one request. -/
theorem destinationsRequest_leads_elsewhere :
    destinationsRequest nearAccounts "../../../far" = .ok (nearRequest "/far") ∧
    ¬ (nearRequest "/far").NamesBelow ("/".toList ++ place) "../../../far" ∧
    destinationsRequest nearAccounts "k" = .ok (nearRequest "/api/vpc/list/k") ∧
    destinationsRequest nearAccounts "k\n" = .ok (nearRequest "/api/vpc/list/k") := by
  refine ⟨rfl, ?_, rfl, rfl⟩
  rintro ⟨segment, path, -⟩
  have leads : "/".toList ++ place <+: "/far".toList := ⟨segment, path.symm⟩
  exact absurd leads (by decide)

end CommandBridge.Lookup
