import CommandBridge.Outgoing.Fetch
import CommandBridge.Proofs.Url.Below

/-! Which addresses requests can go to. Where they can go to an address, they can go to whatever is
put behind it and a slash, so long as the whole is not too long for a target: what an address is
written with is fit for one. -/
namespace CommandBridge

namespace Http.Target

open Url (Tail)

variable {cs more more' : List Char}

theorem pathAndQuery?_isSome_iff : (pathAndQuery? cs).isSome ↔
    (∀ c ∈ (Tail.of cs).path, isPathSign c = true) ∧
    ∀ c ∈ (Tail.of cs).query.getD [], isQuerySign c = true := by
  simp only [pathAndQuery?, Tail.of, Option.isSome_ite, Bool.and_eq_true, List.all_eq_true]
  cases (cs.takeWhile (· != '#')).dropWhile (· != '?') <;> rfl

/-- A tail of an address that is fit for a target wherever the query of the target begins. -/
structure IsFitTail (cs : List Char) : Prop where
  path : ∀ c ∈ (Tail.of cs).path, isPathSign c = true
  all : ∀ c ∈ cs.takeWhile (· != '#'), isQuerySign c = true

theorem IsFitTail.query (fit : IsFitTail cs) :
    ∀ c ∈ (Tail.of cs).query.getD [], isQuerySign c = true := by
  intro c within
  refine fit.all c ?_
  simp only [Tail.of] at within
  split at within
  · rename_i sign rest behind
    exact (List.dropWhile_sublist _).subset (behind ▸ List.mem_cons_of_mem sign within)
  · cases within

theorem isFitTail_append {path asked named : List Char}
    (signs : ∀ c ∈ path, isPathSign c = true ∧ isQuerySign c = true ∧ c ≠ '?' ∧ c ≠ '#')
    (asks : asked = [] ∨ ∃ query, asked = '?' :: query)
    (sound : ∀ c ∈ asked, isQuerySign c = true ∧ c ≠ '#') (ends : named.takeWhile (· != '#') = []) :
    IsFitTail (path ++ (asked ++ named)) where
  path := by
    have stops : (Tail.of (asked ++ named)).path = [] := by
      rcases asks with rfl | ⟨query, rfl⟩
      · simp only [Tail.of, List.nil_append, ends, List.takeWhile_nil]
      · rfl
    rw [Tail.of_append_of_free fun c within => (signs c within).2.2, stops, List.append_nil]
    exact fun c within => (signs c within).1
  all := by
    have kept : ∀ c ∈ path ++ asked, (c != '#') = true := by
      intro c within
      rcases List.mem_append.mp within with within | within
      · simp [(signs c within).2.2.2]
      · simp [(sound c within).2]
    rw [← List.append_assoc, List.takeWhile_append_of_pos kept, ends, List.append_nil]
    intro c within
    rcases List.mem_append.mp within with within | within
    · exact (signs c within).2.1
    · exact (sound c within).1

/-- What a target goes on with may be changed for any tail that is fit. -/
theorem pathAndQuery?_append (fit : (pathAndQuery? (cs ++ more)).isSome) (fit' : IsFitTail more') :
    (pathAndQuery? (cs ++ more')).isSome := by
  rw [pathAndQuery?_isSome_iff] at fit ⊢
  by_cases sign : '#' ∈ cs
  · obtain ⟨path, query⟩ := Tail.of_append_of_fragment sign more
    obtain ⟨path', query'⟩ := Tail.of_append_of_fragment sign more'
    rwa [path, query, ← path', ← query'] at fit
  by_cases mark : '?' ∈ cs
  · obtain ⟨path, query, parts⟩ := Tail.of_append_of_query sign mark
    rw [(parts more).1, (parts more).2, Option.getD_some, List.forall_mem_append] at fit
    rw [(parts more').1, (parts more').2, Option.getD_some, List.forall_mem_append]
    exact ⟨fit.1, fit.2.1, fit'.all⟩
  · have free : ∀ c ∈ cs, c ≠ '?' ∧ c ≠ '#' :=
      fun c within => ⟨fun same => mark (same ▸ within), fun same => sign (same ▸ within)⟩
    rw [Tail.of_append_of_free free] at fit ⊢
    obtain ⟨path, -⟩ := fit
    rw [List.forall_mem_append] at path
    exact ⟨List.forall_mem_append.mpr ⟨path.1, fit'.path⟩, fit'.query⟩

theorem splitScheme_web {scheme : List Char}
    (http : scheme = "http".toList ∨ scheme = "https".toList)
    (rest : List Char) : splitScheme (scheme ++ "://".toList ++ rest) = some (scheme, rest) := by
  rcases http with rfl | rfl <;> rfl

/-- An address on the web is read as a target from behind its scheme on: an authority up to the
first slash, and the rest. -/
theorem ofText?_isSome_iff {scheme : List Char}
    (http : scheme = "http".toList ∨ scheme = "https".toList)
    (cs more : List Char) : (ofText? (scheme ++ "://".toList ++ (cs ++ '/' :: more))).isSome ↔
      (Utf8.encode (scheme ++ "://".toList ++ (cs ++ '/' :: more))).length ≤ greatestLength ∧
        cs.takeWhile (fun c => !endsAuthority c) ≠ [] ∧
        isAuthority (cs.takeWhile fun c => !endsAuthority c) = true ∧
        (pathAndQuery? (cs.dropWhile (fun c => !endsAuthority c) ++ '/' :: more)).isSome := by
  have named : ∃ c name, scheme ++ "://".toList ++ (cs ++ '/' :: more) = c :: name ∧
    c ≠ '*' ∧ c ≠ '/' ∧
      scheme.length ≤ greatestScheme := by
    rcases http with rfl | rfl <;> exact ⟨'h', _, rfl, by decide, by decide, by decide⟩
  obtain ⟨c, name, written, notAll, notPath, short⟩ := named
  have slash : ('/' :: more).takeWhile (fun c => !endsAuthority c) = [] :=
    List.takeWhile_cons_of_neg (by decide)
  have front : (cs ++ '/' :: more).takeWhile (fun c => !endsAuthority c) =
      cs.takeWhile fun c => !endsAuthority c := by
    rw [List.takeWhile_append]
    split
    · rename_i whole
      rw [slash, List.append_nil, (List.takeWhile_sublist _).eq_of_length whole]
    · rfl
  have behind : (cs ++ '/' :: more).drop (cs.takeWhile fun c => !endsAuthority c).length =
      cs.dropWhile (fun c => !endsAuthority c) ++ '/' :: more := by
    rw [List.drop_append_of_le_length (List.takeWhile_sublist _).length_le]
    have parts : ∀ front behind, front ++ behind = cs → cs.drop front.length = behind := by
      rintro front behind rfl
      exact List.drop_left
    rw [parts _ _ List.takeWhile_append_dropWhile]
  have scheme' := splitScheme_web http (cs ++ '/' :: more)
  rw [written] at scheme' ⊢
  have whole : c :: name ≠ ['*'] := fun same => notAll (List.cons.inj same).1
  simp only [ofText?, scheme', front, behind, List.isEmpty_cons, Bool.false_or, decide_eq_true_eq,
    if_neg whole, List.head?_cons, Option.some.injEq, if_neg notPath]
  by_cases long : greatestLength < (Utf8.encode (c :: name)).length
  · simp [long, Nat.not_le.mpr long]
  by_cases none : cs.takeWhile (fun c => !endsAuthority c) = []
  · simp [none]
  by_cases sound : isAuthority (cs.takeWhile fun c => !endsAuthority c) = true
  · simp [long, none, sound, Nat.not_lt.mpr short, Nat.not_lt.mp long]
  · simp [sound]

end Http.Target

namespace Url

def isWritten (c : Char) : Bool :=
  Http.Target.isPathSign c && Http.Target.isQuerySign c && c != '?' && c != '#'

theorem follow_isWritten {place : List (List Char)}
    (sound : ∀ part ∈ place, ∀ c ∈ part, isWritten c = true) (parts : List (List Char)) :
    ∀ part ∈ follow .web place parts, ∀ c ∈ part, isWritten c = true := by
  have higher : ∀ {place : List (List Char)}, (∀ part ∈ place, ∀ c ∈ part, isWritten c = true) →
      ∀ part ∈ above place, ∀ c ∈ part, isWritten c = true := by
    intro place sound part within
    cases place with
    | nil => cases within
    | cons first rest =>
        rw [above] at within
        split at within
        · exact sound part within
        · exact sound part (.tail _ within)
  have closed : ∀ {place : List (List Char)} (rest : List (List Char)),
      (∀ part ∈ place, ∀ c ∈ part, isWritten c = true) →
      ∀ part ∈ (if rest.isEmpty then [] :: place else place), ∀ c ∈ part, isWritten c = true := by
    intro place rest sound
    split
    · exact List.forall_mem_cons.mpr ⟨nofun, sound⟩
    · exact sound
  induction parts generalizing place with
  | nil => exact fun part within => sound part (List.mem_reverse.mp within)
  | cons segment rest ih =>
      rw [follow]
      dsimp only
      split
      · exact ih (closed rest (higher sound))
      · split
        · exact ih (closed rest sound)
        · refine ih (List.forall_mem_cons.mpr ⟨?_, sound⟩)
          exact Percent.forall_mem_encode (by decide) (by decide) (by decide) segment

theorem arrive_ne_nil (kind : Kind) (place : List (List Char)) (segment : List Char) :
    arrive kind place segment ≠ [] := by
  unfold arrive
  split
  · exact List.cons_ne_nil _ _
  · split <;> exact List.cons_ne_nil _ _

theorem follow_ne_nil (kind : Kind) (place : List (List Char)) {parts : List (List Char)}
    (some : parts ≠ []) :
    follow kind place parts ≠ [] := by
  rcases List.eq_nil_or_concat parts with none | ⟨init, last, rfl⟩
  · exact absurd none some
  · rw [List.concat_eq_append, follow_append _ _ _ (List.cons_ne_nil _ _), follow_singleton]
    exact fun none => arrive_ne_nil _ _ _ (List.reverse_eq_nil_iff.mp none)

theorem resolved_eq_cons (path : List Char) :
    ∃ more, resolved .web path = '/' :: more ∧ ∀ c ∈ '/' :: more, isWritten c = true := by
  have sound := follow_isWritten (List.forall_mem_nil _) (segments .web path)
  rw [resolved]
  obtain ⟨first, rest, parts⟩ := List.exists_cons_of_ne_nil
    (follow_ne_nil .web [] (Text.cutAt_ne_nil _) : follow .web [] (segments .web path) ≠ [])
  rw [parts] at sound ⊢
  refine ⟨first ++ joinSegments rest, rfl, ?_⟩
  have split : '/' :: (first ++ joinSegments rest) = joinSegments (first :: rest) := rfl
  rw [split]
  intro c within
  obtain ⟨part, among, within⟩ := List.mem_flatMap.mp within
  rcases List.mem_cons.mp within with rfl | within
  · decide
  · exact sound part among c within

def behindHost (u : Url) : List Char :=
  u.path ++ ((u.query.map ('?' :: ·)).getD [] ++ (u.fragment.map ('#' :: ·)).getD [])

/-- What is before the path of an address on the web and behind the two slashes. -/
def hostText (credentials : Option Credentials) (host : List Char) (port : Option Nat) :
    List Char :=
  (credentials.map (·.text)).getD [] ++
    (host ++ (port.map fun port => ':' :: Nat.toDigits 10 port).getD [])

section OnHost
variable {scheme host : List Char} {credentials : Option Credentials} {port : Option Nat}

theorem text_onHost (cs : List Char) : (onHost scheme credentials host port cs).text =
    scheme ++ "://".toList ++
      (hostText credentials host port ++ (onHost scheme credentials host port cs).behindHost) := by
  have slashes : "://".toList = [':', '/', '/'] := by decide
  simp [text, origin, authority, behindHost, hostText, onHost, ofTail, slashes]

theorem withoutCredentials_onHost (cs : List Char) :
    (onHost scheme credentials host port cs).withoutCredentials =
      onHost scheme (if credentials.any (·.areSeparable) then none else credentials)
        host port cs := by
  by_cases separable : credentials.any (·.areSeparable) = true
  · simp [withoutCredentials, onHost, ofTail, separable]
  · simp [withoutCredentials, onHost, ofTail, separable]

/-- What is behind the host of an address on the web is a slash and a tail that is fit for a
target. -/
theorem behindHost_onHost (web : Kind.ofScheme scheme = .web) (cs : List Char) :
    ∃ more, (onHost scheme credentials host port cs).behindHost = '/' :: more ∧
      Http.Target.IsFitTail ('/' :: more) := by
  obtain ⟨more, path, sound⟩ := resolved_eq_cons (Tail.of cs).path
  have signs : ∀ c ∈ '/' :: more, Http.Target.isPathSign c = true ∧
    Http.Target.isQuerySign c = true ∧
      c ≠ '?' ∧ c ≠ '#' := by
    intro c within
    have written := sound c within
    simpa [isWritten, and_assoc] using written
  let asked := (((Tail.of cs).query.map (Percent.encode (querySet .web))).map ('?' :: ·)).getD []
  let named := (((Tail.of cs).fragment.map (Percent.encode fragmentSet)).map ('#' :: ·)).getD []
  have split : (onHost scheme credentials host port cs).behindHost =
      ('/' :: more) ++ (asked ++ named) := by
    simp only [behindHost, onHost, ofTail, Tail.escaped, web, path, asked, named]
  have asks : asked = [] ∨ ∃ query, asked = '?' :: query := by
    cases query : (Tail.of cs).query <;> simp [asked, query]
  have sound : ∀ c ∈ asked, Http.Target.isQuerySign c = true ∧ c ≠ '#' := by
    intro c within
    cases query : (Tail.of cs).query with
    | none => simp [asked, query] at within
    | some query' =>
        simp only [asked, query, Option.map_some, Option.getD_some, List.mem_cons] at within
        rcases within with rfl | within
        · decide
        · have sign :=
            @Percent.forall_mem_encode (querySet .web) (fun c => Http.Target.isQuerySign c &&
              c != '#')
            (by decide) (by decide) (by decide) query' c within
          simpa using sign
  have ends : named.takeWhile (· != '#') = [] := by
    cases fragment : (Tail.of cs).fragment <;> simp [named, fragment]
  exact ⟨more ++ (asked ++ named), split, Http.Target.isFitTail_append signs asks sound ends⟩

end OnHost

end Url

namespace Fetch

/-- Where requests can go to an address that ends with a slash, they can go to what it is with any
text behind the slash as long as that is not too long. -/
theorem isFit_append {base : List Char} {u : Url} (onWeb : Url.parse? (base ++ ['/']) = some u)
    (fit : isFit u.withoutCredentials = true) (more : List Char) :
    ∃ url, Url.parse? (base ++ '/' :: more) = some url ∧ url.host = u.host ∧
      (isFit url.withoutCredentials = true ↔
        (Utf8.encode url.withoutCredentials.text).length ≤ Http.Target.greatestLength) := by
  simp only [isFit, Bool.and_eq_true] at fit ⊢
  obtain ⟨http, fit⟩ := fit
  rw [Url.isHttp, (Url.withoutCredentials_parts u).1] at http
  obtain ⟨credentials, host, port, front, reads⟩ := Url.parse?_append onWeb http
  have isBase := Option.some.inj (onWeb.symm.trans (reads []))
  have scheme : u.scheme = "http".toList ∨
    u.scheme = "https".toList := by simpa [Url.isHttp] using http
  have web := Url.kind_of_isHttp http
  refine ⟨_, reads more, (congrArg Url.host isBase).symm, ?_⟩
  rw [isBase, Url.withoutCredentials_onHost, Url.text_onHost] at fit
  rw [Url.withoutCredentials_onHost, Url.text_onHost]
  let kept := if credentials.any (·.areSeparable) then none else credentials
  have behindHost : ∀ cs, ∃ rest, (Url.onHost u.scheme kept host port cs).behindHost = '/' :: rest ∧
      Http.Target.IsFitTail ('/' :: rest) := Url.behindHost_onHost web
  obtain ⟨rest, behind, -⟩ := behindHost (front ++ '/' :: Url.tidy [])
  obtain ⟨rest', behind', sound⟩ := behindHost (front ++ '/' :: Url.tidy more)
  rw [behind, Http.Target.ofText?_isSome_iff scheme] at fit
  rw [behind', Http.Target.ofText?_isSome_iff scheme]
  obtain ⟨-, named, authority, tail⟩ := fit
  have tail' := Http.Target.pathAndQuery?_append tail sound
  exact ⟨fun all => all.2.1, fun short => ⟨http, short, named, authority, tail'⟩⟩

end Fetch

end CommandBridge
