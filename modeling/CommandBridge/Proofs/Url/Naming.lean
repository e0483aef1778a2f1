import CommandBridge.Proofs.Fetching
import CommandBridge.Proofs.Url.Below

/-! Names at the end of an address. Behind an address and some steps a name is put as it is, so it
is the last segment below them only where the name means nothing else in an address. -/
namespace CommandBridge

namespace Url

/-- A name that stands for itself as the last segment of an address. -/
structure StandsForItself (name : List Char) : Prop where
  unmarked : ∀ c ∈ name, c ∉ ['/', '\\', '?', '#']
  whole : tidy name = name
  notDots : isDot name = false ∧ isDotDot name = false
  unescaped : Percent.decode (Utf8.encode name) = Utf8.encode name

/-- A step on the way to a name: it stands for itself, and is written as it is. -/
def IsStep (step : List Char) : Prop := StandsForItself step ∧ Percent.encode pathSet step = step

def way (steps : List (List Char)) : List Char := steps.flatMap (· ++ ['/'])

theorem way_cons (step : List Char) (steps : List (List Char)) :
    way (step :: steps) = step ++ '/' :: way steps := by
  simp [way]

namespace StandsForItself
variable {name : List Char}

theorem isSlash_eq (itself : StandsForItself name) : ∀ c ∈ name, Kind.web.isSlash c = false := by
  intro c within
  have others := itself.unmarked c within
  simp_all [Kind.isSlash]

theorem free (itself : StandsForItself name) : ∀ c ∈ name, c ≠ '?' ∧ c ≠ '#' := by
  intro c within
  have others := itself.unmarked c within
  simp_all

theorem tidy_slash (itself : StandsForItself name) : tidy (name ++ ['/']) = name ++ ['/'] := by
  have slash : ¬ isEdge '/' = true := by decide
  have kept : ∀ c ∈ name, isKept c = true := fun c within =>
    (List.mem_filter.mp (itself.whole.symm ▸ within : c ∈ tidy name)).2
  rw [tidy, List.reverse_append, List.reverse_singleton, List.singleton_append,
    List.dropWhile_cons_of_neg slash, List.reverse_cons, List.reverse_reverse, List.filter_append,
    List.filter_eq_self.mpr kept]
  rfl

end StandsForItself

section Way
variable {steps : List (List Char)}

theorem way_free (plain : ∀ step ∈ steps, IsStep step) : ∀ c ∈ way steps, c ≠ '?' ∧ c ≠ '#' := by
  intro c within
  obtain ⟨step, among, within⟩ := List.mem_flatMap.mp within
  rcases List.mem_append.mp within with within | last
  · exact (plain step among).1.free c within
  · rw [List.mem_singleton.mp last]
    decide

theorem tidy_way (plain : ∀ step ∈ steps, IsStep step) (name : List Char) :
    tidy (way steps ++ name) = way steps ++ tidy name := by
  induction steps with
  | nil => rfl
  | cons step steps ih =>
      rw [List.forall_mem_cons] at plain
      rw [way_cons, List.append_assoc, List.cons_append, tidy_append_slash, plain.1.1.tidy_slash,
        ih plain.2, List.append_assoc, List.singleton_append, List.append_assoc, List.cons_append]

theorem cutAt_way (plain : ∀ step ∈ steps, IsStep step) (cs : List Char) :
    Text.cutAt Kind.web.isSlash (way steps ++ cs) = steps ++ Text.cutAt Kind.web.isSlash cs := by
  induction steps with
  | nil => rfl
  | cons step steps ih =>
      rw [List.forall_mem_cons] at plain
      rw [way_cons, List.append_assoc, List.cons_append, Text.cutAt_append_sign rfl,
        Text.cutAt_of_none plain.1.1.isSlash_eq, ih plain.2]
      rfl

theorem foldl_descend_way (plain : ∀ step ∈ steps, IsStep step) (place : List (List Char)) :
    steps.foldl (descend .web) place = steps.reverse ++ place := by
  induction steps generalizing place with
  | nil => rfl
  | cons step steps ih =>
      rw [List.forall_mem_cons] at plain
      have goes : descend .web place step = step :: place := by
        simp [descend, plain.1.1.notDots, written, plain.1.2]
      rw [List.foldl_cons, goes, ih plain.2, List.reverse_cons, List.append_assoc,
        List.singleton_append]

theorem joinSegments_way (steps : List (List Char)) :
    joinSegments steps ++ ['/'] = '/' :: way steps := by
  induction steps with
  | nil => rfl
  | cons step steps ih =>
      have split : joinSegments (step :: steps) = '/' :: step ++ joinSegments steps := rfl
      rw [split, List.append_assoc, ih, way_cons]
      rfl

/-- Below an address on the web without a query and a fragment, what is behind some steps is
followed from their end. -/
theorem onHost_way (plain : ∀ step ∈ steps, IsStep step) (scheme host : List Char)
    (credentials : Option Credentials) (port : Option Nat) {front : List Char}
    (free : ∀ c ∈ front, c ≠ '?' ∧ c ≠ '#') :
    ∃ reached, (onHost scheme credentials host port (front ++ ['/'])).path ++ way steps =
        joinSegments reached.reverse ++ ['/'] ∧
      ∀ cs, onHost scheme credentials host port (front ++ '/' :: (way steps ++ cs)) =
        ofTail scheme credentials (some host) port
          (joinSegments (follow .web reached (Text.cutAt Kind.web.isSlash (Tail.of cs).path)))
            (Tail.of cs) := by
  obtain ⟨above, whole, below⟩ := resolved_append front
  have placed : ∀ c ∈ front ++ '/' :: way steps, c ≠ '?' ∧ c ≠ '#' :=
    List.forall_mem_append.mpr ⟨free, List.forall_mem_cons.mpr ⟨by decide, way_free plain⟩⟩
  refine ⟨steps.reverse ++ above, ?_, fun cs => ?_⟩
  · have path : (onHost scheme credentials host port (front ++ ['/'])).path =
        joinSegments above.reverse ++ ['/'] := by
      rw [onHost_of_free free]
      exact whole
    rw [path, List.reverse_append, List.reverse_reverse, joinSegments_append, List.append_assoc,
      List.append_assoc, joinSegments_way, List.singleton_append]
  · have cut := Tail.of_append_of_free placed cs
    have path := below (way steps ++ (Tail.of cs).path)
    rw [cutAt_way plain, follow_append _ _ _ (Text.cutAt_ne_nil _), foldl_descend_way plain] at path
    rw [List.append_assoc, List.cons_append] at cut
    rw [onHost, cut, List.append_assoc, List.cons_append, path]
    rfl

end Way

/-- The last segment of an address, right below a place, decodes to a name, and the address asks
nothing. -/
def EndsIn (u : Url) (place name : List Char) : Prop :=
  ∃ segment, u.path = place ++ segment ∧ '/' ∉ segment ∧
    Percent.decode (Utf8.encode segment) = Utf8.encode name ∧ u.query = none

section Below
variable {steps : List (List Char)} {scheme host front : List Char}
  {credentials : Option Credentials} {port : Option Nat} {base url : Url} {name : List Char}

/-- A name that stands for itself is the last segment below the steps. -/
theorem endsIn_of_standsForItself (plain : ∀ step ∈ steps, IsStep step)
    (isBase : base = onHost scheme credentials host port (front ++ ['/']))
    (isUrl : url = onHost scheme credentials host port (front ++ '/' :: (way steps ++ tidy name)))
    (free : ∀ c ∈ front, c ≠ '?' ∧ c ≠ '#') (itself : StandsForItself name) :
    url.EndsIn (base.path ++ way steps) name := by
  obtain ⟨last, placed, below⟩ := onHost_way plain scheme host credentials port free
  have arrives : arrive .web last name = Percent.encode pathSet name :: last := by
    simp [arrive, itself.notDots, written]
  rw [itself.whole, below, Tail.of_of_free itself.free, Text.cutAt_of_none itself.isSlash_eq,
    follow_singleton, arrives, List.reverse_cons, joinSegments_concat] at isUrl
  refine ⟨Percent.encode pathSet name, ?_, Percent.slash_not_mem_encode fun within => ?_, ?_, ?_⟩
  · rw [isUrl, isBase, placed, List.append_assoc]
    rfl
  · exact itself.unmarked _ within (by decide)
  · rw [Percent.decode_encode pathSet_spares, itself.unescaped]
  · rw [isUrl]
    rfl

/-- Only a name that stands for itself is the last segment below the steps. -/
theorem standsForItself_of_endsIn (plain : ∀ step ∈ steps, IsStep step)
    (isBase : base = onHost scheme credentials host port (front ++ ['/']))
    (isUrl : url = onHost scheme credentials host port (front ++ '/' :: (way steps ++ tidy name)))
    (free : ∀ c ∈ front, c ≠ '?' ∧ c ≠ '#') (ends : url.EndsIn (base.path ++ way steps) name) :
    StandsForItself name := by
  obtain ⟨segment, path, single, named, -⟩ := ends
  obtain ⟨last, placed, below⟩ := onHost_way plain scheme host credentials port free
  obtain ⟨before, segment', followed, ending⟩ := follow_cutAt last (Tail.of (tidy name)).path
  have single' : '/' ∉ segment' := by
    rcases ending with rfl | ⟨part, -, noSlash, -, -, rfl⟩
    · exact List.not_mem_nil
    · exact Percent.slash_not_mem_encode fun within => absurd (noSlash _ within) (by decide)
  obtain rfl : segment = segment' := by
    rw [isBase, placed, List.append_assoc, List.singleton_append, isUrl, below] at path
    exact last_segment_eq (path.symm.trans followed) single single'
  rcases ending with rfl | ⟨part, among, noSlash, notDot, notDotDot, rfl⟩
  · obtain rfl : name = [] := by
      cases name with
      | nil => rfl
      | cons c rest =>
          rw [Utf8.encode_cons] at named
          exact absurd (List.append_eq_nil_iff.mp named.symm).1 (String.utf8EncodeChar_ne_nil)
    exact ⟨nofun, rfl, by decide, rfl⟩
  · -- Undoing escapes makes nothing longer, so nothing of the name was lost on its way.
    rw [Percent.decode_encode pathSet_spares] at named
    have short := (Tail.of_path_sublist (tidy name)).trans (tidy_sublist name)
    obtain rfl : part = name := by
      refine Utf8.eq_of_sublist (among.trans short) ?_
      rw [← named]
      exact Percent.length_decode_le _
    have all : (Tail.of (tidy part)).path = part :=
      short.eq_of_length (Nat.le_antisymm short.length_le among.length_le)
    have whole : tidy part = part := by
      refine (tidy_sublist part).eq_of_length_le ?_
      have shorter := (Tail.of_path_sublist (tidy part)).length_le
      rwa [all] at shorter
    have unmarked := Tail.of_path_free (tidy part)
    rw [all] at unmarked
    refine ⟨fun c within => ?_, whole, ⟨notDot, notDotDot⟩, named⟩
    have noSlash := noSlash c within
    have noMark := unmarked c within
    simp_all [Kind.isSlash]

end Below

/-- A name behind an address on the web and some steps leaves the host as it is. It is the last
segment below them just where the address asks nothing and the name stands for itself. -/
theorem parse?_endsIn_iff {steps : List (List Char)} (plain : ∀ step ∈ steps, IsStep step)
    (some : steps ≠ []) {base name : List Char} {u url : Url}
    (onWeb : parse? (base ++ ['/']) = .some u)
    (parsed : parse? (base ++ '/' :: (way steps ++ name)) = .some url) (http : url.isHttp = true) :
    url.scheme = u.scheme ∧ url.host = u.host ∧ url.port = u.port ∧
      (url.EndsIn (u.path ++ way steps) name ↔ u.query = none ∧ u.fragment = none ∧
        StandsForItself name) := by
  have isHttp : u.isHttp = true := by
    rwa [isHttp, parse?_append_scheme onWeb parsed] at http
  obtain ⟨credentials, host, port, front, reads⟩ := parse?_append onWeb isHttp
  have isBase : u = onHost u.scheme credentials host port (front ++ ['/']) :=
    Option.some.inj (onWeb.symm.trans (reads []))
  have isUrl := Option.some.inj (parsed.symm.trans (reads _))
  rw [tidy_way plain] at isUrl
  refine ⟨?_, ?_, ?_, fun ends => ?_, ?_⟩
  · rw [isUrl]
    rfl
  · rw [isUrl, isBase]
    rfl
  · rw [isUrl, isBase]
    rfl
  · obtain ⟨segment, path, single, named, none⟩ := ends
    have noSign : '#' ∉ front := by
      intro within
      rw [isUrl, onHost_path_of_fragment within _ ['/'], ← isBase, List.append_assoc] at path
      have none := (List.append_eq_nil_iff.mp (List.self_eq_append_right.mp path)).1
      obtain ⟨step, steps, rfl⟩ := List.exists_cons_of_ne_nil some
      simp [way_cons] at none
    have noMark : '?' ∉ front := by
      intro within
      have asks : url.query.isSome = true := isUrl ▸ onHost_query_isSome noSign within _
      rw [none] at asks
      cases asks
    have free : ∀ c ∈ front, c ≠ '?' ∧ c ≠ '#' :=
      fun c within => ⟨fun same => noMark (same ▸ within), fun same => noSign (same ▸ within)⟩
    obtain ⟨query, fragment⟩ := onHost_free_iff.mp free
    rw [← isBase] at query fragment
    exact ⟨query, fragment, standsForItself_of_endsIn plain isBase isUrl free
      ⟨segment, path, single, named, none⟩⟩
  · rintro ⟨query, fragment, itself⟩
    rw [isBase] at query fragment
    exact endsIn_of_standsForItself plain isBase isUrl (onHost_free_iff.mpr ⟨query, fragment⟩)
      itself

end Url

/-- A request goes to a segment below a place that percent-decodes to a name, and asks nothing
else. -/
def Outgoing.NamesBelow (o : Outgoing) (place : List Char) (name : String) : Prop :=
  ∃ segment, o.url.path = place ++ segment ∧ '/' ∉ segment ∧
    Percent.decode (Utf8.encode segment) = octets name ∧ o.url.query = none

theorem Outgoing.NamesBelow.unique {o o' : Outgoing} {place : List Char} {name name' : String}
    (names : o.NamesBelow place name) (names' : o'.NamesBelow place name')
    (same : o.url.path = o'.url.path) :
    name = name' := by
  obtain ⟨segment, path, -, named, -⟩ := names
  obtain ⟨segment', path', -, named', -⟩ := names'
  obtain rfl : segment = segment' := List.append_cancel_left (path.symm.trans (same.trans path'))
  exact Utf8.octets_inj.mp (named.symm.trans named')

/-- A request for a name behind an address on the web and some steps goes to the host of the
address, and it names what it is for below the steps just where the address asks nothing and the
name stands for itself. -/
theorem Fetch.request?_namesBelow_iff {steps : List (List Char)}
    (plain : ∀ step ∈ steps, Url.IsStep step) (some : steps ≠ []) {base : List Char}
    {name method : String} {apiKey contentType : Option String} {body : Bytes} {u : Url}
    {request : Outgoing} (onWeb : Url.parse? (base ++ ['/']) = .some u)
    (built : request? method (base ++ '/' :: (Url.way steps ++ name.toList)) apiKey contentType
      body = .ok request) :
    request.method = method ∧ request.body = body ∧ request.url.scheme = u.scheme ∧
    request.url.host = u.host ∧
      request.url.port = u.port ∧ (request.NamesBelow (u.path ++ Url.way steps) name ↔
        u.query = none ∧ u.fragment = none ∧ Url.StandsForItself name.toList) := by
  obtain ⟨url, parsed, http, rfl⟩ := request?_built built
  obtain ⟨sameScheme, sameHost, samePort, samePath, sameQuery⟩ := Url.withoutCredentials_parts url
  rw [Url.isHttp, sameScheme] at http
  obtain ⟨scheme, host, port, ends⟩ := Url.parse?_endsIn_iff plain some onWeb parsed http
  refine ⟨rfl, rfl, sameScheme.trans scheme, sameHost.trans host, samePort.trans port, ?_⟩
  simp only [Outgoing.NamesBelow, samePath, sameQuery]
  exact ends

end CommandBridge
