import CommandBridge.Proofs.Url.Path
import CommandBridge.Url.Basic

/-! Addresses below an address. What a text put behind an address on the web and a slash adds to it
is told: the segments that are followed from the place of the address on, a query and a fragment.
The host is never moved. -/
namespace CommandBridge.Url

theorem withoutCredentials_parts (u : Url) :
    u.withoutCredentials.scheme = u.scheme ∧ u.withoutCredentials.host = u.host ∧
      u.withoutCredentials.port = u.port ∧ u.withoutCredentials.path = u.path ∧
      u.withoutCredentials.query = u.query := by
  unfold withoutCredentials
  split <;> exact ⟨rfl, rfl, rfl, rfl, rfl⟩

namespace Tail

theorem of_append_of_fragment {cs : List Char} (cut : '#' ∈ cs) (more : List Char) :
    (of (cs ++ more)).path = (of cs).path ∧ (of (cs ++ more)).query = (of cs).query := by
  have same : (cs ++ more).takeWhile (· != '#') = cs.takeWhile (· != '#') := by
    rw [List.takeWhile_append, if_neg]
    intro whole
    have all := List.takeWhile_eq_self_iff.mp ((List.takeWhile_sublist _).eq_of_length whole)
    exact absurd (all '#' cut) (by decide)
  simp only [of, same, and_self]

theorem of_path_sublist (cs : List Char) : (of cs).path.Sublist cs :=
  (List.takeWhile_sublist _).trans (List.takeWhile_sublist _)

theorem of_path_free (cs : List Char) : ∀ c ∈ (of cs).path, c ≠ '?' ∧ c ≠ '#' := by
  intro c within
  refine ⟨by simpa using List.mem_takeWhile_imp within, ?_⟩
  have before := (List.takeWhile_sublist _).subset within
  simpa using List.mem_takeWhile_imp before

theorem of_append_of_free {cs : List Char} (free : ∀ c ∈ cs, c ≠ '?' ∧ c ≠ '#') (more : List Char) :
    of (cs ++ more) = ⟨cs ++ (of more).path, (of more).query, (of more).fragment⟩ := by
  have noSign : ∀ c ∈ cs, (c != '#') = true := fun c within => by simp [(free c within).2]
  have noMark : ∀ c ∈ cs, (c != '?') = true := fun c within => by simp [(free c within).1]
  simp only [of, List.takeWhile_append_of_pos noSign, List.dropWhile_append_of_pos noSign,
    List.takeWhile_append_of_pos noMark, List.dropWhile_append_of_pos noMark]

theorem of_of_free {cs : List Char} (free : ∀ c ∈ cs, c ≠ '?' ∧ c ≠ '#') :
    of cs = ⟨cs, none, none⟩ := by
  have all := of_append_of_free free []
  rwa [List.append_nil, show of [] = ⟨[], none, none⟩ from rfl, List.append_nil] at all

/-- Behind a question mark, all that a text goes on with up to a number sign is asked. -/
theorem of_append_of_query {cs : List Char} (noSign : '#' ∉ cs) (mark : '?' ∈ cs) :
    ∃ path query, ∀ more, (of (cs ++ more)).path = path ∧
      (of (cs ++ more)).query = some (query ++ more.takeWhile (· != '#')) := by
  have kept : ∀ c ∈ cs, (c != '#') = true := fun c within => by
    simp only [bne_iff_ne, ne_eq]
    rintro rfl
    exact noSign within
  obtain ⟨path, query, rfl, before⟩ := List.eq_append_cons_of_mem mark
  have unmarked : ∀ c ∈ path, (c != '?') = true := fun c within => by
    simp only [bne_iff_ne, ne_eq]
    rintro rfl
    exact before within
  refine ⟨path, query, fun more => ?_⟩
  have front : ((path ++ '?' :: query) ++ more).takeWhile (· != '#') =
      path ++ '?' :: (query ++ more.takeWhile (· != '#')) := by
    rw [List.takeWhile_append_of_pos kept, List.append_assoc, List.cons_append]
  simp only [of, front, List.takeWhile_append_of_pos unmarked,
    List.dropWhile_append_of_pos unmarked]
  simp

theorem of_query_isSome {cs : List Char} (noSign : '#' ∉ cs) (mark : '?' ∈ cs) (more : List Char) :
    (of (cs ++ more)).query.isSome := by
  obtain ⟨_, _, asks⟩ := of_append_of_query noSign mark
  rw [(asks more).2]
  rfl

theorem of_fragment_isSome {cs : List Char} (sign : '#' ∈ cs) : (of cs).fragment.isSome := by
  simp only [of]
  cases found : cs.dropWhile (· != '#') with
  | cons _ rest => rfl
  | nil => exact absurd (List.dropWhile_eq_nil_iff.mp found '#' sign) (by decide)

end Tail

/-- The blanks and controls that are dropped at the ends of an address. -/
def isEdge (c : Char) : Bool := c.toNat ≤ 0x20

def isKept (c : Char) : Bool := c != '\t' && c != '\n' && c != '\r'

def tidy (cs : List Char) : List Char := ((cs.reverse.dropWhile isEdge).reverse).filter isKept

theorem clean_eq (cs : List Char) :
    clean cs = (((cs.dropWhile isEdge).reverse.dropWhile isEdge).reverse).filter isKept := rfl

theorem tidy_sublist (cs : List Char) : (tidy cs).Sublist cs := by
  refine List.filter_sublist.trans ?_
  rw [← List.reverse_sublist, List.reverse_reverse]
  exact List.dropWhile_sublist _

theorem tidy_append_slash (cs more : List Char) :
    tidy (cs ++ '/' :: more) = tidy (cs ++ ['/']) ++ tidy more := by
  have slash : ¬ isEdge '/' = true := by decide
  have ends : ∀ rest, ('/' :: rest).dropWhile isEdge = '/' :: rest := fun rest =>
    List.dropWhile_cons_of_neg slash
  have cut : (more.reverse ++ '/' :: cs.reverse).dropWhile isEdge =
      more.reverse.dropWhile isEdge ++ '/' :: cs.reverse := by
    rw [List.dropWhile_append, ends]
    split
    · rename_i none
      rw [List.isEmpty_iff.mp none]
      rfl
    · rfl
  have apart : (cs ++ '/' :: more).reverse.dropWhile isEdge =
      more.reverse.dropWhile isEdge ++ (cs ++ ['/']).reverse := by
    simpa using cut
  have whole : (cs ++ ['/']).reverse.dropWhile isEdge =
    (cs ++ ['/']).reverse := by simpa using ends cs.reverse
  rw [tidy, tidy, tidy, apart, whole, List.reverse_append, List.filter_append]

/-- Cleaning an address leaves what is before a slash within it apart from what is behind. -/
theorem clean_append_slash (cs more : List Char) :
    clean (cs ++ '/' :: more) = clean (cs ++ ['/']) ++ tidy more := by
  have slash : ¬ isEdge '/' = true := by decide
  have front : ∃ kept, ∀ rest', (cs ++ '/' :: rest').dropWhile isEdge = kept ++ '/' :: rest' := by
    cases kept : cs.dropWhile isEdge with
    | nil =>
        refine ⟨[], fun rest' => ?_⟩
        rw [List.dropWhile_append, kept, List.isEmpty_nil, if_pos rfl,
          List.dropWhile_cons_of_neg slash]
        rfl
    | cons c kept' =>
        refine ⟨c :: kept', fun rest' => ?_⟩
        rw [List.dropWhile_append, kept, List.isEmpty_cons, if_neg (by decide)]
  obtain ⟨kept, dropped⟩ := front
  rw [clean_eq, clean_eq, dropped more, dropped []]
  exact tidy_append_slash kept more

def isSchemePart (c : Char) : Bool := c.isAlphanum || c = '+' || c = '-' || c = '.'

theorem scheme?_eq_some_iff {cs scheme rest : List Char} : scheme? cs = some (scheme, rest) ↔
    ∃ c name, cs = c :: name ++ ':' :: rest ∧ c.isAlpha = true ∧
      (∀ x ∈ c :: name, isSchemePart x = true) ∧
      scheme = (c :: name).map Char.toLower := by
  constructor
  · intro named
    unfold scheme? at named
    split at named
    · rename_i c cs
      split at named
      · rename_i letter
        have part : isSchemePart c = true := by simp [isSchemePart, Char.isAlphanum, letter]
        dsimp only at named
        split at named
        · rename_i rest' behind
          have left : (c :: cs).dropWhile isSchemePart = ':' :: rest' := behind
          cases named
          refine ⟨c, cs.takeWhile isSchemePart, ?_, letter, ?_, ?_⟩
          · rw [← List.takeWhile_cons_of_pos part, ← left, List.takeWhile_append_dropWhile]
          · rw [← List.takeWhile_cons_of_pos part]
            exact fun x within => List.mem_takeWhile_imp within
          · rw [← List.takeWhile_cons_of_pos part]
            rfl
        · cases named
      · cases named
    · cases named
  · rintro ⟨c, name, rfl, letter, parts, rfl⟩
    have colon : ¬ isSchemePart ':' = true := by decide
    have left : (c :: (name ++ ':' :: rest)).dropWhile isSchemePart = ':' :: rest := by
      rw [← List.cons_append, List.dropWhile_append_of_pos parts, List.dropWhile_cons_of_neg colon]
    have front : (c :: (name ++ ':' :: rest)).takeWhile isSchemePart = c :: name := by
      rw [← List.cons_append, List.takeWhile_append_of_pos parts, List.takeWhile_cons_of_neg colon,
        List.append_nil]
    unfold isSchemePart at left front
    rw [List.cons_append, scheme?]
    simp only [letter, if_true, left, front]

theorem scheme?_append {cs scheme rest : List Char} (named : scheme? cs = some (scheme, rest))
    (more : List Char) : scheme? (cs ++ more) = some (scheme, rest ++ more) := by
  obtain ⟨c, name, rfl, letter, parts, lower⟩ := scheme?_eq_some_iff.mp named
  exact scheme?_eq_some_iff.mpr ⟨c, name, by simp, letter, parts, lower⟩

/-- The address on the web of which a text is what follows the host. -/
def onHost (scheme : List Char) (credentials : Option Credentials) (host : List Char)
    (port : Option Nat) (cs : List Char) : Url :=
  ofTail scheme credentials (some host) port (resolved .web (Tail.of cs).path) (Tail.of cs)

def isInHost (c : Char) : Bool := !(Kind.web.isSlash c || c = '?' || c = '#')

/-- Reading the host goes no farther than to the first slash. -/
theorem withAuthority?_append {scheme cs known : List Char} {u : Url}
    (web : Kind.ofScheme scheme = .web)
    (read : withAuthority? scheme (cs ++ '/' :: known) = some u) :
    ∃ credentials host port front, ∀ more, withAuthority? scheme (cs ++ '/' :: more) =
      some (onHost scheme credentials host port (front ++ '/' :: more)) := by
  obtain ⟨authority, rest, isAuthority, behind⟩ : ∃ authority rest,
      (∀ more, (cs ++ '/' :: more).takeWhile isInHost = authority) ∧
      ∀ more, (cs ++ '/' :: more).drop authority.length = rest ++ '/' :: more := by
    refine ⟨cs.takeWhile isInHost, cs.drop (cs.takeWhile isInHost).length, fun more => ?_,
      fun more => List.drop_append_of_le_length (List.takeWhile_sublist _).length_le⟩
    have ends : ('/' :: more).takeWhile isInHost = [] := List.takeWhile_cons_of_neg (by decide)
    rw [List.takeWhile_append, ends]
    split
    · rename_i whole
      rw [List.append_nil, (List.takeWhile_sublist _).eq_of_length whole]
    · rfl
  have goesOn : ∀ more, (rest ++ '/' :: more).isEmpty = false := fun more => by simp
  unfold isInHost at isAuthority
  simp only [withAuthority?, web, isAuthority, behind, goesOn, Option.bind_eq_bind,
    Option.bind_eq_some_iff] at read ⊢
  obtain ⟨host, isHost, ⟨port, left⟩, isPort, read⟩ := read
  split at read
  · cases read
  · rename_i held
    refine ⟨Credentials.ofText? (authority.take (authority.length -
      (authority.reverse.takeWhile (· != '@')).reverse.length - 1)), host, port, left ++ rest,
      fun more => ⟨host, isHost, (port, left), isPort, ?_⟩⟩
    rw [if_neg held]
    simp [onHost, List.append_assoc]

theorem withAuthority?_scheme {scheme cs : List Char} {u : Url}
    (read : withAuthority? scheme cs = some u) :
    u.scheme = scheme := by
  simp only [withAuthority?, Option.bind_eq_bind, Option.bind_eq_some_iff] at read
  obtain ⟨host, -, ⟨port, left⟩, -, read⟩ := read
  split at read <;> cases read
  rfl

theorem fileWithHost?_scheme {cs : List Char} {u : Url} (read : fileWithHost? cs = some u) :
    u.scheme = "file".toList := by
  simp only [fileWithHost?, Option.bind_eq_bind] at read
  split at read
  · cases read
    rfl
  · split at read <;>
    · obtain ⟨host, -, read⟩ := Option.bind_eq_some_iff.mp read
      split at read <;> cases read <;> rfl

theorem absolute?_scheme {scheme cs : List Char} {u : Url} (read : absolute? scheme cs = some u) :
    u.scheme = scheme := by
  unfold absolute? at read
  cases kind : Kind.ofScheme scheme with
  | web =>
      rw [kind] at read
      exact withAuthority?_scheme read
  | file =>
      have isFile : scheme = "file".toList := by
        unfold Kind.ofScheme at kind
        split at kind
        · cases kind
        · split at kind
          · assumption
          · cases kind
      rw [kind] at read
      rw [isFile]
      dsimp only at read
      split at read
      · exact fileWithHost?_scheme read
      · cases read
        rfl
  | other =>
      rw [kind] at read
      dsimp only at read
      split at read
      · exact withAuthority?_scheme read
      · cases read
        rfl

theorem withAuthority?_nil {scheme : List Char} (web : Kind.ofScheme scheme = .web) :
    withAuthority? scheme [] = none := by
  simp [withAuthority?, web, cutPort, hostOf?]

/-- Where an address ends with a slash, the clean one does, and what is kept before the slash ends
as it did before if that is not dropped. -/
theorem clean_ends_slash (cs : List Char) : ∃ kept, clean (cs ++ ['/']) = kept ++ ['/'] ∧
    ∀ c, cs.getLast? = some c → isEdge c = false → isKept c = true → kept.getLast? = some c := by
  have slash : ¬ isEdge '/' = true := by decide
  have whole : ∀ kept : List Char,
      (((kept ++ ['/']).reverse.dropWhile isEdge).reverse).filter isKept =
        kept.filter isKept ++ ['/'] := by
    intro kept
    rw [List.reverse_append, List.reverse_singleton, List.singleton_append,
      List.dropWhile_cons_of_neg slash, List.reverse_cons, List.reverse_reverse, List.filter_append]
    rfl
  refine ⟨(cs.dropWhile isEdge).filter isKept, ?_, fun c last shown kept => ?_⟩
  · rw [clean_eq, List.dropWhile_append]
    split
    · rename_i none
      rw [List.dropWhile_cons_of_neg slash, List.isEmpty_iff.mp none]
      exact whole []
    · exact whole _
  · obtain ⟨before, rfl⟩ := List.getLast?_eq_some_iff.mp last
    have stays : [c].dropWhile isEdge = [c] := List.dropWhile_cons_of_neg (by simp [shown])
    have single : [c].filter isKept = [c] := List.filter_cons_of_pos kept
    rw [List.dropWhile_append, stays]
    split
    · rw [single]
      rfl
    · rw [List.filter_append, single, List.getLast?_concat]

theorem scheme?_append_slash {kept known scheme rest : List Char}
    (named : scheme? (kept ++ '/' :: known) = some (scheme, rest)) :
    ∃ before, rest = before ++ '/' :: known ∧ (∃ front, kept = front ++ ':' :: before) ∧
      ∀ more, scheme? (kept ++ '/' :: more) = some (scheme, before ++ '/' :: more) := by
  obtain ⟨c, name, parts, letter, sound, lower⟩ := scheme?_eq_some_iff.mp named
  rcases List.append_eq_append_iff.mp parts with ⟨inside, front, slash⟩ | ⟨left, front, behind⟩
  · cases inside with
    | nil => cases slash
    | cons first inside =>
        obtain ⟨rfl, -⟩ := List.cons.inj slash
        exact absurd (sound '/' (front ▸ by simp)) (by decide)
  · cases left with
    | nil => cases behind
    | cons first before =>
        obtain ⟨rfl, after⟩ := List.cons.inj behind
        refine ⟨before, after, ⟨_, front⟩, fun more => ?_⟩
        exact scheme?_eq_some_iff.mpr ⟨c, name, by rw [front]; simp, letter, sound, lower⟩

theorem isDigit_stays {c : Char} (digit : c.isDigit = true) :
    isEdge c = false ∧ isKept c = true ∧ Kind.web.isSlash c = false ∧ c ≠ ':' := by
  have all : ∀ n < 58, 48 ≤ n → isEdge (Char.ofNat n) = false ∧ isKept (Char.ofNat n) = true ∧
      Kind.web.isSlash (Char.ofNat n) = false ∧ Char.ofNat n ≠ ':' := by
    decide
  simp only [Char.isDigit, Bool.and_eq_true, decide_eq_true_eq, UInt32.le_iff_toNat_le] at digit
  rw [← Char.ofNat_toNat c]
  exact all c.toNat (Nat.lt_succ_of_le digit.2) digit.1

theorem kind_of_isHttp {u : Url} (http : u.isHttp = true) : Kind.ofScheme u.scheme = .web := by
  simp only [isHttp, Bool.or_eq_true, decide_eq_true_eq] at http
  rcases http with http | https
  · rw [http]
    decide
  · rw [https]
    decide

/-- An address on the web in which the text before a slash names the host, as it does where nothing
is behind the slash yet, or where the text ends in a digit: what is put behind the slash follows the
host, tidied. -/
theorem parse?_append_of {base known : List Char} {u : Url}
    (read : parse? (base ++ '/' :: known) = some u) (http : u.isHttp = true)
    (ends : known = [] ∨ ∃ c, base.getLast? = some c ∧ c.isDigit = true) :
    ∃ credentials host port front, ∀ more, parse? (base ++ '/' :: more) =
      some (onHost u.scheme credentials host port (front ++ '/' :: tidy more)) := by
  simp only [parse?, Option.bind_eq_bind, Option.bind_eq_some_iff] at read
  obtain ⟨⟨scheme, rest⟩, named, read⟩ := read
  obtain rfl := absolute?_scheme read
  have web := kind_of_isHttp http
  obtain ⟨kept, cleaned, last⟩ := clean_ends_slash base
  rw [clean_append_slash, cleaned, List.append_assoc, List.singleton_append] at named
  obtain ⟨before, rfl, ⟨front, isKept⟩, names⟩ := scheme?_append_slash named
  -- Slashes alone would leave no host, so what is left of them ends before the last slash.
  have held : (before.dropWhile Kind.web.isSlash).isEmpty = false := by
    rw [← Bool.not_eq_true]
    intro none
    rcases ends with rfl | ⟨c, isLast, sign⟩
    · simp only [absolute?, web, List.dropWhile_append, none, if_true] at read
      cases read.symm.trans (withAuthority?_nil web)
    · obtain ⟨notEdge, isKept', notSlash, notColon⟩ := isDigit_stays sign
      have last' := last c isLast notEdge isKept'
      rw [isKept] at last'
      rcases List.eq_nil_or_concat before with rfl | ⟨before, c', rfl⟩
      · rw [List.getLast?_concat] at last'
        exact notColon (Option.some.inj last').symm
      · rw [List.concat_eq_append] at last' none
        rw [← List.cons_append, ← List.append_assoc, List.getLast?_concat] at last'
        cases last'
        rw [List.isEmpty_iff, List.dropWhile_eq_nil_iff] at none
        rw [none c (by simp)] at notSlash
        cases notSlash
  have left : ∀ more, (before ++ '/' :: more).dropWhile Kind.web.isSlash =
      before.dropWhile Kind.web.isSlash ++ '/' :: more := by
    intro more
    rw [List.dropWhile_append, if_neg (Bool.not_eq_true _ ▸ held)]
  simp only [absolute?, web, left] at read
  obtain ⟨credentials, host, port, front, reads⟩ := withAuthority?_append web read
  refine ⟨credentials, host, port, front, fun more => ?_⟩
  have named' := names (tidy more)
  rw [parse?, clean_append_slash, cleaned, List.append_assoc, List.singleton_append, named']
  simp only [Option.bind_eq_bind, Option.bind_some, absolute?, web, left]
  exact reads (tidy more)

/-- An address on the web that ends with a slash: what is put behind the slash follows the host,
tidied. -/
theorem parse?_append {base : List Char} {u : Url} (read : parse? (base ++ ['/']) = some u)
    (http : u.isHttp = true) :
    ∃ credentials host port front, ∀ more, parse? (base ++ '/' :: more) =
      some (onHost u.scheme credentials host port (front ++ '/' :: tidy more)) :=
  parse?_append_of read http (.inl rfl)

theorem parse?_front {base known : List Char} {u : Url}
    (read : parse? (base ++ '/' :: known) = some u) (http : u.isHttp = true)
    (ends : ∃ c, base.getLast? = some c ∧ c.isDigit = true) :
    ∃ v, parse? (base ++ ['/']) = some v := by
  obtain ⟨credentials, host, port, front, reads⟩ := parse?_append_of read http (.inr ends)
  exact ⟨_, reads []⟩

theorem parse?_append_scheme {base more : List Char} {u v : Url}
    (read : parse? (base ++ ['/']) = some u) (readMore : parse? (base ++ '/' :: more) = some v) :
    v.scheme = u.scheme := by
  simp only [parse?, Option.bind_eq_bind, Option.bind_eq_some_iff] at read readMore
  obtain ⟨⟨scheme, rest⟩, named, read⟩ := read
  obtain ⟨⟨scheme', rest'⟩, named', readMore⟩ := readMore
  rw [clean_append_slash, scheme?_append named] at named'
  cases named'
  rw [absolute?_scheme readMore, absolute?_scheme read]

section OnHost
variable {scheme host front : List Char} {credentials : Option Credentials} {port : Option Nat}

theorem onHost_path_of_fragment (sign : '#' ∈ front) (more more' : List Char) :
    (onHost scheme credentials host port (front ++ more)).path =
      (onHost scheme credentials host port (front ++ more')).path := by
  rw [onHost, onHost, (Tail.of_append_of_fragment sign more).1,
    (Tail.of_append_of_fragment sign more').1]
  rfl

theorem onHost_query_isSome (noSign : '#' ∉ front) (mark : '?' ∈ front) (more : List Char) :
    (onHost scheme credentials host port (front ++ more)).query.isSome := by
  have asks := Tail.of_query_isSome noSign mark more
  simpa [onHost, ofTail, Tail.escaped] using asks

theorem onHost_of_free (free : ∀ c ∈ front, c ≠ '?' ∧ c ≠ '#') :
    onHost scheme credentials host port (front ++ ['/']) =
      ofTail scheme credentials (some host) port (resolved .web (front ++ ['/']))
        ⟨front ++ ['/'], none, none⟩ := by
  have slashed : ∀ c ∈ front ++ ['/'], c ≠ '?' ∧ c ≠ '#' :=
    List.forall_mem_append.mpr ⟨free, List.forall_mem_singleton.mpr (by decide)⟩
  rw [onHost, Tail.of_of_free slashed]

/-- An address on the web asks nothing and has no fragment just where there is no sign of it behind
its host. -/
theorem onHost_free_iff : (∀ c ∈ front, c ≠ '?' ∧ c ≠ '#') ↔
    (onHost scheme credentials host port (front ++ ['/'])).query = none ∧
      (onHost scheme credentials host port (front ++ ['/'])).fragment = none := by
  constructor
  · intro free
    rw [onHost_of_free free]
    exact ⟨rfl, rfl⟩
  · rintro ⟨query, fragment⟩
    have noSign : '#' ∉ front := by
      intro within
      have some := Tail.of_fragment_isSome (List.mem_append_left ['/'] within)
      rw [Option.map_eq_none_iff.mp fragment] at some
      cases some
    have noMark : '?' ∉ front := by
      intro within
      have some := Tail.of_query_isSome noSign within ['/']
      rw [Option.map_eq_none_iff.mp query] at some
      cases some
    exact fun c within => ⟨fun same => noMark (same ▸ within), fun same => noSign (same ▸ within)⟩

end OnHost

end CommandBridge.Url
