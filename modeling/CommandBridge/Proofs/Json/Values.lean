import CommandBridge.Proofs.Json.Numbers
import CommandBridge.Proofs.Json.ReadBack
import CommandBridge.Proofs.Json.Strings

/-! Values as they are read, against the grammar: what is read from the front of a text is spelled
there behind blanks, and every text that spells a value is read as it, whatever stands behind,
unless that goes on a number. -/
namespace CommandBridge.Json

section Blanks
variable {before bytes : Bytes}

theorem skipBlanks_sound (bytes : Bytes) :
    ∃ before, Blanks before ∧ bytes = before ++ skipBlanks bytes :=
  ⟨bytes.takeWhile isBlank, fun _ within => List.mem_takeWhile_imp within,
    List.takeWhile_append_dropWhile.symm⟩

theorem Blanks.append {after : Bytes} (blank : Blanks before) (blank' : Blanks after) :
    Blanks (before ++ after) := by
  intro b within
  exact (List.mem_append.mp within).elim (blank b) (blank' b)

theorem Blanks.skip_append (blank : Blanks before) (bytes : Bytes) :
    skipBlanks (before ++ bytes) = skipBlanks bytes :=
  List.dropWhile_append_of_pos blank

theorem Blanks.skip_cons (blank : Blanks before) {b : UInt8} (nonBlank : isBlank b = false)
    (rest : Bytes) :
    skipBlanks (before ++ b :: rest) = b :: rest := by
  rw [blank.skip_append, skipBlanks_cons nonBlank]

theorem Blanks.skip_eq_nil (blank : Blanks before) : skipBlanks before = [] :=
  List.dropWhile_eq_nil_iff.mpr blank

theorem goesOn_of_isBlank {b : UInt8} (blank : isBlank b = true) : goesOn b = false := by
  simp only [isBlank, Bool.or_eq_true, decide_eq_true_eq] at blank
  rcases blank with ((rfl | rfl) | rfl) | rfl <;> decide

theorem Blanks.endsNumber (blank : Blanks before) {b : UInt8} (other : goesOn b = false)
    (rest : Bytes) :
    EndsNumber (before ++ b :: rest) := by
  cases before with
  | nil => exact endsNumber_cons other rest
  | cons c before => exact endsNumber_cons (goesOn_of_isBlank (blank c List.mem_cons_self)) _

theorem Blanks.endsNumber_self (blank : Blanks before) : EndsNumber before := by
  cases before with
  | nil => exact endsNumber_nil
  | cons c before => exact endsNumber_cons (goesOn_of_isBlank (blank c List.mem_cons_self)) before

theorem readColon_sound {rest : Bytes} (read : readColon bytes = .ok rest) :
    ∃ before, Blanks before ∧ bytes = before ++ Octet.colon :: rest := by
  obtain ⟨before, blank, parts⟩ := skipBlanks_sound bytes
  unfold readColon at read
  split at read
  · cases read
  · rename_i b behind front
    split at read
    · cases read
      subst ‹b = Octet.colon›
      exact ⟨before, blank, by rw [← front]; exact parts⟩
    · cases read

theorem Blanks.readColon_eq (blank : Blanks before) (rest : Bytes) :
    readColon (before ++ Octet.colon :: rest) = .ok rest := by
  rw [readColon, blank.skip_cons (by decide)]
  rfl

end Blanks

theorem readWord_eq_ok_iff {word bytes rest : Bytes} :
    readWord word bytes = .ok rest ↔ bytes = word ++ rest := by
  induction word generalizing bytes with
  | nil => exact Except.ok.injEq bytes rest ▸ Iff.rfl
  | cons w word ih =>
      cases bytes with
      | nil => exact ⟨nofun, nofun⟩
      | cons b bytes =>
          rw [readWord]
          split
          · subst ‹b = w›
            rw [ih, List.cons_append, List.cons.injEq]
            exact (and_iff_right rfl).symm
          · rename_i other
            refine ⟨nofun, fun same => ?_⟩
            exact absurd (List.cons.inj same).1 other

section Scalars
variable {b : UInt8} {bytes rest : Bytes} {v : Json}

theorem readScalar_sound (read : readScalar b bytes = .ok (v, rest)) :
    ∃ text, b :: bytes = text ++ rest ∧ SpellsScalar text v := by
  unfold readScalar at read
  split at read
  · subst ‹b = Octet.quote›
    obtain ⟨⟨s, _⟩, found, same⟩ := bind_ok read
    cases same
    obtain ⟨body, rfl, undone⟩ := readString_eq_ok_iff.mp found
    exact ⟨_, by simp, .string ⟨body, rfl, undone⟩⟩
  split at read
  · subst ‹b = Octet.minus›
    obtain ⟨⟨n, _⟩, found, same⟩ := bind_ok read
    cases same
    obtain ⟨text, numeral, rfl, spells, bounded, value⟩ := readNumber_sound found
    exact ⟨Octet.minus :: text, rfl, .number ⟨true, text, numeral, rfl, spells, bounded, value⟩⟩
  split at read
  · obtain ⟨⟨n, _⟩, found, same⟩ := bind_ok read
    cases same
    obtain ⟨text, numeral, parts, spells, bounded, value⟩ := readNumber_sound found
    exact ⟨text, parts, .number ⟨false, text, numeral, rfl, spells, bounded, value⟩⟩
  split at read
  · subst ‹b = Octet.smallN›
    obtain ⟨_, found, same⟩ := bind_ok read
    cases same
    exact ⟨_, congrArg _ (readWord_eq_ok_iff.mp found), .null⟩
  split at read
  · subst ‹b = Octet.smallT›
    obtain ⟨_, found, same⟩ := bind_ok read
    cases same
    exact ⟨_, congrArg _ (readWord_eq_ok_iff.mp found), .true⟩
  split at read
  · subst ‹b = Octet.smallF›
    obtain ⟨_, found, same⟩ := bind_ok read
    cases same
    exact ⟨_, congrArg _ (readWord_eq_ok_iff.mp found), .false⟩
  · cases read

/-- An octet that a value may begin with which is neither array nor object. -/
def BeginsScalar (b : UInt8) : Prop :=
  isBlank b = false ∧ b ≠ Octet.openBracket ∧ b ≠ Octet.openBrace ∧ b ≠ Octet.closeBracket

instance (b : UInt8) : Decidable (BeginsScalar b) := inferInstanceAs (Decidable (_ ∧ _ ∧ _ ∧ _))

theorem beginsScalar_of_isDigit (digit : Octet.isDigit b = true) : BeginsScalar b :=
  ⟨isBlank_of_isDigit digit, ne_of_isDigit digit (by decide), ne_of_isDigit digit (by decide),
    ne_of_isDigit digit (by decide)⟩

theorem SpellsNumeral.head {negative : Bool} {text : Bytes} {numeral : Numeral}
    (spells : SpellsNumeral negative text numeral) :
    ∃ b tail, text = b :: tail ∧ Octet.isDigit b = true := by
  cases spells with
  | parts some _ _ _ =>
      obtain ⟨b, tail, rfl⟩ := List.exists_cons_of_ne_nil some.1
      exact ⟨b, _, rfl, some.2 b List.mem_cons_self⟩

theorem SpellsScalar.read_eq {text : Bytes} (spells : SpellsScalar text v) :
    ∃ b tail, text = b :: tail ∧
    BeginsScalar b ∧ ∀ rest, EndsNumber rest → readScalar b (tail ++ rest) = .ok (v, rest) := by
  cases spells with
  | null => exact ⟨_, _, rfl, by decide, fun _ _ => rfl⟩
  | true => exact ⟨_, _, rfl, by decide, fun _ _ => rfl⟩
  | false => exact ⟨_, _, rfl, by decide, fun _ _ => rfl⟩
  | @string _ s spells =>
      obtain ⟨body, rfl, undone⟩ := spells
      refine ⟨_, _, rfl, by decide, fun rest _ => ?_⟩
      have read : readString (body ++ Octet.quote :: rest) = .ok (s, rest) :=
        readString_eq_ok_iff.mpr ⟨body, rfl, undone⟩
      rw [readScalar, if_pos rfl, List.append_assoc, List.singleton_append, read]
      rfl
  | number spells =>
      obtain ⟨negative, unsigned, numeral, rfl, spells, bounded, value⟩ := spells
      cases negative with
      | true =>
          refine ⟨_, _, rfl, by decide, fun rest ends => ?_⟩
          rw [readScalar, if_neg (by decide), if_pos rfl]
          change (readNumber Bool.true (unsigned ++ rest) >>= _) = _
          rw [spells.readNumber_eq bounded value ends]
          rfl
      | false =>
          obtain ⟨b, tail, rfl, digit⟩ := spells.head
          refine ⟨b, tail, rfl, beginsScalar_of_isDigit digit, fun rest ends => ?_⟩
          have read := spells.readNumber_eq bounded value ends
          rw [List.cons_append] at read
          rw [readScalar, if_neg (ne_of_isDigit digit (by decide)),
            if_neg (ne_of_isDigit digit (by decide)), if_pos digit, read]
          rfl

end Scalars

section Enclosed
variable {α : Type} {closer : UInt8} {piece : α → Bytes → Prop}

theorem Following.imp {piece' : α → Bytes → Prop} {later : Bytes} {as : List α} {size : Nat}
    (same : ∀ a text, piece a text → text.length ≤ size → piece' a text)
    (fits : later.length ≤ size) (following : Following closer piece as later) :
    Following closer piece' as later := by
  induction following with
  | close before => exact .close before
  | more before between one _ ih =>
      simp only [List.length_append, List.length_cons] at fits
      exact .more before between (same _ _ one (by omega)) (ih (by omega))

theorem Enclosed.imp {piece' : α → Bytes → Prop} {inside : Bytes} {as : List α} {size : Nat}
    (same : ∀ a text, piece a text → text.length ≤ size → piece' a text)
    (fits : inside.length ≤ size) (enclosed : Enclosed closer piece as inside) :
    Enclosed closer piece' as inside := by
  cases enclosed with
  | empty before => exact .empty before
  | full before one following =>
      simp only [List.length_append] at fits
      exact .full before (same _ _ one (by omega)) (following.imp same (by omega))

theorem Following.length_lt {later : Bytes} {as : List α}
    (following : Following closer piece as later) :
    as.length < later.length := by
  induction following with
  | close before => simp
  | more before between one _ ih =>
      simp only [List.length_append, List.length_cons]
      omega

theorem Enclosed.length_le {inside : Bytes} {as : List α}
    (enclosed : Enclosed closer piece as inside) :
    as.length ≤ inside.length := by
  cases enclosed with
  | empty before => exact Nat.zero_le _
  | full before one following =>
      have less := following.length_lt
      simp only [List.length_append, List.length_cons]
      omega

theorem Following.endsNumber {later : Bytes} {as : List α}
    (following : Following closer piece as later) (other : goesOn closer = false) (rest : Bytes) :
    EndsNumber (later ++ rest) := by
  cases following with
  | close before =>
      rw [List.append_assoc]
      exact before.endsNumber other rest
  | more before between one following =>
      rw [List.append_assoc, List.cons_append]
      exact before.endsNumber (by decide) _

/-- A reader of which what it reads is a piece behind blanks. -/
def Finds (reader : Bytes → Except ReadError (α × Bytes)) (piece : α → Bytes → Prop) : Prop :=
  ∀ bytes a rest, reader bytes = .ok (a, rest) →
    ∃ before text, Blanks before ∧ bytes = before ++ (text ++ rest) ∧ piece a text

section Items
variable {item : Bytes → Except ReadError (α × Bytes)} {bytes rest : Bytes} {bound : Nat}

theorem readItems_sound (finds : Finds item piece) {found items : List α}
    (read : readItems item bound found bytes = .ok (items, rest)) :
    ∃ before text later a as, Blanks before ∧ bytes = before ++ (text ++ (later ++ rest)) ∧
      items = found.reverse ++ a :: as ∧ piece a text ∧
      Following Octet.closeBracket piece as later := by
  induction bound generalizing found bytes with
  | zero => cases read
  | succ bound ih =>
      rw [readItems] at read
      obtain ⟨⟨a, behind⟩, first, goes⟩ := bind_ok read
      obtain ⟨before, text, blank, rfl, one⟩ := finds _ _ _ first
      obtain ⟨between, blank', parts⟩ := skipBlanks_sound behind
      dsimp only at goes
      split at goes
      · cases goes
      rename_i b behind' front
      rw [front] at parts
      split at goes
      · cases goes
        subst ‹b = Octet.closeBracket›
        exact ⟨before, text, _, a, [],
          blank, by rw [parts, List.append_cons], by simp, one, .close blank'⟩
      split at goes
      · subst ‹b = Octet.comma›
        obtain ⟨between', blank'', parts'⟩ := skipBlanks_sound behind'
        split at goes
        · cases goes
        rename_i c tail front'
        rw [front'] at parts'
        split at goes
        · cases goes
        · obtain ⟨before', text', later, a', as, blank''', parts'', rfl, one', following⟩ := ih goes
          rw [parts''] at parts'
          refine ⟨before, text, _, a, a' :: as, blank, ?_, by simp, one,
            .more blank' (blank''.append blank''') one' following⟩
          rw [parts, parts']
          simp
      · cases goes

theorem readArray_sound (finds : Finds item piece) {items : List α}
    (read : readArray item bound bytes = .ok (items, rest)) :
    ∃ inside, bytes = inside ++ rest ∧ Enclosed Octet.closeBracket piece items inside := by
  obtain ⟨before, blank, parts⟩ := skipBlanks_sound bytes
  unfold readArray at read
  split at read
  · cases read
  rename_i b behind front
  rw [front] at parts
  split at read
  · cases read
    subst ‹b = Octet.closeBracket›
    exact ⟨_, by rw [parts, List.append_cons], .empty blank⟩
  · obtain ⟨before', text, later, a, as, blank', parts', rfl, one, following⟩ :=
      readItems_sound finds read
    rw [parts'] at parts
    exact ⟨_, by rw [parts]; simp, .full (blank.append blank') one following⟩

theorem Following.readItems_eq {later : Bytes} {as : List α}
    (following : Following Octet.closeBracket (fun a text => Begins text ∧
      Gets item text a) as later)
    {a : α} (first : item bytes = .ok (a, later ++ rest)) (enough : as.length < bound)
    (found : List α) :
    readItems item bound found bytes = .ok (found.reverse ++ a :: as, rest) := by
  obtain ⟨bound, rfl⟩ : ∃ n, bound = n + 1 := ⟨bound - 1, by omega⟩
  induction following generalizing a bytes bound found with
  | close before =>
      rw [List.append_assoc] at first
      rw [readItems, first]
      simp only [bind, Except.bind, List.singleton_append, before.skip_cons
        (b := Octet.closeBracket) (by decide), if_true, List.reverse_cons]
  | @more before between text later a' as blank blank' one following ih =>
      obtain ⟨begins, gets⟩ := one
      obtain ⟨bound, rfl⟩ : ∃ n, bound = n + 1 :=
      ⟨bound - 1, by rw [List.length_cons] at enough; omega⟩
      have next := gets (later ++ rest) (following.endsNumber (by decide) rest)
      obtain ⟨c, tail, front, nonBlank, noEnd⟩ := begins.append (later ++ rest)
      have goes := ih next (a :: found) bound (by simpa using enough)
      have noBracket : Octet.comma ≠ Octet.closeBracket := by decide
      rw [List.append_assoc, List.cons_append, List.append_assoc, List.append_assoc] at first
      rw [front] at first goes
      rw [readItems, first]
      simp only [bind, Except.bind, blank.skip_cons (b := Octet.comma) (by decide),
        blank'.skip_cons nonBlank, if_neg noBracket, if_neg noEnd, if_true, goes, List.reverse_cons,
        List.append_assoc, List.singleton_append]

theorem Enclosed.readArray_eq {inside : Bytes} {items : List α}
    (enclosed : Enclosed Octet.closeBracket (fun a text => Begins text ∧
      Gets item text a) items inside)
    (enough : inside.length ≤ bound) (rest : Bytes) :
    readArray item bound (inside ++ rest) = .ok (items, rest) := by
  have fits := enclosed.length_le
  cases enclosed with
  | empty before =>
      rw [readArray, List.append_assoc, List.singleton_append, before.skip_cons (by decide)]
      rfl
  | full before one following =>
      obtain ⟨begins, gets⟩ := one
      rename_i text later a as
      have first := gets (later ++ rest) (following.endsNumber (by decide) rest)
      have enough' : as.length < bound := fits.trans enough
      have read := following.readItems_eq first enough' []
      obtain ⟨b, tail, front, nonBlank, noEnd⟩ := begins.append (later ++ rest)
      rw [front] at read
      rw [readArray, List.append_assoc, List.append_assoc, front, before.skip_cons nonBlank]
      simpa only [if_neg noEnd, List.reverse_nil, List.nil_append] using read

end Items

end Enclosed

section Members
variable {σ : Type}

/-- What is kept changes with one member after the other. -/
inductive Runs (step : σ → String × Bytes → σ → Prop) : σ → List (String × Bytes) → σ → Prop
  | nil {kept} : Runs step kept [] kept
  | cons {kept kept' all m members} : step kept m kept' → Runs step kept' members all →
      Runs step kept (m :: members) all

theorem runs_nil_iff {step : σ → String × Bytes → σ → Prop} {kept all : σ} :
    Runs step kept [] all ↔ kept = all := by
  constructor
  · intro runs
    cases runs
    rfl
  · rintro rfl
    exact .nil

theorem runs_cons_iff {step : σ → String × Bytes → σ → Prop} {kept all : σ} {m : String × Bytes}
    {members : List (String × Bytes)} :
    Runs step kept (m :: members) all ↔ ∃ kept', step kept m kept' ∧
    Runs step kept' members all := by
  constructor
  · intro runs
    cases runs with
    | cons now later => exact ⟨_, now, later⟩
  · rintro ⟨_, now, later⟩
    exact .cons now later

theorem MemberText.length_le {m : String × Bytes} {text : Bytes} (member : MemberText m text) :
    m.2.length ≤ text.length := by
  obtain ⟨key, value, -, assigned, rfl⟩ := member
  cases assigned with
  | colon _ _ =>
      simp only [List.length_append, List.length_cons]
      omega

variable {member : σ → String → Bytes → Except ReadError (σ × Bytes)}
  {step : σ → String × Bytes → σ → Prop} {kept all : σ} {bytes rest : Bytes} {bound : Nat}

/-- A reader of members that changes what is kept by the text of the member's value. -/
def Takes (member : σ → String → Bytes → Except ReadError (σ × Bytes))
    (step : σ → String × Bytes → σ → Prop) : Prop :=
  ∀ kept key bytes kept' rest, member kept key bytes = .ok (kept', rest) →
    ∃ text value, Assigned text value ∧ bytes = value ++ rest ∧ step kept (key, text) kept'

theorem readMembers_sound (takes : Takes member step)
    (read : readMembers member bound kept bytes = .ok (all, rest)) :
    ∃ text later m members, Octet.quote :: bytes = text ++ (later ++ rest) ∧ MemberText m text ∧
      Following Octet.closeBrace MemberText members later ∧ Runs step kept (m :: members) all := by
  induction bound generalizing kept bytes with
  | zero => cases read
  | succ bound ih =>
      rw [readMembers] at read
      obtain ⟨⟨key, behind⟩, first, later⟩ := bind_ok read
      obtain ⟨⟨kept', behind'⟩, put, goes⟩ := bind_ok later
      obtain ⟨body, rfl, undone⟩ := readString_eq_ok_iff.mp first
      obtain ⟨text, value, assigned, same, now⟩ := takes _ _ _ _ _ put
      have one : MemberText (key, text) (Octet.quote :: (body ++ [Octet.quote]) ++ value) :=
        ⟨_, value, ⟨body, rfl, undone⟩, assigned, rfl⟩
      obtain ⟨before, blank, parts⟩ := skipBlanks_sound behind'
      dsimp only at goes
      split at goes
      · cases goes
      rename_i b tail front
      rw [front] at parts
      split at goes
      · cases goes
        subst ‹b = Octet.closeBrace›
        exact ⟨_, _, _, [], by rw [same, parts]; simp, one, .close blank, .cons now .nil⟩
      split at goes
      · subst ‹b = Octet.comma›
        obtain ⟨between, blank', parts'⟩ := skipBlanks_sound tail
        split at goes
        · cases goes
        rename_i c tail' front'
        rw [front'] at parts'
        split at goes
        · subst ‹c = Octet.quote›
          obtain ⟨text', later, m, members, parts'', one', following, runs⟩ := ih goes
          rw [parts''] at parts'
          refine ⟨_, _, _, m :: members, ?_, one, .more blank blank' one' following, .cons now runs⟩
          rw [same, parts, parts']
          simp
        split at goes <;> cases goes
      · cases goes

theorem readObject_sound (takes : Takes member step)
    (read : readObject member bound kept bytes = .ok (all, rest)) :
    ∃ members inside, bytes = inside ++ rest ∧ Enclosed Octet.closeBrace MemberText members inside ∧
      Runs step kept members all := by
  obtain ⟨before, blank, parts⟩ := skipBlanks_sound bytes
  unfold readObject at read
  split at read
  · cases read
  rename_i b behind front
  rw [front] at parts
  split at read
  · cases read
    subst ‹b = Octet.closeBrace›
    exact ⟨[], _, by rw [parts, List.append_cons], .empty blank, .nil⟩
  split at read
  · subst ‹b = Octet.quote›
    obtain ⟨text, later, m, members, parts', one, following, runs⟩ := readMembers_sound takes read
    rw [parts'] at parts
    exact ⟨m :: members, _, by rw [parts]; simp, .full blank one following, runs⟩
  · cases read

def IsTaken (member : σ → String → Bytes → Except ReadError (σ × Bytes))
    (step : σ → String × Bytes → σ → Prop) (m : String × Bytes) : Prop :=
  ∀ kept kept' value, step kept m kept' → Assigned m.2 value → Gets (member kept m.1) value kept'

theorem Following.readMembers_eq {later : Bytes} {members : List (String × Bytes)}
    (following : Following Octet.closeBrace (fun m text => MemberText m text ∧
      IsTaken member step m) members later)
    {m : String × Bytes} {text : Bytes} (first : MemberText m text) (taken : IsTaken member step m)
    (runs : Runs step kept (m :: members) all) (enough : members.length < bound) (rest : Bytes) :
    ∃ tail, text = Octet.quote :: tail ∧ readMembers member bound kept (tail ++ (later ++ rest)) =
      .ok (all, rest) := by
  obtain ⟨bound, rfl⟩ : ∃ n, bound = n + 1 := ⟨bound - 1, by omega⟩
  induction following generalizing kept m text bound with
  | @close before blank =>
      obtain ⟨_, value, ⟨body, rfl, undone⟩, assigned, rfl⟩ := first
      cases runs with
      | cons now runs =>
          cases runs with
          | nil =>
              have read : readString
                  (body ++ Octet.quote :: (value ++ (before ++ Octet.closeBrace :: rest))) =
                    .ok (m.1, value ++ (before ++ Octet.closeBrace :: rest)) :=
                readString_eq_ok_iff.mpr ⟨body, rfl, undone⟩
              have gets := taken _ _ _ now assigned _
                (blank.endsNumber (b := Octet.closeBrace) (by decide) rest)
              refine ⟨body ++ Octet.quote :: value, by simp, ?_⟩
              simp only [List.append_assoc, List.cons_append, List.nil_append, readMembers, read,
                gets, bind, Except.bind, blank.skip_cons (b := Octet.closeBrace) (by decide),
                if_true]
  | @more before between text' later m' members blank blank' one following ih =>
      obtain ⟨_, value, ⟨body, rfl, undone⟩, assigned, rfl⟩ := first
      obtain ⟨bound, rfl⟩ : ∃ n, bound = n + 1 :=
        ⟨bound - 1, by rw [List.length_cons] at enough; omega⟩
      cases runs with
      | cons now runs =>
          obtain ⟨tail, rfl, goes⟩ := ih one.1 one.2 runs bound (by simpa using enough)
          have read : readString (body ++ Octet.quote :: (value ++ (before ++ Octet.comma ::
              (between ++ Octet.quote :: (tail ++ (later ++ rest)))))) =
                .ok (m.1, value ++ (before ++ Octet.comma ::
                  (between ++ Octet.quote :: (tail ++ (later ++ rest))))) :=
            readString_eq_ok_iff.mpr ⟨body, rfl, undone⟩
          have gets := taken _ _ _ now assigned _ (blank.endsNumber (b := Octet.comma) (by decide)
            (between ++ Octet.quote :: (tail ++ (later ++ rest))))
          have noBrace : Octet.comma ≠ Octet.closeBrace := by decide
          refine ⟨body ++ Octet.quote :: value, by simp, ?_⟩
          rw [readMembers]
          simp only [List.append_assoc, List.cons_append, read, gets, bind, Except.bind,
            blank.skip_cons (b := Octet.comma) (by decide), blank'.skip_cons (b := Octet.quote)
            (by decide), if_neg noBrace, if_true, goes]

theorem Enclosed.readObject_eq {inside : Bytes} {members : List (String × Bytes)}
    (enclosed : Enclosed Octet.closeBrace MemberText members inside)
    (taken : ∀ m : String × Bytes, m.2.length ≤ inside.length → IsTaken member step m)
    (runs : Runs step kept members all) (enough : inside.length ≤ bound) (rest : Bytes) :
    readObject member bound kept (inside ++ rest) = .ok (all, rest) := by
  have fits := enclosed.length_le
  have each : ∀ m text, MemberText m text → text.length ≤ inside.length → MemberText m text ∧
      IsTaken member step m :=
    fun m text one short => ⟨one, taken m (one.length_le.trans short)⟩
  have reads := enclosed.imp each (Nat.le_refl _)
  cases reads with
  | empty blank =>
      cases runs with
      | nil =>
          rw [readObject, List.append_assoc, List.singleton_append, blank.skip_cons (by decide)]
          rfl
  | @full before text later m members blank one following =>
      have enough' : members.length < bound := fits.trans enough
      obtain ⟨tail, rfl, read⟩ := following.readMembers_eq one.1 one.2 runs enough' rest
      have noBrace : Octet.quote ≠ Octet.closeBrace := by decide
      rw [readObject, List.append_assoc, List.append_assoc, List.cons_append,
        blank.skip_cons (by decide)]
      simp only [if_neg noBrace, if_true, read]

end Members

def Puts (depth : Nat) (members : List (String × Json)) (m : String × Bytes)
    (members' : List (String × Json)) : Prop :=
  ∃ v, Spells depth m.2 v ∧ members' = insert m.1 v members

theorem runs_puts_iff {depth : Nat} {texts : List (String × Bytes)}
    {kept all : List (String × Json)} :
    Runs (Puts depth) kept texts all ↔ ∃ members,
      List.Forall₂ (fun (text : String × Bytes) (member : String × Json) =>
        text.1 = member.1 ∧ Spells depth text.2 member.2) texts members ∧
        all = members.foldl (fun sorted (m : String × Json) => insert m.1 m.2 sorted) kept := by
  constructor
  · intro runs
    induction runs with
    | nil => exact ⟨[], .nil, rfl⟩
    | @cons kept _ _ m _ now _ ih =>
        obtain ⟨v, spells, rfl⟩ := now
        obtain ⟨members, each, rfl⟩ := ih
        exact ⟨(m.1, v) :: members, .cons ⟨rfl, spells⟩ each, rfl⟩
  · rintro ⟨members, each, rfl⟩
    induction each generalizing kept with
    | nil => exact .nil
    | cons one _ ih => exact .cons ⟨_, one.2, by rw [one.1]⟩ ih

section Values
variable {bound depth : Nat} {bytes rest : Bytes} {v : Json}

theorem Spells.of_scalar {text : Bytes} (spells : SpellsScalar text v) : Spells depth text v := by
  cases depth with
  | zero => exact spells
  | succ depth => exact .inl spells

theorem takes_readMember (finds : Finds (readValue bound depth) fun v text => Spells depth text v) :
    Takes (readMember bound depth) (Puts depth) := by
  intro kept key bytes kept' rest read
  obtain ⟨behind, colon, goes⟩ := bind_ok read
  obtain ⟨before, blank, rfl⟩ := readColon_sound colon
  obtain ⟨⟨v, behind'⟩, value, same⟩ := bind_ok goes
  cases same
  obtain ⟨between, text, blank', rfl, spells⟩ := finds _ _ _ value
  exact ⟨text, _, .colon blank blank', by simp, v, spells, rfl⟩

/-- What is read of a text is spelled there, behind blanks. -/
theorem readValue_finds (bound depth : Nat) :
    Finds (readValue bound depth) fun v text => Spells depth text v := by
  induction depth with
  | zero =>
      intro bytes v rest read
      obtain ⟨before, blank, parts⟩ := skipBlanks_sound bytes
      unfold readValue at read
      split at read
      · cases read
      rename_i b behind front
      rw [front] at parts
      split at read
      · cases read
      split at read
      · cases read
      · obtain ⟨text, parts', spells⟩ := readScalar_sound read
        exact ⟨before, text, blank, by rw [parts, parts'], spells⟩
  | succ depth ih =>
      intro bytes v rest read
      obtain ⟨before, blank, parts⟩ := skipBlanks_sound bytes
      unfold readValue at read
      split at read
      · cases read
      rename_i b behind front
      rw [front] at parts
      split at read
      · subst ‹b = Octet.openBracket›
        obtain ⟨⟨items, behind'⟩, array, same⟩ := bind_ok read
        cases same
        obtain ⟨inside, rfl, enclosed⟩ := readArray_sound ih array
        exact ⟨before, _, blank, parts, .inr (.inl ⟨items, inside, rfl, rfl, enclosed⟩)⟩
      split at read
      · subst ‹b = Octet.openBrace›
        obtain ⟨⟨members, behind'⟩, object, same⟩ := bind_ok read
        cases same
        have object : readObject (readMember bound depth) bound [] behind = .ok (members, rest) :=
          object
        obtain ⟨texts, inside, rfl, enclosed, runs⟩ := readObject_sound (takes_readMember ih) object
        obtain ⟨members, each, rfl⟩ := runs_puts_iff.mp runs
        exact ⟨before, _, blank, parts,
          .inr (.inr ⟨texts, members, inside, rfl, rfl, enclosed, each⟩)⟩
      · obtain ⟨text, parts', spells⟩ := readScalar_sound read
        exact ⟨before, text, blank, by rw [parts, parts'], .of_scalar spells⟩

theorem Blanks.readValue_eq {before : Bytes} (blank : Blanks before) (bytes : Bytes) :
    readValue bound depth (before ++ bytes) = readValue bound depth bytes := by
  rw [readValue.eq_def bound depth (before ++ bytes), readValue.eq_def bound depth bytes]
  dsimp only
  rw [blank.skip_append]

theorem isTaken_readMember {m : String × Bytes}
    (gets : ∀ v, Spells depth m.2 v → Gets (readValue bound depth) m.2 v) :
    IsTaken (readMember bound depth) (Puts depth) m := by
  rintro kept kept' value ⟨v, spells, rfl⟩ assigned rest ends
  cases assigned with
  | @colon before between blank blank' =>
      rw [List.append_assoc, List.cons_append, List.append_assoc, readMember, blank.readColon_eq]
      simp only [bind, Except.bind, blank'.readValue_eq, gets v spells rest ends]

/-- A text that spells a value begins like one, and is read as the value. -/
theorem Spells.readValue_eq {text : Bytes} (spells : Spells depth text v)
    (enough : text.length ≤ bound) :
    Begins text ∧ Gets (readValue bound depth) text v := by
  have scalar : ∀ depth text v, SpellsScalar text v → Begins text ∧
      Gets (readValue bound depth) text v := by
    intro depth text v spells
    obtain ⟨b, tail, rfl, ⟨nonBlank, noBracket, noBrace, noEnd⟩, read⟩ := spells.read_eq
    refine ⟨begins_cons ⟨nonBlank, noEnd⟩, fun rest ends => ?_⟩
    rw [List.cons_append, readValue_scalar nonBlank noBracket noBrace, read rest ends]
  induction depth generalizing text v with
  | zero => exact scalar 0 text v spells
  | succ depth ih =>
      rcases spells with
        spells | ⟨items, inside, rfl, rfl, enclosed⟩ |
          ⟨texts, members, inside, rfl, rfl, enclosed, each⟩
      · exact scalar _ text v spells
      · refine ⟨begins_cons (by decide), fun rest _ => ?_⟩
        have fits : inside.length ≤ bound := Nat.le_of_succ_le enough
        have pieces := enclosed.imp (fun v text spells short => ih spells (short.trans fits))
          (Nat.le_refl _)
        have reads := pieces.readArray_eq fits rest
        rw [List.cons_append, readValue, skipBlanks_cons (by decide)]
        simp only [if_true, reads]
        rfl
      · refine ⟨begins_cons (by decide), fun rest _ => ?_⟩
        have fits : inside.length ≤ bound := Nat.le_of_succ_le enough
        have taken : ∀ m : String × Bytes, m.2.length ≤ inside.length →
            IsTaken (readMember bound depth) (Puts depth) m :=
          fun m short => isTaken_readMember fun v spells => (ih spells (short.trans fits)).2
        have runs :
            Runs (Puts depth) [] texts (members.foldl (fun sorted m => insert m.1 m.2 sorted) []) :=
          runs_puts_iff.mpr ⟨members, each, rfl⟩
        have reads := enclosed.readObject_eq taken runs fits rest
        have noBracket : Octet.openBrace ≠ Octet.openBracket := by decide
        rw [List.cons_append, readValue, skipBlanks_cons (by decide)]
        simp only [if_neg noBracket, if_true]
        change (readObject (readMember bound depth) bound [] (inside ++ rest) >>= _) = _
        rw [reads]
        rfl

end Values

end CommandBridge.Json
