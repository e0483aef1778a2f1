import CommandBridge.Proofs.Json.Values

/-! Values that are passed over, against the grammar: what is passed over is of the form of a value,
to whatever depth, and every text of that form is passed over, whatever stands behind, unless that
goes on a number. -/
namespace CommandBridge.Json

section Scalars
variable {b : UInt8} {bytes rest : Bytes}

theorem skipScalar_sound (read : skipScalar b bytes = .ok rest) :
    ∃ text, b :: bytes = text ++ rest ∧ PassesScalar text := by
  unfold skipScalar at read
  split at read
  · subst ‹b = Octet.quote›
    obtain ⟨body, rfl, passes⟩ := skipString_eq_ok_iff.mp read
    exact ⟨_, by simp, .string ⟨body, rfl, passes⟩⟩
  split at read
  · subst ‹b = Octet.minus›
    obtain ⟨text, numeral, rfl, spells⟩ := skipNumber_sound Bool.true read
    exact ⟨Octet.minus :: text, rfl, .number spells⟩
  split at read
  · obtain ⟨text, numeral, parts, spells⟩ := skipNumber_sound Bool.false read
    exact ⟨text, parts, .number spells⟩
  split at read
  · subst ‹b = Octet.smallN›
    exact ⟨_, congrArg _ (readWord_eq_ok_iff.mp read), .null⟩
  split at read
  · subst ‹b = Octet.smallT›
    exact ⟨_, congrArg _ (readWord_eq_ok_iff.mp read), .true⟩
  split at read
  · subst ‹b = Octet.smallF›
    exact ⟨_, congrArg _ (readWord_eq_ok_iff.mp read), .false⟩
  · cases read

theorem PassesScalar.skip_eq {text : Bytes} (passes : PassesScalar text) :
    ∃ b tail, text = b :: tail ∧
    BeginsScalar b ∧ ∀ rest, EndsNumber rest → skipScalar b (tail ++ rest) = .ok rest := by
  cases passes with
  | null => exact ⟨_, _, rfl, by decide, fun _ _ => rfl⟩
  | true => exact ⟨_, _, rfl, by decide, fun _ _ => rfl⟩
  | false => exact ⟨_, _, rfl, by decide, fun _ _ => rfl⟩
  | string passes =>
      obtain ⟨body, rfl, passes⟩ := passes
      refine ⟨_, _, rfl, by decide, fun rest _ => ?_⟩
      rw [skipScalar, if_pos rfl, List.append_assoc, List.singleton_append]
      exact passes.skipString_eq rest
  | @number negative unsigned numeral spells =>
      cases negative with
      | true =>
          refine ⟨_, _, rfl, by decide, fun rest ends => ?_⟩
          rw [skipScalar, if_neg (by decide), if_pos rfl]
          exact spells.skip_eq ends
      | false =>
          obtain ⟨b, tail, rfl, digit⟩ := spells.head
          refine ⟨b, tail, rfl, beginsScalar_of_isDigit digit, fun rest ends => ?_⟩
          rw [skipScalar, if_neg (ne_of_isDigit digit (by decide)),
            if_neg (ne_of_isDigit digit (by decide)), if_pos digit]
          exact spells.skip_eq ends

end Scalars

section Keys
variable {opened : Open} {bytes rest : Bytes}

theorem skipKey_sound (read : opened.skipKey bytes = .ok rest) :
    ∃ before key, Blanks before ∧ bytes = before ++ (key ++ rest) ∧ PassesKey opened key := by
  cases opened with
  | array =>
      cases read
      exact ⟨[], [], List.forall_mem_nil _, rfl, .array⟩
  | object =>
      obtain ⟨before, blank, parts⟩ := skipBlanks_sound bytes
      rw [Open.skipKey] at read
      split at read
      · cases read
      rename_i b behind front
      rw [front] at parts
      split at read
      · subst ‹b = Octet.quote›
        obtain ⟨behind', skipped, colon⟩ := bind_ok read
        obtain ⟨body, rfl, passes⟩ := skipString_eq_ok_iff.mp skipped
        obtain ⟨between, blank', rfl⟩ := readColon_sound colon
        exact ⟨before, _, blank, by rw [parts]; simp, .object ⟨body, rfl, passes⟩ blank'⟩
      · cases read

/-- Behind a key blanks may be left; within an array they are those in front of the value. -/
theorem PassesKey.skip_eq {before key : Bytes} (passes : PassesKey opened key)
    (blank : Blanks before) :
    ∃ left, Blanks left ∧ ∀ bytes, opened.skipKey (before ++ (key ++ bytes)) =
      .ok (left ++ bytes) := by
  cases passes with
  | array => exact ⟨before, blank, fun bytes => rfl⟩
  | @object key between passes blank' =>
      obtain ⟨body, rfl, passes⟩ := passes
      refine ⟨[], List.forall_mem_nil _, fun bytes => ?_⟩
      have skips := passes.skipString_eq (between ++ Octet.colon :: bytes)
      simp only [List.append_assoc, List.cons_append, List.nil_append, Open.skipKey,
        blank.skip_cons (b := Octet.quote) (by decide), if_true, skips, bind, Except.bind,
        blank'.readColon_eq]

end Keys

/-- What closes all that is open, from the innermost on. -/
inductive Closes : List Open → Bytes → Prop
  | nil : Closes [] []
  | cons {top opened later behind} : Passes (some top) later → Closes opened behind →
      Closes (top :: opened) (later ++ behind)

/-- What the three ways of passing over take of a text in so many rounds. -/
structure PassesOver (bound : Nat) : Prop where
  inside : ∀ opened bytes rest, skipInside bound opened bytes = .ok rest →
    ∃ before text behind, Blanks before ∧
    bytes = before ++ (text ++ (behind ++ rest)) ∧ Passes none text ∧ Closes opened behind
  opened : ∀ new opened bytes rest, skipOpened bound new opened bytes = .ok rest → ∃ inner behind,
    bytes = inner ++ (behind ++ rest) ∧ Passes none (new.opener :: inner) ∧ Closes opened behind
  behind : ∀ opened bytes rest, skipBehind bound opened bytes = .ok rest → ∃ behind,
    bytes = behind ++ rest ∧ Closes opened behind

section Sound
variable {bound : Nat} {bytes rest : Bytes} {opened : List Open}

theorem skipInside_sound (sound : PassesOver bound)
    (read : skipInside (bound + 1) opened bytes = .ok rest) :
    ∃ before text behind, Blanks before ∧ bytes = before ++ (text ++ (behind ++ rest)) ∧
      Passes none text ∧
      Closes opened behind := by
  obtain ⟨before, blank, parts⟩ := skipBlanks_sound bytes
  rw [skipInside] at read
  split at read
  · cases read
  rename_i b tail front
  rw [front] at parts
  split at read
  · subst ‹b = Octet.openBracket›
    obtain ⟨inner, behind, rfl, passes, closes⟩ := sound.opened _ _ _ _ read
    exact ⟨before, _, behind, blank, parts, passes, closes⟩
  split at read
  · subst ‹b = Octet.openBrace›
    obtain ⟨inner, behind, rfl, passes, closes⟩ := sound.opened _ _ _ _ read
    exact ⟨before, _, behind, blank, parts, passes, closes⟩
  · obtain ⟨tail', skipped, goes⟩ := bind_ok read
    obtain ⟨text, parts', passes⟩ := skipScalar_sound skipped
    obtain ⟨behind, rfl, closes⟩ := sound.behind _ _ _ goes
    exact ⟨before, text, behind, blank, by rw [parts, parts'], .scalar passes, closes⟩

theorem skipOpened_sound (sound : PassesOver bound) {new : Open}
    (read : skipOpened (bound + 1) new opened bytes = .ok rest) :
    ∃ inner behind, bytes = inner ++ (behind ++ rest) ∧ Passes none (new.opener :: inner) ∧
      Closes opened behind := by
  obtain ⟨before, blank, parts⟩ := skipBlanks_sound bytes
  rw [skipOpened] at read
  split at read
  · cases read
  rename_i b tail front
  rw [front] at parts
  split at read
  · subst ‹b = new.closer›
    obtain ⟨behind, rfl, closes⟩ := sound.behind _ _ _ read
    exact ⟨_, behind, by rw [parts, List.append_cons], .empty blank, closes⟩
  · obtain ⟨tail', skipped, goes⟩ := bind_ok read
    obtain ⟨before', key, blank', parts', passesKey⟩ := skipKey_sound skipped
    obtain ⟨between, text, behind, blank'', rfl, passes, closes⟩ := sound.inside _ _ _ goes
    cases closes with
    | @cons _ _ later behind follows closes =>
        have blanks := blank.append blank'
        rw [parts'] at parts
        exact ⟨_,
          behind, by rw [parts]; simp, .full blanks passesKey blank'' passes follows, closes⟩

theorem skipBehind_sound (sound : PassesOver bound)
    (read : skipBehind (bound + 1) opened bytes = .ok rest) :
    ∃ behind, bytes = behind ++ rest ∧ Closes opened behind := by
  cases opened with
  | nil =>
      rw [skipBehind] at read
      cases read
      exact ⟨[], rfl, .nil⟩
  | cons top opened =>
      obtain ⟨before, blank, parts⟩ := skipBlanks_sound bytes
      rw [skipBehind] at read
      split at read
      · cases read
      rename_i b tail front
      rw [front] at parts
      split at read
      · subst ‹b = Octet.comma›
        obtain ⟨tail', skipped, goes⟩ := bind_ok read
        obtain ⟨before', key, blank', parts', passesKey⟩ := skipKey_sound skipped
        obtain ⟨between, text, behind, blank'', rfl, passes, closes⟩ := sound.inside _ _ _ goes
        cases closes with
        | @cons _ _ later behind follows closes =>
            rw [parts'] at parts
            exact ⟨_, by rw [parts]; simp, .cons (.more blank blank' passesKey blank''
              passes follows) closes⟩
      split at read
      · subst ‹b = top.closer›
        obtain ⟨behind, rfl, closes⟩ := sound.behind _ _ _ read
        exact ⟨_, by rw [parts]; simp, .cons (.close blank) closes⟩
      · cases read

theorem passesOver (bound : Nat) : PassesOver bound := by
  -- Each of the three goes on with the other two and one round less, so they hold together.
  induction bound with
  | zero =>
      refine ⟨fun _ _ _ read => ?_, fun _ _ _ _ read => ?_, fun opened bytes rest read => ?_⟩
      · cases read
      · cases read
      · cases opened with
        | nil =>
            rw [skipBehind] at read
            cases read
            exact ⟨[], rfl, .nil⟩
        | cons top opened => cases read
  | succ bound ih =>
      exact ⟨fun _ _ _ => skipInside_sound ih, fun _ _ _ _ => skipOpened_sound ih,
        fun _ _ _ => skipBehind_sound ih⟩

theorem skipValue_sound (read : skipValue bound bytes = .ok rest) :
    ∃ before text, Blanks before ∧ bytes = before ++ (text ++ rest) ∧ Passes none text := by
  obtain ⟨before, text, behind, blank, parts, passes, closes⟩ := (passesOver _).inside _ _ _ read
  cases closes with
  | nil => exact ⟨before, text, blank, parts, passes⟩

end Sound

section Complete
variable {bound : Nat} {bytes rest : Bytes}

theorem Blanks.skipInside_eq {before : Bytes} (blank : Blanks before) (bound : Nat)
    (opened : List Open) (bytes : Bytes) :
    skipInside (bound + 1) opened (before ++ bytes) = skipInside (bound + 1) opened bytes := by
  rw [skipInside, skipInside, blank.skip_append]

def skipFrom : Option Open → Nat → List Open → Bytes → Except ReadError Bytes
  | none, bound, opened, bytes => skipInside bound opened bytes
  | some top, bound, opened, bytes => skipBehind bound (top :: opened) bytes

theorem Passes.begins {text : Bytes} (passes : Passes none text) : Begins text := by
  cases passes with
  | scalar passes =>
      obtain ⟨b, tail, rfl, ⟨nonBlank, -, -, noEnd⟩, -⟩ := passes.skip_eq
      exact begins_cons ⟨nonBlank, noEnd⟩
  | @empty opened => cases opened <;> exact begins_cons (by decide)
  | @full opened => cases opened <;> exact begins_cons (by decide)

theorem skipInside_opener (bound : Nat) (new : Open) (opened : List Open) (bytes : Bytes) :
    skipInside (bound + 1) opened (new.opener :: bytes) = skipOpened bound new opened bytes := by
  cases new with
  | array => rw [skipInside, skipBlanks_cons (by decide)]; rfl
  | object => rw [skipInside, skipBlanks_cons (by decide)]; rfl

theorem Passes.endsNumber {top : Open} {later : Bytes} (follows : Passes (some top) later)
    (rest : Bytes) :
    EndsNumber (later ++ rest) := by
  cases follows with
  | close blank =>
      rw [List.append_assoc]
      exact blank.endsNumber (by cases top <;> decide) rest
  | more blank =>
      rw [List.append_assoc]
      exact blank.endsNumber (by decide) _

theorem PassesKey.skipOpened_eq {new : Open} {before key between text : Bytes}
    (passesKey : PassesKey new key) (blank : Blanks before) (blank' : Blanks between)
    (begins : Begins text) (bound : Nat) (opened : List Open) :
    skipOpened (bound + 2) new opened (before ++ (key ++ (between ++ text))) =
      skipInside (bound + 1) (new :: opened) text := by
  obtain ⟨b, tail, rfl, nonBlank, noEnd⟩ := begins
  cases passesKey with
  | array =>
      rw [skipOpened, blank.skip_append, List.nil_append, blank'.skip_cons nonBlank]
      have noEnd' : ¬ b = Open.array.closer := noEnd
      simp only [if_neg noEnd', Open.skipKey, bind, Except.bind]
  | @object key between' passes blank'' =>
      have none : Blanks [] := List.forall_mem_nil _
      obtain ⟨left, blankLeft, skips⟩ := (PassesKey.object passes blank'').skip_eq none
      have skips := skips (between ++ b :: tail)
      obtain ⟨body, rfl, passes⟩ := passes
      have noBrace : Octet.quote ≠ Octet.closeBrace := by decide
      rw [List.nil_append] at skips
      rw [skipOpened, List.cons_append, List.cons_append, blank.skip_cons (by decide)]
      rw [List.cons_append, List.cons_append] at skips
      simp only [Open.closer, if_neg noBrace, skips, bind, Except.bind, blankLeft.skipInside_eq,
        blank'.skipInside_eq]

/-- A text that passes is passed over in at most two rounds for an octet. -/
theorem Passes.skip_eq {within : Option Open} {text : Bytes} (passes : Passes within text) :
    ∃ cost, cost + 1 ≤ 2 * text.length ∧ ∀ bound opened rest, EndsNumber rest →
      skipFrom within (bound + cost + 1) opened (text ++ rest) = skipBehind bound opened rest := by
  -- The rounds that are left and what is open around the text are the same before and behind it.
  induction passes with
  | scalar passes =>
      obtain ⟨b, tail, rfl, ⟨nonBlank, noBracket, noBrace, -⟩, skips⟩ := passes.skip_eq
      refine ⟨0, by simp only [List.length_cons]; omega, fun bound opened rest ends => ?_⟩
      rw [skipFrom, List.cons_append, skipInside, skipBlanks_cons nonBlank]
      simp only [if_neg noBracket, if_neg noBrace, skips rest ends, bind, Except.bind]
  | @empty new before blank =>
      refine ⟨1, by simp only [List.length_cons]; omega, fun bound opened rest ends => ?_⟩
      rw [skipFrom, List.cons_append, skipInside_opener, skipOpened, List.append_assoc,
        List.singleton_append, blank.skip_cons (by cases new <;> decide)]
      simp only [if_true]
  | @full new before key between text later blank passesKey blank' passes follows ih ih' =>
      obtain ⟨cost, less, skips⟩ := ih
      obtain ⟨cost', less', skips'⟩ := ih'
      refine ⟨cost + cost' + 3, by simp only [List.length_cons, List.length_append]; omega,
        fun bound opened rest ends => ?_⟩
      have inner :=
      skips (bound + cost' + 1) (new :: opened) (later ++ rest) (follows.endsNumber rest)
      have outer := skips' bound opened rest ends
      have opens := passesKey.skipOpened_eq blank blank' (passes.begins.append (later ++ rest))
        (bound + cost' + 1 + cost) opened
      have rounds : bound + (cost + cost' + 3) = bound + cost' + 1 + cost + 2 := by omega
      simp only [skipFrom, List.cons_append, List.append_assoc] at inner outer ⊢
      rw [skipInside_opener, rounds, opens, inner, outer]
  | @close top before blank =>
      refine ⟨0, by simp only [List.length_cons,
        List.length_append]; omega, fun bound opened rest ends => ?_⟩
      rw [skipFrom, List.append_assoc, List.singleton_append, skipBehind,
        blank.skip_cons (by cases top <;> decide)]
      have noComma : top.closer ≠ Octet.comma := by cases top <;> decide
      simp only [if_neg noComma, if_true]
  | @more top before behind key between text later blank blank' passesKey blank''
      passes follows ih ih' =>
      obtain ⟨cost, less, skips⟩ := ih
      obtain ⟨cost', less', skips'⟩ := ih'
      refine ⟨cost + cost' + 2, by simp only [List.length_cons, List.length_append]; omega,
        fun bound opened rest ends => ?_⟩
      have inner :=
      skips (bound + cost' + 1) (top :: opened) (later ++ rest) (follows.endsNumber rest)
      have outer := skips' bound opened rest ends
      obtain ⟨left, blankLeft, keys⟩ := passesKey.skip_eq blank'
      have rounds : bound + (cost + cost' + 2) = bound + cost' + 1 + cost + 1 := by omega
      simp only [skipFrom, List.cons_append, List.append_assoc] at inner outer ⊢
      rw [skipBehind, blank.skip_cons (by decide)]
      simp only [if_true, keys, bind, Except.bind, rounds, blankLeft.skipInside_eq,
        blank''.skipInside_eq, inner, outer]

/-- Every text of the form of a value is passed over, behind blanks. -/
theorem Passes.skipValue_eq {before text : Bytes} (passes : Passes none text)
    (blank : Blanks before) (enough : text.length ≤ bound) (ends : EndsNumber rest) :
    skipValue bound (before ++ (text ++ rest)) = .ok rest := by
  obtain ⟨cost, less, skips⟩ := passes.skip_eq
  have skips := skips (2 * bound + 1 - cost) [] rest ends
  have rounds : 2 * bound + 1 - cost + cost = 2 * bound + 1 := by omega
  rw [skipFrom, rounds] at skips
  rw [skipValue, blank.skipInside_eq, skips, skipBehind]

end Complete

end CommandBridge.Json
