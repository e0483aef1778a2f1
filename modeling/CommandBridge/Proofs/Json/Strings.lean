import CommandBridge.Proofs.Json.Grammar
import CommandBridge.Proofs.Json.NumberText

/-! Strings as they are read and passed over, against the grammar: what is read stands at the front,
and whatever the grammar allows is read. -/
namespace CommandBridge.Json

variable {bytes rest : Bytes}

theorem hexUnit_sound {unit : Nat} (read : hexUnit bytes = .ok unit) :
    ∃ digits rest, bytes = digits ++ rest ∧ SpellsUnit digits unit ∧ digits.length = 4 := by
  unfold hexUnit at read
  split at read
  · rename_i a b c d rest
    split at read
    · rename_i a' b' c' d' first second third fourth
      cases read
      refine ⟨[a, b, c, d], rest, rfl, ⟨a', b', c', d', ?_, rfl⟩, rfl⟩
      simp only [List.map_cons, List.map_nil, first, second, third, fourth]
    · cases read
  · cases read

theorem SpellsUnit.hexUnit_eq {digits : Bytes} {unit : Nat} (spells : SpellsUnit digits unit)
    (rest : Bytes) :
    hexUnit (digits ++ rest) = .ok unit ∧ digits.length = 4 := by
  obtain ⟨a, b, c, d, values, rfl⟩ := spells
  simp only [List.map_eq_cons_iff, List.map_eq_nil_iff] at values
  obtain ⟨a', _, rfl, first, b', _, rfl, second, c', _, rfl, third, d', _, rfl, fourth, rfl⟩ :=
    values
  refine ⟨?_, rfl⟩
  simp only [List.cons_append, List.nil_append, hexUnit, first, second, third, fourth]

theorem trailingUnit_sound {unit : Nat} (read : trailingUnit bytes = .ok unit) :
    ∃ digits rest, bytes = Octet.backslash :: Octet.smallU :: (digits ++ rest) ∧
      SpellsUnit digits unit ∧
      IsTrailing unit ∧ digits.length = 4 := by
  unfold trailingUnit at read
  split at read
  · cases read
  split at read
  · subst ‹_ = Octet.backslash›
    split at read
    · cases read
    split at read
    · subst ‹_ = Octet.smallU›
      obtain ⟨unit', found, read⟩ := bind_ok read
      obtain ⟨digits, rest, rfl, spells, four⟩ := hexUnit_sound found
      split at read
      · rename_i trailing
        cases read
        rw [Bool.and_eq_true, decide_eq_true_eq, decide_eq_true_eq] at trailing
        exact ⟨digits, rest, rfl, spells, trailing, four⟩
      · cases read
    · cases read
  · cases read

theorem plainEscape?_smallU : plainEscape? Octet.smallU = none := by decide

/-- An escape that is read stands at the front. -/
theorem readEscape_sound {c : Char} {used : Nat} (read : readEscape bytes = .ok (c, used)) :
    ∃ esc rest, bytes = esc ++ rest ∧ Escape esc c ∧ esc.length = used := by
  unfold readEscape at read
  split at read
  · cases read
  rename_i b behind
  split at read
  · rename_i plain found
    cases read
    exact ⟨[b], behind, rfl, .sign found, rfl⟩
  split at read
  · subst ‹_ = Octet.smallU›
    obtain ⟨⟨c', used'⟩, found, same⟩ := bind_ok read
    cases same
    unfold unicodeEscape at found
    obtain ⟨unit, first, found⟩ := bind_ok found
    obtain ⟨digits, rest, rfl, spells, four⟩ := hexUnit_sound first
    simp only [Bool.and_eq_true, decide_eq_true_eq] at found
    split at found
    · cases found
    split at found
    · rename_i leading
      obtain ⟨trailing, second, same⟩ := bind_ok found
      rw [Except.ok.injEq, Prod.mk.injEq] at same
      obtain ⟨rfl, rfl⟩ := same
      rw [List.drop_left' four] at second
      obtain ⟨digits', rest', rfl, spells', isTrailing, four'⟩ := trailingUnit_sound second
      refine ⟨_, rest', ?_, .pair spells leading spells' isTrailing, ?_⟩
      · simp
      · simp [four, four']
    · rename_i notTrailing notLeading
      cases found
      exact ⟨_, rest, rfl, .unit spells notLeading notTrailing, by simp [four]⟩
  · cases read

theorem Escape.read_eq {esc : Bytes} {c : Char} (escape : Escape esc c) (rest : Bytes) :
    readEscape (esc ++ rest) = .ok (c, esc.length) := by
  cases escape with
  | sign found => simp only [List.singleton_append, readEscape, found, List.length_singleton]
  | @unit digits unit spells notLeading notTrailing =>
      obtain ⟨read, four⟩ := spells.hexUnit_eq rest
      rw [IsLeading] at notLeading
      rw [IsTrailing] at notTrailing
      simp only [List.cons_append, readEscape, plainEscape?_smallU, if_true, unicodeEscape, read,
        bind, Except.bind, Bool.and_eq_true, decide_eq_true_eq, if_neg notLeading,
        if_neg notTrailing, List.length_cons, four]
  | @pair first second leading trailing spells isLeading spells' isTrailing =>
      obtain ⟨read, four⟩ := spells.hexUnit_eq (Octet.backslash :: Octet.smallU :: (second ++ rest))
      obtain ⟨read', four'⟩ := spells'.hexUnit_eq rest
      have notTrailing : ¬ (0xDC00 ≤ leading ∧ leading ≤ 0xDFFF) := by
        rw [IsLeading] at isLeading
        omega
      rw [IsLeading] at isLeading
      rw [IsTrailing] at isTrailing
      simp only [List.cons_append, List.append_assoc, readEscape, plainEscape?_smallU, if_true,
        unicodeEscape, read, bind, Except.bind, Bool.and_eq_true, decide_eq_true_eq,
        if_neg notTrailing, if_pos isLeading, List.drop_left' four, trailingUnit, read',
        if_pos isTrailing, List.length_cons, List.length_append, four, four']

theorem stringTail_drop {skip : Nat} {found : Bytes} {out : Bytes × Bytes}
    (read : stringTail skip found bytes = .ok out) :
    ∃ skipped, skipped.length = skip ∧ bytes = skipped ++ bytes.drop skip ∧
      stringTail 0 found (bytes.drop skip) = .ok out := by
  induction skip generalizing bytes with
  | zero => exact ⟨[], rfl, rfl, read⟩
  | succ skip ih =>
      cases bytes with
      | nil => cases read
      | cons b bytes =>
          obtain ⟨skipped, length, same, read⟩ := ih read
          exact ⟨b :: skipped, by rw [List.length_cons, length], congrArg (b :: ·) same, read⟩

theorem stringTail_sound {found out : Bytes} (read : stringTail 0 found bytes = .ok (out, rest)) :
    ∃ body inner, bytes = body ++ Octet.quote :: rest ∧ Undone body inner ∧
      out = found.reverse ++ inner := by
  induction size : bytes.length using Nat.strongRecOn generalizing bytes found with
  | ind size ih =>
      subst size
      cases bytes with
      | nil => cases read
      | cons b bytes =>
          rw [stringTail] at read
          split at read
          · cases read
            subst ‹b = Octet.quote›
            exact ⟨[], [], rfl, .nil, (List.append_nil _).symm⟩
          rename_i notQuote
          split at read
          · subst ‹b = Octet.backslash›
            split at read
            · rename_i c used escaped
              obtain ⟨esc, behind, rfl, escape, rfl⟩ := readEscape_sound escaped
              obtain ⟨-, -, -, read⟩ := stringTail_drop read
              rw [List.drop_left] at read
              have shorter : behind.length < (Octet.backslash :: (esc ++ behind)).length := by
                simp only [List.length_cons, List.length_append]
                omega
              obtain ⟨body, inner, rfl, undone, rfl⟩ := ih behind.length shorter read rfl
              exact ⟨_, _, by simp, .escape escape undone, by simp⟩
            · cases read
          rename_i notBackslash
          split at read
          · cases read
          · rename_i high
            obtain ⟨body, inner, rfl, undone, rfl⟩ := ih bytes.length (by simp) read rfl
            exact ⟨_, _, rfl, .plain ⟨notQuote, notBackslash, high⟩ undone, by simp⟩

theorem Undone.stringTail_eq {body inner : Bytes} (undone : Undone body inner)
    (found rest : Bytes) :
    stringTail 0 found (body ++ Octet.quote :: rest) = .ok (found.reverse ++ inner, rest) := by
  induction undone generalizing found with
  | nil => rw [List.nil_append, stringTail, if_pos rfl, List.append_nil]
  | @plain b body out plain undone ih =>
      have each : ∀ b' ∈ [b], IsPlain b' := List.forall_mem_singleton.mpr plain
      have one := stringTail_plain each found (body ++ Octet.quote :: rest)
      rw [List.singleton_append] at one
      rw [List.cons_append, one, ih]
      simp
  | @escape esc c body out escape undone ih =>
      rw [List.cons_append, List.append_assoc, stringTail_backslash esc (escape.read_eq _), ih]
      simp

/-- A string is read from behind its opening quote just where the grammar has it. -/
theorem readString_eq_ok_iff {s : String} : readString bytes = .ok (s, rest) ↔
    ∃ body, bytes = body ++ Octet.quote :: rest ∧ Undone body (octets s) := by
  constructor
  · intro read
    unfold readString at read
    split at read
    · rename_i out behind tail
      split at read
      · rename_i cs decoded
        cases read
        obtain ⟨body, inner, same, undone, rfl⟩ := stringTail_sound tail
        refine ⟨body, same, ?_⟩
        rwa [octets, String.toList_ofList, ← Utf8.decode?_eq_some_iff.mp decoded]
      · cases read
    · cases read
  · rintro ⟨body, rfl, undone⟩
    rw [readString, undone.stringTail_eq]
    simp only [List.reverse_nil, List.nil_append, octets, Utf8.decode?_encode, String.ofList_toList]

theorem skipString_cons (b : UInt8) (bytes : Bytes) : skipString 0 (b :: bytes) =
    if b = Octet.quote then .ok bytes
    else if b = Octet.backslash then
      match bytes with
      | [] => fail .endInString []
      | c :: behind =>
        if (plainEscape? c).isSome then skipString 1 bytes
        else if c = Octet.smallU then
          match hexUnit behind with
          | .ok _ => skipString 5 bytes
          | .error e => .error e
        else fail .badEscape behind
    else if b < 0x20 then fail .controlCharacter (b :: bytes)
    else skipString 0 bytes := by
  rw [skipString.eq_def]
  rfl

theorem skipString_drop {skip : Nat} (read : skipString skip bytes = .ok rest) :
    ∃ skipped, skipped.length = skip ∧ bytes = skipped ++ bytes.drop skip ∧
      skipString 0 (bytes.drop skip) = .ok rest := by
  induction skip generalizing bytes with
  | zero => exact ⟨[], rfl, rfl, read⟩
  | succ skip ih =>
      cases bytes with
      | nil => cases read
      | cons b bytes =>
          obtain ⟨skipped, length, same, read⟩ := ih read
          exact ⟨b :: skipped, by rw [List.length_cons, length], congrArg (b :: ·) same, read⟩

theorem skipString_append (skipped rest : Bytes) :
    skipString skipped.length (skipped ++ rest) = skipString 0 rest := by
  induction skipped with
  | nil => rfl
  | cons b skipped ih => exact ih

theorem skipString_sound (read : skipString 0 bytes = .ok rest) :
    ∃ body, bytes = body ++ Octet.quote :: rest ∧ PassesInner body := by
  induction size : bytes.length using Nat.strongRecOn generalizing bytes with
  | ind size ih =>
      subst size
      cases bytes with
      | nil => cases read
      | cons b bytes =>
          rw [skipString_cons] at read
          split at read
          · cases read
            subst ‹b = Octet.quote›
            exact ⟨[], rfl, .nil⟩
          rename_i notQuote
          split at read
          · subst ‹b = Octet.backslash›
            split at read
            · cases read
            rename_i c behind
            split at read
            · rename_i sign
              obtain ⟨body, rfl, passes⟩ :=
                ih behind.length (by simp only [List.length_cons]; omega) read rfl
              exact ⟨_, rfl, .sign sign passes⟩
            split at read
            · subst ‹c = Octet.smallU›
              split at read
              · rename_i unit found
                obtain ⟨digits, behind', rfl, spells, four⟩ := hexUnit_sound found
                obtain ⟨-, -, -, read⟩ := skipString_drop read
                rw [List.drop_succ_cons, List.drop_left' four] at read
                have shorter : behind'.length <
                    (Octet.backslash :: Octet.smallU :: (digits ++ behind')).length := by
                  simp only [List.length_cons, List.length_append]
                  omega
                obtain ⟨body, rfl, passes⟩ := ih behind'.length shorter read rfl
                exact ⟨_, by simp, .unit spells passes⟩
              · cases read
            · cases read
          rename_i notBackslash
          split at read
          · cases read
          · rename_i high
            obtain ⟨body, rfl, passes⟩ := ih bytes.length (by simp) read rfl
            exact ⟨_, rfl, .plain ⟨notQuote, notBackslash, high⟩ passes⟩

theorem PassesInner.skipString_eq {body : Bytes} (passes : PassesInner body) (rest : Bytes) :
    skipString 0 (body ++ Octet.quote :: rest) = .ok rest := by
  induction passes with
  | nil => rw [List.nil_append, skipString_cons, if_pos rfl]
  | plain plain _ ih =>
      obtain ⟨notQuote, notBackslash, high⟩ := plain
      rw [List.cons_append, skipString_cons, if_neg notQuote, if_neg notBackslash, if_neg high, ih]
  | sign sign _ ih =>
      rw [List.cons_append, List.cons_append, skipString_cons, if_neg (by decide), if_pos rfl]
      simp only [if_pos sign]
      exact ih
  | @unit digits unit body spells _ ih =>
      obtain ⟨read, four⟩ := spells.hexUnit_eq (body ++ Octet.quote :: rest)
      have plain : ¬ (plainEscape? Octet.smallU).isSome = true := by decide
      rw [List.cons_append, List.cons_append, List.append_assoc, skipString_cons,
        if_neg (by decide), if_pos rfl]
      simp only [if_neg plain, if_true, read]
      have skips := skipString_append (Octet.smallU :: digits) (body ++ Octet.quote :: rest)
      rw [List.length_cons, four] at skips
      rw [← List.cons_append, skips, ih]

theorem skipString_eq_ok_iff : skipString 0 bytes = .ok rest ↔
    ∃ body, bytes = body ++ Octet.quote :: rest ∧ PassesInner body := by
  constructor
  · exact skipString_sound
  · rintro ⟨body, rfl, passes⟩
    exact passes.skipString_eq rest

end CommandBridge.Json
