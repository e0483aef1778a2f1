import CommandBridge.Proofs.Json.Grammar
import CommandBridge.Proofs.Json.NumberText

/-! Numbers as they are read and passed over, against the grammar: what is read stands at the front,
and whatever the grammar allows is read, unless what stands behind goes on it. -/
namespace CommandBridge.Json

variable {bytes rest : Bytes}

/-- A text that does not go on the digits that it stands behind. -/
def EndsDigits (bytes : Bytes) : Prop := ∀ b ∈ bytes.head?, Octet.isDigit b = false

theorem EndsNumber.endsDigits (ends : EndsNumber rest) : EndsDigits rest := by
  intro b first
  have stops := ends b first
  simp only [goesOn, Bool.or_eq_false_iff] at stops
  exact stops.1.1.1

theorem readDigits_sound {digits : Bytes} (read : readDigits bytes = (digits, rest)) :
    bytes = digits ++ rest ∧ ∀ b ∈ digits, Octet.isDigit b = true := by
  rw [readDigits, List.span_eq_takeWhile_dropWhile] at read
  cases read
  exact ⟨List.takeWhile_append_dropWhile.symm, fun b within => List.mem_takeWhile_imp within⟩

theorem readDigits_eq {digits : Bytes} (all : ∀ b ∈ digits, Octet.isDigit b = true)
    (ends : EndsDigits rest) :
    readDigits (digits ++ rest) = (digits, rest) := by
  rw [readDigits, List.span_eq_takeWhile_dropWhile, List.takeWhile_append_of_pos all,
    List.dropWhile_append_of_pos all]
  cases rest with
  | nil => simp
  | cons b rest => simp [ends b rfl]

theorem readSomeDigits_sound {digits : Bytes} (read : readSomeDigits bytes = .ok (digits, rest)) :
    bytes = digits ++ rest ∧ Digits digits := by
  unfold readSomeDigits at read
  split at read
  · cases read
  · cases read
  · rename_i noneLeft noneFound
    obtain ⟨parts, all⟩ := readDigits_sound (Except.ok.inj read)
    rw [Except.ok.inj read] at noneLeft noneFound
    refine ⟨parts, ?_, all⟩
    rintro rfl
    cases rest with
    | nil => exact noneLeft rfl
    | cons b rest => exact noneFound b rest rfl

theorem Digits.read_eq {digits : Bytes} (some : Digits digits) (ends : EndsDigits rest) :
    readSomeDigits (digits ++ rest) = .ok (digits, rest) := by
  obtain ⟨nonempty, all⟩ := some
  rw [readSomeDigits, readDigits_eq all ends]
  cases digits with
  | nil => exact absurd rfl nonempty
  | cons digit digits => rfl

theorem readFraction_sound {digits : Bytes} (read : readFraction bytes = .ok (digits, rest)) :
    ∃ point, bytes = point ++ rest ∧ SpellsFraction point digits := by
  unfold readFraction at read
  split at read
  · split at read
    · subst ‹_ = Octet.dot›
      obtain ⟨rfl, some⟩ := readSomeDigits_sound read
      exact ⟨_, rfl, .digits some⟩
    · cases read
      exact ⟨[], rfl, .none⟩
  · cases read
    exact ⟨[], rfl, .none⟩

theorem SpellsFraction.read_eq {point digits : Bytes} (spells : SpellsFraction point digits)
    (noDot : ∀ b ∈ rest.head?, b ≠ Octet.dot) (ends : EndsDigits rest) :
    readFraction (point ++ rest) = .ok (digits, rest) := by
  cases spells with
  | none =>
      cases rest with
      | nil => rfl
      | cons b rest => exact if_neg (noDot b rfl)
  | digits some =>
      rw [List.cons_append, readFraction, if_pos rfl]
      exact some.read_eq ends

theorem readSigned_sound {negative isZero : Bool} {e : Int}
    (read : readSigned negative isZero bytes = .ok (e, rest)) :
    ∃ digits, bytes = digits ++ rest ∧ Digits digits ∧
      e = (if negative then -(Octet.numeral digits : Int) else Octet.numeral digits) ∧
      (e ≤ 2147483647 ∨ isZero = true) := by
  obtain ⟨⟨digits, behind⟩, found, read⟩ := bind_ok read
  obtain ⟨parts, some⟩ := readSomeDigits_sound found
  dsimp only at read
  split at read
  · cases read
  · rename_i bounded
    cases read
    refine ⟨digits, parts, some, rfl, ?_⟩
    cases negative with
    | true => exact .inl (by simp only [if_true]; omega)
    | false =>
        cases isZero with
        | true => exact .inr rfl
        | false =>
            simp only [Bool.not_false, Bool.and_self, Bool.true_and, decide_eq_true_eq, not_lt]
              at bounded
            exact .inl (Int.ofNat_le.mpr bounded)

theorem Digits.readSigned_eq {digits : Bytes} (some : Digits digits) (ends : EndsDigits rest)
    {negative isZero : Bool} {e : Int}
    (value : e = if negative then -(Octet.numeral digits : Int) else Octet.numeral digits)
    (bounded : e ≤ 2147483647 ∨ isZero = true) :
    readSigned negative isZero (digits ++ rest) = .ok (e, rest) := by
  have fits : ¬ (!negative && !isZero && 2147483647 < Octet.numeral digits) = true := by
    subst value
    cases negative with
    | true => simp
    | false =>
        rcases bounded with bounded | zero
        · simp only [Bool.not_false, Bool.true_and, Bool.and_eq_true, decide_eq_true_eq,
            not_and, Nat.not_lt]
          intro _
          exact Int.ofNat_le.mp bounded
        · simp [zero]
  rw [readSigned, some.read_eq ends]
  simp only [bind, Except.bind, if_neg fits, value]

theorem readExponent_sound {isZero : Bool} {e : Int}
    (read : readExponent isZero bytes = .ok (e, rest)) :
    ∃ sign negative digits, bytes = sign ++ (digits ++ rest) ∧ SpellsSign sign negative ∧
      Digits digits ∧
      e = (if negative then -(Octet.numeral digits : Int) else Octet.numeral digits) ∧
      (e ≤ 2147483647 ∨ isZero = true) := by
  cases bytes with
  | nil => cases read
  | cons b bytes =>
      rw [readExponent_cons] at read
      split at read
      · subst ‹b = Octet.minus›
        obtain ⟨digits, rfl, some, value, bounded⟩ := readSigned_sound read
        exact ⟨_, true, digits, rfl, .minus, some, value, bounded⟩
      split at read
      · subst ‹b = Octet.plus›
        obtain ⟨digits, rfl, some, value, bounded⟩ := readSigned_sound read
        exact ⟨_, false, digits, rfl, .plus, some, value, bounded⟩
      · obtain ⟨digits, parts, some, value, bounded⟩ := readSigned_sound read
        exact ⟨_, false, digits, parts, .none, some, value, bounded⟩

theorem SpellsSign.readExponent_eq {sign digits : Bytes} {negative : Bool} {e : Int}
    (spells : SpellsSign sign negative) (isZero : Bool) (some : Digits digits)
    (ends : EndsDigits rest)
    (value : e = if negative then -(Octet.numeral digits : Int) else Octet.numeral digits)
    (bounded : e ≤ 2147483647 ∨ isZero = true) :
    readExponent isZero (sign ++ (digits ++ rest)) = .ok (e, rest) := by
  have signed := some.readSigned_eq ends value bounded
  cases spells with
  | minus => rw [List.singleton_append, readExponent_cons, if_pos rfl, signed]
  | plus => rw [List.singleton_append, readExponent_cons, if_neg (by decide), if_pos rfl, signed]
  | none =>
      obtain ⟨nonempty, all⟩ := some
      cases digits with
      | nil => exact absurd rfl nonempty
      | cons digit digits =>
          have isDigit := all digit List.mem_cons_self
          rw [List.nil_append, List.cons_append, readExponent_cons,
            if_neg (ne_of_isDigit isDigit (by decide)), if_neg (ne_of_isDigit isDigit (by decide)),
            ← List.cons_append, signed]

theorem readBehind_sound {negative : Bool} {whole fraction : Bytes} {numeral : Numeral}
    (read : readBehind negative whole fraction bytes = .ok (numeral, rest)) :
    ∃ power exponent, bytes = power ++ rest ∧ SpellsExponent power exponent ∧
      numeral = ⟨negative, whole, fraction, exponent⟩ ∧ numeral.IsBounded := by
  unfold readBehind at read
  split at read
  · rename_i b behind
    split at read
    · rename_i letter
      obtain ⟨⟨e, behind'⟩, found, same⟩ := bind_ok read
      cases same
      obtain ⟨sign, negative', digits, rfl, spells, some, value, bounded⟩ :=
        readExponent_sound found
      refine ⟨b :: (sign ++ digits),
        _, by simp, .letter (by simpa using letter) spells some, by rw [value], ?_⟩
      rintro _ ⟨⟩
      exact bounded.imp_right fun zero => by simpa using zero
    · cases read
      exact ⟨[], none, rfl, .none, rfl, nofun⟩
  · cases read
    exact ⟨[], none, rfl, .none, rfl, nofun⟩

theorem SpellsExponent.readBehind_eq {power : Bytes} {exponent : Option Int}
    (spells : SpellsExponent power exponent) {negative : Bool} {whole fraction : Bytes}
    (bounded : Numeral.IsBounded ⟨negative, whole, fraction, exponent⟩) (ends : EndsNumber rest) :
    readBehind negative whole fraction (power ++ rest) =
      .ok (⟨negative, whole, fraction, exponent⟩, rest) := by
  cases spells with
  | none =>
      cases rest with
      | nil => rfl
      | cons b rest =>
          have stops := ends b rfl
          have noLetter : ¬ (b = Octet.smallE || b = Octet.bigE) = true := by
            simp only [goesOn, Bool.or_eq_false_iff] at stops
            simpa using And.intro (beq_eq_false_iff_ne.mp stops.1.2)
              (beq_eq_false_iff_ne.mp stops.2)
          exact if_neg noLetter
  | @letter letter sign negative' digits isLetter sign' some =>
      have letters : (letter = Octet.smallE || letter = Octet.bigE) =
        true := by simpa using isLetter
      have read := sign'.readExponent_eq (Octet.numeral (whole ++ fraction) == 0)
        some ends.endsDigits rfl
        ((bounded _ rfl).imp_right fun zero => by simpa using zero)
      rw [List.cons_append, List.append_assoc, readBehind, if_pos letters, read]
      rfl

theorem SpellsExponent.head_eq {power : Bytes} {exponent : Option Int}
    (spells : SpellsExponent power exponent) (ends : EndsNumber rest) :
    ∀ b ∈ (power ++ rest).head?, b ≠ Octet.dot ∧ Octet.isDigit b = false := by
  cases spells with
  | none =>
      intro b first
      have stops := ends b first
      simp only [goesOn, Bool.or_eq_false_iff] at stops
      exact ⟨beq_eq_false_iff_ne.mp stops.1.1.2, stops.1.1.1⟩
  | letter isLetter _ _ =>
      rintro _ ⟨⟩
      rcases isLetter with rfl | rfl <;> decide

theorem SpellsFraction.endsDigits {point digits power : Bytes} {exponent : Option Int}
    (spells : SpellsFraction point digits) (spells' : SpellsExponent power exponent)
    (ends : EndsNumber rest) :
    EndsDigits (point ++ (power ++ rest)) := by
  cases spells with
  | none => exact fun b first => (spells'.head_eq ends b first).2
  | digits some =>
      rintro _ ⟨⟩
      decide

theorem readNumeral_sound {negative : Bool} {numeral : Numeral}
    (read : readNumeral negative bytes = .ok (numeral, rest)) :
    ∃ text, bytes = text ++ rest ∧ SpellsNumeral negative text numeral ∧ numeral.IsBounded := by
  rw [readNumeral_eq] at read
  obtain ⟨⟨whole, behind⟩, first, goes⟩ := bind_ok read
  obtain ⟨rfl, some⟩ := readSomeDigits_sound first
  split at goes
  · cases goes
  rename_i unpadded
  obtain ⟨⟨fraction, behind'⟩, second, goes⟩ := bind_ok goes
  obtain ⟨point, same, spells⟩ := readFraction_sound second
  obtain ⟨power, exponent, same', spells', rfl, bounded⟩ := readBehind_sound goes
  refine ⟨whole ++ (point ++ power), ?_, .parts some (Bool.eq_false_iff.mpr unpadded)
    spells spells', bounded⟩
  rw [show behind = _ from same, show behind' = _ from same']
  simp

theorem SpellsNumeral.read_eq {negative : Bool} {text : Bytes} {numeral : Numeral}
    (spells : SpellsNumeral negative text numeral) (bounded : numeral.IsBounded)
    (ends : EndsNumber rest) :
    readNumeral negative (text ++ rest) = .ok (numeral, rest) := by
  cases spells with
  | parts some unpadded fraction exponent =>
      have behind := exponent.head_eq ends
      rw [readNumeral_eq, List.append_assoc, List.append_assoc,
        some.read_eq (fraction.endsDigits exponent ends)]
      simp only [bind, Except.bind, unpadded, Bool.false_eq_true, if_false,
        fraction.read_eq (fun b first => (behind b first).1) (fun b first => (behind b first).2),
        exponent.readBehind_eq bounded ends]

theorem readNumber_sound {negative : Bool} {n : Number}
    (read : readNumber negative bytes = .ok (n, rest)) :
    ∃ text numeral, bytes = text ++ rest ∧ SpellsNumeral negative text numeral ∧ numeral.IsBounded ∧
      numeral.number? = some n := by
  obtain ⟨⟨numeral, behind⟩, found, read⟩ := bind_ok read
  obtain ⟨text, parts, spells, bounded⟩ := readNumeral_sound found
  dsimp only at read
  split at read
  · cases read
    exact ⟨text, numeral, parts, spells, bounded, ‹_›⟩
  · cases read

theorem SpellsNumeral.readNumber_eq {negative : Bool} {text : Bytes} {numeral : Numeral}
    {n : Number} (spells : SpellsNumeral negative text numeral) (bounded : numeral.IsBounded)
    (value : numeral.number? = some n) (ends : EndsNumber rest) :
    readNumber negative (text ++ rest) = .ok (n, rest) := by
  rw [readNumber, spells.read_eq bounded ends]
  simp only [bind, Except.bind, value]

theorem skipDigits_sound (read : skipDigits bytes = .ok rest) :
    ∃ digits, bytes = digits ++ rest ∧ Digits digits := by
  unfold skipDigits at read
  split at read
  · cases read
  · rename_i digits behind nonempty found
    cases read
    obtain ⟨parts, all⟩ := readDigits_sound found
    exact ⟨digits, parts, nonempty, all⟩

theorem Digits.skip_eq {digits : Bytes} (some : Digits digits) (ends : EndsDigits rest) :
    skipDigits (digits ++ rest) = .ok rest := by
  obtain ⟨nonempty, all⟩ := some
  rw [skipDigits, readDigits_eq all ends]
  cases digits with
  | nil => exact absurd rfl nonempty
  | cons digit digits => rfl

theorem skipExponent_cons (b : UInt8) (bytes : Bytes) : skipExponent (b :: bytes) =
    if b = Octet.smallE || b = Octet.bigE then
      match bytes with
      | [] => fail .badNumber []
      | c :: behind => skipDigits (if c = Octet.plus || c = Octet.minus then behind else bytes)
    else .ok (b :: bytes) := rfl

theorem skipExponent_sound (read : skipExponent bytes = .ok rest) :
    ∃ power exponent, bytes = power ++ rest ∧ SpellsExponent power exponent := by
  unfold skipExponent at read
  split at read
  · cases read
    exact ⟨[], none, rfl, .none⟩
  rename_i letter behind
  split at read
  · rename_i isLetter
    have isLetter : letter = Octet.smallE ∨ letter = Octet.bigE := by simpa using isLetter
    split at read
    · cases read
    rename_i c behind'
    split at read
    · rename_i isSign
      obtain ⟨digits, rfl, some⟩ := skipDigits_sound read
      rcases Bool.or_eq_true_iff.mp isSign with plus | minus
      · rw [decide_eq_true_eq] at plus
        subst plus
        exact ⟨_, _, rfl, .letter isLetter .plus some⟩
      · rw [decide_eq_true_eq] at minus
        subst minus
        exact ⟨_, _, rfl, .letter isLetter .minus some⟩
    · obtain ⟨digits, parts, some⟩ := skipDigits_sound read
      exact ⟨_, _, congrArg (letter :: ·) parts, .letter isLetter .none some⟩
  · cases read
    exact ⟨[], none, rfl, .none⟩

theorem SpellsExponent.skip_eq {power : Bytes} {exponent : Option Int}
    (spells : SpellsExponent power exponent) (ends : EndsNumber rest) :
    skipExponent (power ++ rest) = .ok rest := by
  cases spells with
  | none =>
      cases rest with
      | nil => rfl
      | cons b rest =>
          have stops := ends b rfl
          have noLetter : ¬ (b = Octet.smallE || b = Octet.bigE) = true := by
            simp only [goesOn, Bool.or_eq_false_iff] at stops
            simpa using And.intro (beq_eq_false_iff_ne.mp stops.1.2)
              (beq_eq_false_iff_ne.mp stops.2)
          exact if_neg noLetter
  | @letter letter sign negative digits isLetter sign' some =>
      have letters : (letter = Octet.smallE || letter = Octet.bigE) =
        true := by simpa using isLetter
      have skips := some.skip_eq ends.endsDigits
      rw [List.cons_append, List.append_assoc, skipExponent_cons, if_pos letters]
      cases sign' with
      | plus => exact skips
      | minus => exact skips
      | none =>
          obtain ⟨nonempty, all⟩ := some
          cases digits with
          | nil => exact absurd rfl nonempty
          | cons digit digits =>
              have isDigit := all digit List.mem_cons_self
              have noSign : ¬ (digit = Octet.plus || digit = Octet.minus) = true := by
                simpa using And.intro (ne_of_isDigit isDigit (by decide))
                  (ne_of_isDigit isDigit (by decide))
              rw [List.nil_append, List.cons_append]
              simp only [if_neg noSign]
              exact skips

/-- What a number's text goes on with behind its first digits, as it is passed over. -/
theorem skipNumber_eq (bytes : Bytes) : skipNumber bytes =
    match readDigits bytes with
    | ([], rest) => fail .badNumber rest.tail
    | (whole, rest) =>
      if isPadded whole then fail .badNumber (whole.drop 2 ++ rest)
      else
        match rest with
        | [] => .ok []
        | b :: behind =>
            if b = Octet.dot then skipDigits behind >>= skipExponent
                else skipExponent (b :: behind) := by
  unfold skipNumber
  rcases readDigits bytes with ⟨_ | ⟨first, more⟩, rest⟩
  · rfl
  · simp only [isPadded, List.head?_cons, Option.some.injEq, List.tail_cons]
    split
    · rfl
    · cases rest <;> rfl

theorem skipNumber_sound (negative : Bool) (read : skipNumber bytes = .ok rest) :
    ∃ text numeral, bytes = text ++ rest ∧ SpellsNumeral negative text numeral := by
  rw [skipNumber_eq] at read
  split at read
  · cases read
  rename_i whole behind nonempty found
  obtain ⟨rfl, all⟩ := readDigits_sound found
  have some : Digits whole := ⟨nonempty, all⟩
  split at read
  · cases read
  rename_i unpadded
  have unpadded := Bool.eq_false_iff.mpr unpadded
  split at read
  · cases read
    exact ⟨whole, _, rfl, by simpa using SpellsNumeral.parts some unpadded .none .none⟩
  split at read
  · subst ‹_ = Octet.dot›
    obtain ⟨behind', skipped, goes⟩ := bind_ok read
    obtain ⟨digits, rfl, some'⟩ := skipDigits_sound skipped
    obtain ⟨power, exponent, rfl, spells⟩ := skipExponent_sound goes
    exact ⟨_, _, by simp, .parts some unpadded (.digits some') spells⟩
  · obtain ⟨power, exponent, parts, spells⟩ := skipExponent_sound read
    exact ⟨_, _, by rw [parts, List.append_assoc],
      by simpa using SpellsNumeral.parts some unpadded .none spells⟩

theorem SpellsNumeral.skip_eq {negative : Bool} {text : Bytes} {numeral : Numeral}
    (spells : SpellsNumeral negative text numeral) (ends : EndsNumber rest) :
    skipNumber (text ++ rest) = .ok rest := by
  cases spells with
  | @parts whole point fraction power exponent some unpadded spells spells' =>
      have behind := spells'.head_eq ends
      have skips := spells'.skip_eq ends
      rw [skipNumber_eq, List.append_assoc, List.append_assoc, readDigits_eq some.2
        (spells.endsDigits spells' ends)]
      obtain ⟨first, more, rfl⟩ := List.exists_cons_of_ne_nil some.1
      simp only [unpadded, Bool.false_eq_true, if_false]
      cases spells with
      | none =>
          rw [List.nil_append]
          cases front : power ++ rest with
          | nil =>
              rw [front] at skips
              exact skips
          | cons b tail =>
              rw [front] at skips behind
              simp only [if_neg (behind b rfl).1, skips]
      | digits some' =>
          have digits := some'.skip_eq fun b first => (behind b first).2
          simp only [List.cons_append, if_true, digits, bind, Except.bind, skips]

end CommandBridge.Json
