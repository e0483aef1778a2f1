import CommandBridge.Proofs.Json.ReadBack
import CommandBridge.Proofs.Rounding

/-! Integers as literals of JSON. A literal that fits its word is read as the integer. From the next
power of ten on that a word cannot hold it is read as a double, and that double is as large up to
rounding. -/
namespace CommandBridge

namespace Json

def integerNumeral (n : ℤ) : Numeral := ⟨n < 0, digitOctets n.natAbs, [], none⟩

theorem readNumber_digitOctets_eq (negative : Bool) (n : ℕ) : readNumber negative (digitOctets n) =
    match (Numeral.mk negative (digitOctets n) [] none).number? with
    | some m => .ok (m, [])
    | none => fail .numberOutOfRange [] := by
  rw [readNumber, readNumeral_digitOctets]
  rfl

theorem read_integerText_iff {n : ℤ} {v : Json} :
    Json.read (octets (String.ofList (integerText n))) = .ok v ↔
    ∃ m, (integerNumeral n).number? = some m ∧ v = .number m := by
  have scalar : Json.read (octets (String.ofList (integerText n))) =
      whole (readNumber (n < 0) (digitOctets n.natAbs) >>= fun read => .ok
          (.number read.1, read.2)) := by
    rw [octets, String.toList_ofList, integerText]
    by_cases negative : n < 0
    · have text : Utf8.encode ('-' :: Nat.toDigits 10 n.natAbs) =
        Octet.minus :: digitOctets n.natAbs := rfl
      rw [if_pos negative, text, Json.read, readValue_scalar (by decide) (by decide) (by decide),
        readScalar, if_neg (by decide), if_pos rfl, decide_eq_true negative]
    · have isDigit := isDigit_digitOctets n.natAbs
      rw [if_neg negative, decide_eq_false negative]
      change Json.read (digitOctets n.natAbs) = _
      cases text : digitOctets n.natAbs with
      | nil => exact absurd text (digitOctets_ne_nil _)
      | cons b tail =>
          rw [text] at isDigit
          rw [Json.read, readValue_isDigit (isDigit b List.mem_cons_self)]
  rw [scalar, readNumber_digitOctets_eq]
  change (whole ((match (integerNumeral n).number? with
    | some m => .ok (m, [])
    | none => fail .numberOutOfRange []) >>= _) = _) ↔ _
  cases found : (integerNumeral n).number? with
  | none =>
      constructor
      · rintro ⟨⟩
      · rintro ⟨_, ⟨⟩, _⟩
  | some m =>
      constructor
      · rintro ⟨⟩
        exact ⟨m, rfl, rfl⟩
      · rintro ⟨_, ⟨⟩, rfl⟩
        rfl

theorem read_integerText_word {n : ℤ} {v : Json}
    (read : Json.read (octets (String.ofList (integerText n))) = .ok v)
    (fits : -9223372036854775808 ≤ n ∧ n < 18446744073709551616) : v = .number (.int n fits) := by
  have text : octets (String.ofList (integerText n)) = Utf8.encode (numberText (.int n fits)) := by
    rw [octets, String.toList_ofList, numberText]
  rw [text, Number.readsBack_int n fits] at read
  exact (Except.ok.inj read).symm

theorem isBlank_integerText (n : ℤ) : ∀ b ∈ Utf8.encode (integerText n), isBlank b = false := by
  have digits := fun b within => isBlank_of_isDigit (isDigit_digitOctets n.natAbs b within)
  rw [integerText]
  split
  · rw [Utf8.encode_cons]
    exact List.forall_mem_cons.mpr ⟨by decide, digits⟩
  · exact digits

/-- The text of a sequence of one record with one member, of which the value's text is given. -/
def oneMemberText (key : String) (value : List Char) : String :=
  String.ofList ('[' :: '{' :: (quoted key ++ ':' :: (value ++ ['}', ']'])))

section OneMember
variable (key : String) {bytes : Bytes} {v : Json} {bound depth : Nat}

theorem readMembers_one (reads : Gets (readValue (bound + 1) depth) bytes v) (rest : Bytes) :
    readMembers (readMember (bound + 1) depth) (bound + 1) []
      (inner key ++ Octet.quote :: Octet.colon :: (bytes ++ Octet.closeBrace :: rest)) =
        .ok ([(key, v)], rest) := by
  have ends : EndsNumber (Octet.closeBrace :: rest) := endsNumber_cons (by decide) rest
  have stays := skipBlanks_cons (b := Octet.closeBrace) (by decide) rest
  rw [readMembers, inner, readString_encode]
  simp only [bind, Except.bind, readMember, readColon_colon, reads _ ends, stays, if_true]
  rfl

theorem readValue_oneMember (reads : Gets (readValue (bound + 1) depth) bytes v) (rest : Bytes) :
    readValue (bound + 1) (depth + 1) (Octet.openBrace :: Octet.quote ::
      (inner key ++ Octet.quote :: Octet.colon :: (bytes ++ Octet.closeBrace :: rest))) =
      .ok (.object [(key, v)], rest) := by
  have noBracket : Octet.openBrace ≠ Octet.openBracket := by decide
  have noBrace : Octet.quote ≠ Octet.closeBrace := by decide
  have members := readMembers_one key reads rest
  rw [readValue, skipBlanks_cons (by decide)]
  simp only [if_neg noBracket, if_true]
  change (readObject (readMember (bound + 1) depth) (bound + 1) [] _ >>= _) = _
  rw [readObject, skipBlanks_cons (by decide)]
  simp only [if_neg noBrace, if_true, members]
  rfl

end OneMember

/-- Such a text is read when its value is. -/
theorem read_oneMemberText (key : String) {value : List Char} {v : Json}
    (reads : ∀ bound depth, Gets (readValue bound depth) (Utf8.encode value) v) :
    read (octets (oneMemberText key value)) = .ok (.array [.object [(key, v)]]) := by
  have octets : octets (oneMemberText key value) =
    Octet.openBracket :: Octet.openBrace :: Octet.quote ::
      (inner key ++ Octet.quote :: Octet.colon ::
          (Utf8.encode value ++ [Octet.closeBrace, Octet.closeBracket])) := by
    rw [CommandBridge.octets, oneMemberText, String.toList_ofList, Utf8.encode_cons,
      Utf8.encode_cons, Utf8.encode_append, encode_quoted, Utf8.encode_cons, Utf8.encode_append,
      List.cons_append, List.append_assoc]
    rfl
  have noBracket : Octet.openBrace ≠ Octet.closeBracket := by decide
  have record := fun bound => readValue_oneMember key (reads (bound + 1) 125) [Octet.closeBracket]
  rw [read, octets, List.length_cons, readValue, skipBlanks_cons (by decide)]
  simp only [if_true]
  change whole (readArray (readValue _ 126) _ _ >>= _) = _
  rw [readArray, skipBlanks_cons (by decide)]
  simp only [if_neg noBracket]
  rw [readItems_last (record _)]
  rfl

theorem gets_quoted (s : String) (bound depth : Nat) :
    Gets (readValue bound depth) (Utf8.encode (quoted s)) (.string s) := by
  intro rest _
  rw [encode_quoted, List.cons_append, readValue_scalar (by decide) (by decide) (by decide),
    readScalar, if_pos rfl, List.append_assoc, List.singleton_append, readString_encode]
  rfl

section Leading

theorem isDigit_le {b : UInt8} (digit : Octet.isDigit b = true) : b.toNat - 0x30 ≤ 9 := by
  simp only [Octet.isDigit, Bool.and_eq_true, decide_eq_true_eq, UInt8.le_iff_toNat_le,
    UInt8.reduceToNat] at digit
  omega

def continued (n : ℕ) (bytes : Bytes) : ℕ := bytes.foldl (fun n b => n * 10 + (b.toNat - 0x30)) n

theorem continued_lt (n : ℕ) {bytes : Bytes} (digits : ∀ b ∈ bytes, Octet.isDigit b = true) :
    continued n bytes < (n + 1) * 10 ^ bytes.length := by
  induction bytes generalizing n with
  | nil => exact Nat.lt_of_lt_of_eq (Nat.lt_succ_self n) (Nat.mul_one _).symm
  | cons b rest ih =>
      rw [List.forall_mem_cons] at digits
      have small := isDigit_le digits.1
      calc continued (n * 10 + (b.toNat - 0x30)) rest
          < (n * 10 + (b.toNat - 0x30) + 1) * 10 ^ rest.length := ih _ digits.2
        _ ≤ ((n + 1) * 10) * 10 ^ rest.length := Nat.mul_le_mul_right _ (by omega)
        _ = (n + 1) * 10 ^ (rest.length + 1) := by rw [pow_succ']; ring

/-- What a word takes of digits: all of them, or as many as leave it too full for another one; what
is left is told by the power, up to the last digit in the word. -/
theorem takeWhole_spec (l : Leading) (held : l.word ≤ greatestWord) {bytes : Bytes}
    (digits : ∀ b ∈ bytes, Octet.isDigit b = true) :
    ((l.takeWhole bytes).word = continued l.word bytes ∨
      1844674407370955161 ≤ (l.takeWhole bytes).word) ∧
      (l.takeWhole bytes).word ≤ greatestWord ∧
      ∃ k : ℕ, (l.takeWhole bytes).power = l.power + k ∧
        continued l.word bytes < ((l.takeWhole bytes).word + 1) * 10 ^ k := by
  induction bytes generalizing l with
  | nil => exact ⟨.inl rfl, held, 0, (Int.add_zero _).symm, by simp [continued, Leading.takeWhole]⟩
  | cons b rest ih =>
      have shorter := (List.forall_mem_cons.mp digits).2
      rw [Leading.takeWhole]
      split
      · rename_i fits
        exact ih { l with word := l.word * 10 + (b.toNat - 0x30) } fits shorter
      · rename_i full
        refine ⟨.inr ?_, held, rest.length + 1, by push_cast; rfl, continued_lt l.word digits⟩
        have small := isDigit_le (List.forall_mem_cons.mp digits).1
        rw [greatestWord] at full
        change 1844674407370955161 ≤ l.word
        omega

theorem double?_large {l : Leading} (full : 1844674407370955161 ≤ l.word) {k : ℕ}
    (power : l.power = k) (twice : 2 ≤ k) {d : Double} (found : l.double? = some d) :
    100000000000000000 ≤ d.magnitude := by
  -- A full word is above 2 ^ 60 and two tens are above 2 ^ 6, and rounding goes past no power of
  -- two.
  unfold Leading.double? at found
  obtain ⟨word, isWord, found⟩ := Option.bind_eq_some_iff.mp found
  have wordLarge : (2 : ℚ) ^ (60 : ℤ) ≤ word.value := by
    refine (Double.ofDecimal?_roundsTo false l.word 0 isWord).zpow_le_value (by decide)
      (by decide) ?_
    have enough : (1844674407370955161 : ℚ) ≤ l.word := by exact_mod_cast full
    rw [if_neg Bool.false_ne_true, pow_zero, mul_one]
    exact le_trans (by norm_num) enough
  have notZero : ¬ word.isZero = true := by
    intro zero
    rw [Double.isZero, beq_iff_eq] at zero
    rw [Double.value, Double.magnitude, zero] at wordLarge
    norm_num at wordLarge
  rw [if_neg notZero, if_pos (by omega)] at found
  obtain ⟨factor, isFactor, found⟩ := Option.bind_eq_some_iff.mp found
  have factorLarge : (2 : ℚ) ^ (6 : ℤ) ≤ factor.value := by
    rw [power] at isFactor
    refine (Double.ofDecimal?_roundsTo false 1 k isFactor).zpow_le_value (by decide) (by decide) ?_
    rw [if_neg Bool.false_ne_true, Nat.cast_one, one_mul]
    calc (2 : ℚ) ^ (6 : ℤ) ≤ 10 ^ 2 := by norm_num
      _ ≤ 10 ^ k := pow_le_pow_right₀ (by norm_num) twice
  have large : (2 : ℚ) ^ (66 : ℤ) ≤ d.value := by
    refine (Double.times?_roundsTo found).zpow_le_value (by decide) (by decide) ?_
    calc (2 : ℚ) ^ (66 : ℤ) = 2 ^ (60 : ℤ) * 2 ^ (6 : ℤ) := by norm_num
      _ ≤ word.value * factor.value := by gcongr
  rw [← d.abs_value]
  calc (100000000000000000 : ℚ) ≤ 2 ^ (66 : ℤ) := by norm_num
    _ ≤ |d.value| := large.trans (le_abs_self _)

end Leading

/-- A literal of twenty-two digits or more is read as a large double of its sign. -/
theorem read_integerText_large {n : ℤ} {v : Json}
    (read : Json.read (octets (String.ofList (integerText n))) = .ok v)
    (large : 1000000000000000000000 ≤ n.natAbs) :
    ∃ d : Double, v = .number (.double d) ∧ d.negative = decide (n < 0) ∧
      100000000000000000 ≤ d.magnitude := by
  obtain ⟨m, spelled, rfl⟩ := read_integerText_iff.mp read
  have total : continued 0 (digitOctets n.natAbs) = n.natAbs := numeral_digitOctets n.natAbs
  obtain ⟨full, held, k, power, most⟩ :=
    takeWhole_spec ⟨0, 0⟩ (Nat.zero_le _) (isDigit_digitOctets n.natAbs)
  have taken : (integerNumeral n).leading =
      (⟨0, 0⟩ : Leading).takeWhole (digitOctets n.natAbs) := by
    rw [Numeral.leading, integerNumeral, Leading.takeFraction, Option.getD_none, Int.add_zero]
  rw [total, ← taken] at full most
  rw [← taken] at held power
  have isFull : 1844674407370955161 ≤ (integerNumeral n).leading.word := by
    refine full.resolve_left fun all => ?_
    rw [greatestWord] at held
    omega
  have twice : 2 ≤ k := by
    by_contra few
    have bound : ((integerNumeral n).leading.word + 1) * 10 ^ k ≤ 18446744073709551616 * 10 ^ 1 :=
      Nat.mul_le_mul (Nat.succ_le_succ held) (Nat.pow_le_pow_right (by decide) (by omega))
    omega
  have isDouble : (integerNumeral n).number? =
      (integerNumeral n).leading.double?.map fun d => Number.double (d.signed (n < 0)) := by
    have noInt : Number.ofInt? (if decide (n < 0) = true then -(n.natAbs : ℤ)
        else n.natAbs) = none :=
      dif_neg (by split <;> omega)
    simp only [Numeral.number?, integerNumeral, numeral_digitOctets, List.isEmpty_nil,
      Option.isNone_none, Bool.and_true, noInt, Option.none_or, ite_self]
  rw [isDouble] at spelled
  obtain ⟨d, found, rfl⟩ := Option.map_eq_some_iff.mp spelled
  have size := double?_large isFull (power.trans (zero_add _)) twice found
  exact ⟨d.signed (n < 0), rfl, rfl, size⟩

end Json

end CommandBridge
