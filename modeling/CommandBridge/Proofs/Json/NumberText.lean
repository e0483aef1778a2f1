import CommandBridge.Json.Printer
import CommandBridge.Proofs.Json.Numeral
import CommandBridge.Proofs.Utf8
import Mathlib.Data.List.Basic
import Mathlib.Data.List.TakeWhile

/-! Numbers that read back from their texts. An integer always does; what is known of a double is
its text alone, so that it reads back is left to be said of each. -/
namespace CommandBridge

def IsNumeric (c : Char) : Prop := c.isDigit = true ∨ c ∈ ['.', '-', '+', 'e']

theorem isNumeric_toDigits {n : Nat} {c : Char} (within : c ∈ Nat.toDigits 10 n) : IsNumeric c :=
  .inl (Nat.isDigit_of_mem_toDigits (by decide) (by decide) within)

theorem isNumeric_zero : IsNumeric '0' := .inl rfl

namespace Decimal

theorem isNumeric_significant {n : Nat} {c : Char} (within : c ∈ (significant n).1) : IsNumeric c :=
  isNumeric_toDigits (List.mem_reverse.mp (List.dropWhile_subset _ (List.mem_reverse.mp within)))

theorem isNumeric_positional {digits : List Char} (all : ∀ c ∈ digits, IsNumeric c) {e : Int} :
    ∀ c ∈ positional digits e, IsNumeric c := by
  intro c within
  have zero : ∀ n, c ∈ List.replicate n '0' → IsNumeric c := by
    intro n within
    rw [List.eq_of_mem_replicate within]
    exact isNumeric_zero
  have point : c = '.' → IsNumeric c := by
    rintro rfl
    exact .inr (by decide)
  unfold positional at within
  split at within
  · rcases List.mem_append.mp within with front | digit
    · rcases List.mem_append.mp front with lead | filler
      · rcases List.mem_cons.mp lead with rfl | dot
        · exact isNumeric_zero
        · exact point (List.mem_singleton.mp dot)
      · exact zero _ filler
    · exact all c digit
  · rcases List.mem_append.mp within with whole | behind
    · rcases List.mem_append.mp whole with digit | filler
      · exact all c (List.mem_of_mem_take digit)
      · exact zero _ filler
    · rcases List.mem_cons.mp behind with dot | places
      · exact point dot
      · split at places
        · rw [List.mem_singleton.mp places]
          exact isNumeric_zero
        · exact all c (List.mem_of_mem_drop places)

theorem isNumeric_scientific {digits : List Char} (all : ∀ c ∈ digits, IsNumeric c) {e : Int} :
    ∀ c ∈ scientific digits e, IsNumeric c := by
  intro c within
  rcases List.mem_append.mp within with front | power
  · rcases List.mem_append.mp front with digit | places
    · exact all c (List.mem_of_mem_take digit)
    · split at places
      · cases places
      · rcases List.mem_cons.mp places with rfl | digit
        · exact .inr (by decide)
        · exact all c (List.mem_of_mem_drop digit)
  · rcases List.mem_cons.mp power with rfl | power
    · exact .inr (by decide)
    · rcases List.mem_cons.mp power with rfl | digit
      · split <;> exact .inr (by decide)
      · exact isNumeric_toDigits digit

theorem isNumeric_text {layout : Layout} {d : Double} : ∀ c ∈ layout.text d, IsNumeric c := by
  have sign : ∀ c ∈ (if d.negative then ['-'] else []), IsNumeric c := by
    intro c within
    split at within
    · exact .inr (by rw [List.mem_singleton.mp within]; decide)
    · cases within
  intro c within
  unfold Layout.text at within
  dsimp only at within
  by_cases zero : d.isZero = true
  · rw [if_pos zero] at within
    rcases List.mem_append.mp within with minus | zero
    · exact sign c minus
    · simp only [List.mem_cons, List.not_mem_nil, or_false] at zero
      rcases zero with rfl | rfl | rfl
      · exact isNumeric_zero
      · exact .inr (by decide)
      · exact isNumeric_zero
  · rw [if_neg zero] at within
    rcases List.mem_append.mp within with minus | placed
    · exact sign c minus
    · unfold Layout.place at placed
      split at placed
      · exact isNumeric_positional (fun _ => isNumeric_significant) c placed
      · exact isNumeric_scientific (fun _ => isNumeric_significant) c placed

theorem text_ne_nil (layout : Layout) (d : Double) : layout.text d ≠ [] := by
  unfold Layout.text
  dsimp only
  by_cases zero : d.isZero = true
  · simp [if_pos zero]
  · rw [if_neg zero]
    refine List.append_ne_nil_of_right_ne_nil _ ?_
    unfold Layout.place
    split
    · unfold positional
      split <;> simp
    · simp [scientific]

end Decimal

namespace Json

theorem numberText_ne_nil (n : Number) : numberText n ≠ [] := by
  cases n with
  | int value inRange =>
      rw [numberText, integerText]
      split
      · exact List.cons_ne_nil _ _
      · exact Nat.toDigits_ne_nil
  | double d => exact Decimal.text_ne_nil .wire d

theorem isNumeric_numberText (n : Number) : ∀ c ∈ numberText n, IsNumeric c := by
  intro c within
  cases n with
  | int value inRange =>
      rw [numberText, integerText] at within
      split at within
      · rcases List.mem_cons.mp within with rfl | digit
        · exact .inr (by decide)
        · exact isNumeric_toDigits digit
      · exact isNumeric_toDigits within
  | double d => exact Decimal.isNumeric_text c within

theorem ne_of_isDigit {b c : UInt8} (digit : Octet.isDigit b = true)
    (other : Octet.isDigit c = false) :
    b ≠ c := by
  rintro rfl
  cases digit.symm.trans other

theorem isBlank_of_isDigit {b : UInt8} (digit : Octet.isDigit b = true) : isBlank b = false := by
  simp only [isBlank, Bool.or_eq_false_iff, decide_eq_false_iff_not]
  exact ⟨⟨⟨ne_of_isDigit digit (by decide), ne_of_isDigit digit (by decide)⟩,
    ne_of_isDigit digit (by decide)⟩, ne_of_isDigit digit (by decide)⟩

theorem digit_octet : ∀ k ≤ '9'.toNat, '0'.toNat ≤ k →
    Octet.isDigit k.toUInt8 = true ∧ k.toUInt8.toNat = k := by decide

theorem encode_digit {c : Char} (digit : c.isDigit = true) :
    String.utf8EncodeChar c = [c.toNat.toUInt8] ∧ Octet.isDigit c.toNat.toUInt8 = true ∧
      c.toNat.toUInt8.toNat = c.toNat := by
  rw [Char.isDigit_iff_toNat] at digit
  exact ⟨Utf8.encodeChar_of_lt (Nat.lt_of_le_of_lt digit.2 (by decide)),
    digit_octet c.toNat digit.2 digit.1⟩

/-- A character of a number's text is one octet, which is neither a blank nor the end of an
array. -/
theorem encode_numeric {c : Char} (numeric : IsNumeric c) :
    ∃ b, String.utf8EncodeChar c = [b] ∧ isBlank b = false ∧ b ≠ Octet.closeBracket := by
  rcases numeric with digit | sign
  · obtain ⟨octets, octet, -⟩ := encode_digit digit
    exact ⟨_, octets, isBlank_of_isDigit octet, ne_of_isDigit octet (by decide)⟩
  · simp only [List.mem_cons, List.not_mem_nil, or_false] at sign
    rcases sign with rfl | rfl | rfl | rfl
    · exact ⟨Octet.dot, rfl, by decide, by decide⟩
    · exact ⟨Octet.minus, rfl, by decide, by decide⟩
    · exact ⟨Octet.plus, rfl, by decide, by decide⟩
    · exact ⟨Octet.smallE, rfl, by decide, by decide⟩

theorem isBlank_numberText (n : Number) : ∀ b ∈ Utf8.encode (numberText n), isBlank b = false := by
  intro b within
  obtain ⟨c, part, within⟩ := List.mem_flatMap.mp within
  obtain ⟨b', octets, nonBlank, -⟩ := encode_numeric (isNumeric_numberText n c part)
  rw [octets] at within
  rwa [List.mem_singleton.mp within]

theorem skipBlanks_cons {b : UInt8} (nonBlank : isBlank b = false) (rest : Bytes) :
    skipBlanks (b :: rest) = b :: rest :=
  List.dropWhile_cons_of_neg (by simp [nonBlank])

theorem skipBlanks_of_none {bytes : Bytes} (none : ∀ b ∈ bytes, isBlank b = false) :
    skipBlanks bytes = bytes := by
  cases bytes with
  | nil => rfl
  | cons b rest => exact skipBlanks_cons (none b List.mem_cons_self) rest

end Json

/-- A number whose text is read as the number. -/
def Number.ReadsBack (n : Number) : Prop :=
  Json.read (Utf8.encode (Json.numberText n)) = .ok (.number n)

namespace Json

theorem bind_ok {α β : Type} {x : Except ReadError α} {next : α → Except ReadError β} {b : β}
    (run : x >>= next = .ok b) : ∃ a, x = .ok a ∧ next a = .ok b := by
  cases x with
  | error e => cases run
  | ok a => exact ⟨a, rfl, run⟩

theorem of_whole {α : Type} {reading : Except ReadError (α × Bytes)} {a : α}
    (read : whole reading = .ok a) :
    ∃ rest, reading = .ok (a, rest) ∧ skipBlanks rest = [] := by
  obtain ⟨⟨a', rest⟩, found, ends⟩ := bind_ok read
  dsimp only at ends
  split at ends
  · cases ends
    exact ⟨rest, found, ‹_›⟩
  · cases ends

/-- A number is read alike whatever comes behind it, unless that goes on the number. -/
theorem undisturbed_readScalar {b : UInt8} {tail rest : Bytes} {n : Number}
    (reading : readScalar b tail = .ok (.number n, rest)) :
    rest <:+ b :: tail ∧
      ∀ more, EndsNumber more → readScalar b (tail ++ more) = .ok (.number n, rest ++ more) := by
  unfold readScalar at reading ⊢
  split at reading
  · obtain ⟨_, _, other⟩ := bind_ok reading
    cases other
  split at reading
  · obtain ⟨⟨n', rest'⟩, found, same⟩ := bind_ok reading
    cases same
    obtain ⟨leaves, goes⟩ := undisturbed_readNumber true _ _ _ found
    refine ⟨leaves.trans (List.suffix_cons b tail), fun more ends => ?_⟩
    rw [if_neg ‹_›, if_pos ‹_›, goes more ends]
    rfl
  split at reading
  · obtain ⟨⟨n', rest'⟩, found, same⟩ := bind_ok reading
    cases same
    obtain ⟨leaves, goes⟩ := undisturbed_readNumber false _ _ _ found
    refine ⟨leaves, fun more ends => ?_⟩
    rw [if_neg ‹_›, if_neg ‹_›, if_pos ‹_›, ← List.cons_append, goes more ends]
    rfl
  split at reading
  · obtain ⟨_, _, other⟩ := bind_ok reading
    cases other
  split at reading
  · obtain ⟨_, _, other⟩ := bind_ok reading
    cases other
  split at reading
  · obtain ⟨_, _, other⟩ := bind_ok reading
    cases other
  · cases reading

theorem readValue_scalar {bound depth : Nat} {b : UInt8} (nonBlank : isBlank b = false)
    (noArray : b ≠ Octet.openBracket) (noObject : b ≠ Octet.openBrace) (rest : Bytes) :
    readValue bound depth (b :: rest) = readScalar b rest := by
  rw [readValue, skipBlanks_cons nonBlank]
  simp only [if_neg noArray, if_neg noObject]

theorem readValue_isDigit {bound depth : Nat} {b : UInt8} (digit : Octet.isDigit b = true)
    (rest : Bytes) :
    readValue bound depth (b :: rest) =
      readNumber false (b :: rest) >>= fun read => .ok (.number read.1, read.2) := by
  rw [readValue_scalar (isBlank_of_isDigit digit) (ne_of_isDigit digit (by decide))
    (ne_of_isDigit digit (by decide)), readScalar, if_neg (ne_of_isDigit digit (by decide)),
    if_neg (ne_of_isDigit digit (by decide)), if_pos digit]

theorem readScalar_of_readValue {bound depth : Nat} {bytes rest : Bytes} {n : Number}
    (reading : readValue bound depth bytes = .ok (.number n, rest)) :
    ∃ b tail, skipBlanks bytes = b :: tail ∧ b ≠ Octet.openBracket ∧ b ≠ Octet.openBrace ∧
      readScalar b tail = .ok (.number n, rest) := by
  unfold readValue at reading
  split at reading
  · cases reading
  split at reading
  · split at reading
    · cases reading
    · obtain ⟨_, _, other⟩ := bind_ok reading
      cases other
  split at reading
  · split at reading
    · cases reading
    · obtain ⟨_, _, other⟩ := bind_ok reading
      cases other
  · exact ⟨_, _, ‹_›, ‹_›, ‹_›, reading⟩

/-- A number that is read from octets without a blank is read from any text that they lead. -/
theorem readValue_of_read {bytes : Bytes} {n : Number} (noBlank : ∀ b ∈ bytes, isBlank b = false)
    (reading : read bytes = .ok (.number n)) (bound depth : Nat) {more : Bytes}
    (ends : EndsNumber more) :
    readValue bound depth (bytes ++ more) = .ok (.number n, more) := by
  obtain ⟨rest, reading, blank⟩ := of_whole reading
  obtain ⟨b, tail, begins, noArray, noObject, scalar⟩ := readScalar_of_readValue reading
  rw [skipBlanks_of_none noBlank] at begins
  rw [begins] at noBlank ⊢
  obtain ⟨leaves, goes⟩ := undisturbed_readScalar scalar
  rw [skipBlanks_of_none fun b within => noBlank b (leaves.subset within)] at blank
  rw [List.cons_append, readValue_scalar (noBlank b List.mem_cons_self) noArray noObject,
    goes more ends, blank, List.nil_append]

theorem readValue_number {n : Number} (readsBack : n.ReadsBack) (bound depth : Nat) {more : Bytes}
    (ends : EndsNumber more) :
    readValue bound depth (Utf8.encode (numberText n) ++ more) = .ok (.number n, more) :=
  readValue_of_read (isBlank_numberText n) readsBack bound depth ends

section Integer
variable (n : Nat)

theorem encode_digits {cs : List Char} (digits : ∀ c ∈ cs, c.isDigit = true) :
    Utf8.encode cs = cs.map fun c => c.toNat.toUInt8 := by
  induction cs with
  | nil => rfl
  | cons c cs ih =>
      rw [Utf8.encode_cons, (encode_digit (digits c List.mem_cons_self)).1,
        ih fun c' within => digits c' (List.mem_cons_of_mem c within)]
      rfl

def digitOctets : Bytes := Utf8.encode (Nat.toDigits 10 n)

theorem isDigit_toDigits : ∀ c ∈ Nat.toDigits 10 n, c.isDigit = true :=
  fun _ within => Nat.isDigit_of_mem_toDigits (by decide) (by decide) within

theorem digitOctets_eq : digitOctets n = (Nat.toDigits 10 n).map fun c => c.toNat.toUInt8 :=
  encode_digits (isDigit_toDigits n)

theorem isDigit_digitOctets : ∀ b ∈ digitOctets n, Octet.isDigit b = true := by
  rw [digitOctets_eq]
  intro b within
  obtain ⟨c, digit, rfl⟩ := List.mem_map.mp within
  exact (encode_digit (isDigit_toDigits n c digit)).2.1

theorem numeral_digits {cs : List Char} (digits : ∀ c ∈ cs, c.isDigit = true) :
    Octet.numeral (cs.map fun c => c.toNat.toUInt8) = Nat.ofDigitChars 10 cs 0 := by
  rw [Octet.numeral, List.foldl_map, Nat.ofDigitChars_eq_foldl]
  refine List.foldl_ext _ _ 0 fun value c within => ?_
  rw [(encode_digit (digits c within)).2.2, Nat.mul_comm]
  rfl

theorem numeral_digitOctets : Octet.numeral (digitOctets n) = n := by
  rw [digitOctets_eq, numeral_digits (isDigit_toDigits n), Nat.ofDigitChars_ten_toDigits]

theorem digitOctets_ne_nil : digitOctets n ≠ [] := by
  rw [digitOctets_eq]
  exact List.map_eq_nil_iff.not.mpr Nat.toDigits_ne_nil

variable {n} in
theorem head?_digitOctets (positive : n ≠ 0) : (digitOctets n).head? ≠ some Octet.zero := by
  induction n using Nat.strongRecOn with
  | ind n ih =>
      by_cases small : n < 10
      · have digits : ∀ k < 10, k ≠ 0 → k.digitChar.toNat.toUInt8 ≠ Octet.zero := by decide
        rw [digitOctets_eq, Nat.toDigits_of_lt_base small]
        simpa using digits n small positive
      · have above : 10 ≤ n := Nat.not_lt.mp small
        have shorter := ih (n / 10) (by omega) (by omega)
        rw [digitOctets_eq] at shorter ⊢
        rw [Nat.toDigits_of_base_le (by decide) above, List.map_append,
          List.head?_append_of_ne_nil _ ?_]
        · exact shorter
        · exact List.map_eq_nil_iff.not.mpr Nat.toDigits_ne_nil

theorem isPadded_digitOctets : isPadded (digitOctets n) = false := by
  by_cases zero : n = 0
  · subst zero
    decide
  · simp [isPadded, head?_digitOctets zero]

theorem readNumeral_digitOctets (negative : Bool) :
    readNumeral negative (digitOctets n) = .ok (⟨negative, digitOctets n, [], none⟩, []) := by
  have all : readDigits (digitOctets n) = (digitOctets n, []) := by
    rw [readDigits, List.span_eq_takeWhile_dropWhile,
      List.takeWhile_eq_self_iff.mpr (isDigit_digitOctets n),
      List.dropWhile_eq_nil_iff.mpr (isDigit_digitOctets n)]
  have some : readSomeDigits (digitOctets n) = .ok (digitOctets n, []) := by
    rw [readSomeDigits, all]
    cases digits : digitOctets n with
    | nil => exact absurd digits (digitOctets_ne_nil n)
    | cons b rest => rfl
  rw [readNumeral_eq, some]
  simp only [bind, Except.bind, isPadded_digitOctets]
  rfl

variable {n} in
theorem readNumber_digitOctets {negative : Bool} {m : Number} (noZero : negative = true → n ≠ 0)
    (fits : Number.ofInt? (if negative then -(n : Int) else n) = some m) :
    readNumber negative (digitOctets n) = .ok (m, []) := by
  have noMinusZero : ¬ (negative && (n : Int) == 0) = true := by
    simpa using noZero
  have found : (Numeral.mk negative (digitOctets n) [] none).number? = some m := by
    simp only [Numeral.number?, numeral_digitOctets, if_neg noMinusZero, fits, Option.some_or]
    rfl
  rw [readNumber, readNumeral_digitOctets]
  simp only [bind, Except.bind, found]

end Integer

end Json

theorem Number.readsBack_int (value : Int)
    (inRange : -9223372036854775808 ≤ value ∧ value < 18446744073709551616) :
    (Number.int value inRange).ReadsBack := by
  have fits : Number.ofInt? value = some (.int value inRange) := dif_pos inRange
  rw [Number.ReadsBack, Json.numberText, Json.integerText]
  split
  · have negative : -(value.natAbs : Int) = value := by omega
    have digits : Json.readNumber true (Json.digitOctets value.natAbs) =
        .ok (.int value inRange, []) :=
      Json.readNumber_digitOctets (fun _ => by omega) (by rw [if_pos rfl, negative]; exact fits)
    have octets : Utf8.encode ('-' :: Nat.toDigits 10 value.natAbs) =
      Octet.minus :: Json.digitOctets value.natAbs := rfl
    rw [octets, Json.read, Json.readValue_scalar (by decide) (by decide) (by decide),
      Json.readScalar, if_neg (by decide), if_pos rfl, digits]
    rfl
  · have positive : (value.natAbs : Int) = value := by omega
    have digits : Json.readNumber false (Json.digitOctets value.natAbs) =
      .ok (.int value inRange, []) :=
      Json.readNumber_digitOctets nofun (by rw [if_neg Bool.false_ne_true, positive]; exact fits)
    have isDigit := Json.isDigit_digitOctets value.natAbs
    change Json.read (Json.digitOctets value.natAbs) = _
    cases octets : Json.digitOctets value.natAbs with
    | nil => exact absurd octets (Json.digitOctets_ne_nil _)
    | cons b tail =>
        rw [octets] at digits isDigit
        rw [Json.read, Json.readValue_isDigit (isDigit b List.mem_cons_self), digits]
        rfl

def Double.half : Double := ⟨false, 4503599627370496, -53, by decide⟩

theorem Number.readsBack_half : (Number.double .half).ReadsBack := by
  have digits : Json.numberText (.double .half) = ['0', '.', '5'] := by decide +kernel
  have octets : Utf8.encode ['0', '.', '5'] = [0x30, 0x2E, 0x35] := by decide
  have numeral : Json.readNumeral false [0x30, 0x2E, 0x35] =
    .ok (⟨false, [0x30], [0x35], none⟩, []) := rfl
  have value : (Json.Numeral.mk false [0x30] [0x35] none).number? =
    some (.double .half) := by decide +kernel
  rw [Number.ReadsBack, digits, octets, Json.read, Json.readValue_isDigit (by decide),
    Json.readNumber, numeral]
  simp only [bind, Except.bind, value]
  rfl

end CommandBridge
