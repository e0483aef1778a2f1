import CommandBridge.Normalization
import CommandBridge.Proofs.Rounding
import CommandBridge.Proofs.Slices
import Mathlib.Data.Nat.Digits.Defs

/-! The integer at the head of a text. Every text has blanks, at most one sign and digits at its
head, each as many as there are, and the value is told from the sign and the digits alone: null
without digits, the integer where a signed word of 64 bits holds it, else the double that it is
rounded to, and null again from the overflow on. -/
namespace CommandBridge

/-- The parts at the head of a text: all blanks that it begins with, a sign if there is one, and all
digits that come next. -/
structure Leads (text blanks sign digits tail : List Char) : Prop where
  whole : text = blanks ++ (sign ++ (digits ++ tail))
  blank : ∀ c ∈ blanks, Text.isBlank c = true
  noBlank : ∀ c ∈ (sign ++ (digits ++ tail)).head?, Text.isBlank c = false
  isSign : (sign = [] ∧ ∀ c ∈ (digits ++ tail).head?, c ≠ '+' ∧ c ≠ '-') ∨
    sign = ['+'] ∨ sign = ['-']
  digit : ∀ c ∈ digits, c.isDigit = true
  noDigit : ∀ c ∈ tail.head?, c.isDigit = false

def decimal (digits : List Char) : ℕ :=
  Nat.ofDigits 10 (digits.reverse.map fun c => c.toNat - '0'.toNat)

def signedDecimal (sign digits : List Char) : ℤ :=
  if sign = ['-'] then -decimal digits else decimal digits

/-- A whole number as a value: the integer where it fits a signed word, else the double that it is
rounded to, or null where that is infinite. -/
inductive Spells (n : ℤ) : Json → Prop
  | int (fits : -9223372036854775808 ≤ n ∧ n ≤ 9223372036854775807) :
      Spells n (.number (.int n ⟨fits.1, by omega⟩))
  | double (d : Double) (wide : ¬ (-9223372036854775808 ≤ n ∧ n ≤ 9223372036854775807))
      (finite : (|n| : ℚ) < Double.overflow) (rounds : d.RoundsTo n) :
        Spells n (.number (.double d))
  | infinite (large : Double.overflow ≤ (|n| : ℚ)) : Spells n .null

theorem Spells.eq_int {n : ℤ} {v : Json} (spells : Spells n v)
    (fits : -9223372036854775808 ≤ n ∧ n ≤ 9223372036854775807) :
    v = .number (.int n ⟨fits.1, by omega⟩) := by
  cases spells with
  | int fits => rfl
  | double d wide => exact absurd fits wide
  | infinite large =>
      have small : (|n| : ℚ) ≤ 9223372036854775808 := by
        rw [abs_le]
        constructor <;> push_cast [← Int.cast_le (R := ℚ)] at fits <;> linarith
      exact absurd (large.trans small) (not_le.mpr Double.lt_overflow)

theorem decimal_cons (c : Char) (digits : List Char) :
    decimal (c :: digits) = (c.toNat - '0'.toNat) * 10 ^ digits.length + decimal digits := by
  rw [decimal, List.reverse_cons, List.map_append, Nat.ofDigits_append, List.length_map,
    List.length_reverse, List.map_singleton, Nat.ofDigits_singleton, Nat.mul_comm, Nat.add_comm]
  rfl

theorem digitsValue_eq (digits : List Char) : digitsValue digits = decimal digits := by
  suffices behind : ∀ n, digits.foldl (fun n c => n * 10 + (c.toNat - 48)) n =
      n * 10 ^ digits.length + decimal digits by
    simpa [digitsValue] using behind 0
  induction digits with
  | nil => exact fun n => (Nat.mul_one n).symm
  | cons c digits ih =>
      intro n
      rw [List.foldl_cons, ih, decimal_cons, List.length_cons, pow_succ', ← Nat.add_assoc,
        ← Nat.mul_assoc, ← Nat.add_mul]
      rfl

theorem decimal_dropZeros (digits : List Char) :
    decimal (digits.dropWhile (· = '0')) = decimal digits := by
  induction digits with
  | nil => rfl
  | cons c digits ih =>
      by_cases zero : c = '0'
      · rw [List.dropWhile_cons_of_pos (by simpa using zero), ih, decimal_cons, zero,
          Nat.sub_self, Nat.zero_mul, Nat.zero_add]
      · rw [List.dropWhile_cons_of_neg (by simpa using zero)]

theorem integerValue_spells (negative : Bool) (magnitude : ℕ) :
    Spells (if negative then -magnitude else magnitude) (integerValue negative magnitude) := by
  obtain ⟨n, isN⟩ : ∃ n : ℤ, n = if negative then -(magnitude : ℤ) else magnitude := ⟨_, rfl⟩
  have size : (|n| : ℚ) = magnitude := by
    rw [isN]
    cases negative <;> simp
  rw [integerValue]
  simp only [← isN]
  by_cases fits : -9223372036854775808 ≤ n ∧ n < 9223372036854775808
  · rw [dif_pos fits]
    exact .int ⟨fits.1, by omega⟩
  · rw [dif_neg fits]
    cases found : Double.ofDecimal? negative magnitude 0 with
    | some d =>
        have rounds := Double.ofDecimal?_roundsTo negative magnitude 0 found
        refine .double d (by omega) ?_ ?_
        · rw [size, ← not_le, ← Double.ofDecimal?_eq_none_iff_overflow negative, found]
          exact Option.some_ne_none d
        · rw [isN]
          cases negative <;> simpa using rounds
    | none => exact .infinite (by rwa [size, ← Double.ofDecimal?_eq_none_iff_overflow negative])

/-- Every text has blanks, a sign and digits at its head. -/
theorem exists_leads (text : List Char) :
    ∃ blanks sign digits tail, Leads text blanks sign digits tail := by
  obtain ⟨sign, rest, split, isSign⟩ : ∃ sign rest, text.dropWhile Text.isBlank = sign ++ rest ∧
      ((sign = [] ∧ ∀ c ∈ rest.head?, c ≠ '+' ∧ c ≠ '-') ∨ sign = ['+'] ∨ sign = ['-']) := by
    cases trimmed : text.dropWhile Text.isBlank with
    | nil => exact ⟨[], [], rfl, .inl ⟨rfl, nofun⟩⟩
    | cons c rest =>
        by_cases plus : c = '+'
        · exact ⟨['+'], rest, by rw [plus]; rfl, .inr (.inl rfl)⟩
        · by_cases minus : c = '-'
          · exact ⟨['-'], rest, by rw [minus]; rfl, .inr (.inr rfl)⟩
          · refine ⟨[], c :: rest, rfl, .inl ⟨rfl, ?_⟩⟩
            rintro _ ⟨⟩
            exact ⟨plus, minus⟩
  have noneLeft : ∀ {p : Char → Bool} {cs : List Char}, ∀ c ∈ (cs.dropWhile p).head?, p c =
      false := by
    intro p cs c first
    have stops := List.head?_dropWhile_not p cs
    rw [Option.mem_def.mp first] at stops
    simpa using stops
  refine ⟨text.takeWhile Text.isBlank, sign, rest.takeWhile Char.isDigit, rest.dropWhile
    Char.isDigit, ?_, ?_, ?_, ?_, ?_, noneLeft⟩
  · rw [List.takeWhile_append_dropWhile, ← split, List.takeWhile_append_dropWhile]
  · exact fun c within => List.mem_takeWhile_imp within
  · rw [List.takeWhile_append_dropWhile, ← split]
    exact noneLeft
  · rwa [List.takeWhile_append_dropWhile]
  · exact fun c within => List.mem_takeWhile_imp within

namespace Leads
variable {text blanks sign digits tail : List Char}

theorem takeWhile_isBlank (leads : Leads text blanks sign digits tail) :
    text.takeWhile Text.isBlank = blanks := by
  rw [leads.whole, List.takeWhile_append_of_pos leads.blank]
  cases behind : sign ++ (digits ++ tail) with
  | nil => exact List.append_nil _
  | cons c rest =>
      have stops := leads.noBlank c (by rw [behind]; rfl)
      rw [List.takeWhile_cons_of_neg (by simp [stops]), List.append_nil]

theorem trimStart_eq (leads : Leads text blanks sign digits tail) :
    Text.trimStart text = sign ++ (digits ++ tail) := by
  have parts : text.takeWhile Text.isBlank ++ text.dropWhile Text.isBlank =
      blanks ++ (sign ++ (digits ++ tail)) := by
    rw [List.takeWhile_append_dropWhile, leads.whole]
  rw [leads.takeWhile_isBlank] at parts
  exact List.append_cancel_left parts

theorem takeWhile_isDigit (leads : Leads text blanks sign digits tail) :
    (digits ++ tail).takeWhile Char.isDigit = digits := by
  rw [List.takeWhile_append_of_pos leads.digit]
  cases tail with
  | nil => exact List.append_nil _
  | cons c rest =>
      have stops := leads.noDigit c rfl
      rw [List.takeWhile_cons_of_neg (by simp [stops]), List.append_nil]

theorem signedDigits_eq (leads : Leads text blanks sign digits tail) :
    signedDigits (Text.trimStart text) = (decide (sign = ['-']), digits) := by
  have led := leads.takeWhile_isDigit
  rw [leads.trimStart_eq]
  rcases leads.isSign with ⟨rfl, other⟩ | rfl | rfl
  · rw [List.nil_append]
    unfold signedDigits
    split
    · rename_i same
      exact absurd rfl (other '-' (by rw [same]; rfl)).2
    · rename_i same
      exact absurd rfl (other '+' (by rw [same]; rfl)).1
    · rw [led]
      rfl
  · exact congrArg (Prod.mk false) led
  · exact congrArg (Prod.mk true) led

theorem leadingInteger_eq (leads : Leads text blanks sign digits tail) : leadingInteger text =
    if digits.isEmpty then .null else integerValue (decide (sign = ['-'])) (decimal digits) := by
  rw [leadingInteger, leads.signedDigits_eq, ← digitsValue_eq]

theorem leadingInteger_nil (leads : Leads text blanks sign [] tail) : leadingInteger text = .null :=
  leads.leadingInteger_eq

theorem leadingInteger_spells (leads : Leads text blanks sign digits tail) (some : digits ≠ []) :
    Spells (signedDecimal sign digits) (leadingInteger text) := by
  have spells := integerValue_spells (decide (sign = ['-'])) (decimal digits)
  rw [leads.leadingInteger_eq, if_neg (by simpa using some), signedDecimal]
  simpa using spells

/-- Only the sign and the digits count, without the zeros that they begin with. -/
theorem leadingInteger_congr {text' blanks' sign' digits' tail' : List Char}
    (leads : Leads text blanks sign digits tail) (leads' : Leads text' blanks' sign' digits' tail')
    (some : digits ≠ []) (some' : digits' ≠ []) (sameSign : sign' = ['-'] ↔ sign = ['-'])
    (sameDigits : digits'.dropWhile (· = '0') = digits.dropWhile (· = '0')) :
    leadingInteger text' = leadingInteger text := by
  have same : decimal digits' = decimal digits := by
    rw [← decimal_dropZeros digits', sameDigits, decimal_dropZeros]
  rw [leads.leadingInteger_eq, leads'.leadingInteger_eq, if_neg (by simpa using some'),
    if_neg (by simpa using some), same, decide_eq_decide.mpr sameSign]

end Leads

/-- The sign and the digits at the head of a text, cut out of its octets: the blanks, which are
known by their characters, are cut off, then one octet where it is a sign, and then the octets
behind those that are digits. -/
def slices? (text : List Char) : Option (Bool × Bytes) := do
  let trimmed ← Utf8.sliceFrom? (Utf8.encode text)
    (Utf8.encode (text.takeWhile Text.isBlank)).length
  let (negative, rest) ←
    if trimmed.head? = some Octet.minus then (Utf8.sliceFrom? trimmed 1).map (true, ·)
    else if trimmed.head? = some Octet.plus then (Utf8.sliceFrom? trimmed 1).map (false, ·)
    else some (false, trimmed)
  let digits ← Utf8.sliceTo? rest (rest.takeWhile Octet.isDigit).length
  some (negative, digits)

/-- No cut goes through a character, and what is cut out are the octets of the sign and the
digits. -/
theorem Leads.slices?_eq {text blanks sign digits tail : List Char}
    (leads : Leads text blanks sign digits tail) :
    slices? text = some (decide (sign = ['-']), Utf8.encode digits) := by
  have trimmed :
    Utf8.sliceFrom? (Utf8.encode text) (Utf8.encode (text.takeWhile Text.isBlank)).length =
      some (Utf8.encode (sign ++ (digits ++ tail))) := by
    rw [leads.takeWhile_isBlank, leads.whole, Utf8.sliceFrom?_encode]
  have cut : Utf8.sliceTo? (Utf8.encode (digits ++ tail))
      ((Utf8.encode (digits ++ tail)).takeWhile Octet.isDigit).length =
          some (Utf8.encode digits) := by
    rw [Utf8.takeWhile_isDigit_encode, leads.takeWhile_isDigit, Utf8.sliceTo?_encode]
  have signCut : ∀ c : Char, (Utf8.encode [c]).length = 1 →
      Utf8.sliceFrom? (Utf8.encode ([c] ++ (digits ++ tail))) 1 =
          some (Utf8.encode (digits ++ tail)) := by
    intro c one
    rw [← one, Utf8.sliceFrom?_encode]
  have minus := Utf8.head?_encode_iff '-' (by decide) (sign ++ (digits ++ tail))
  have plus := Utf8.head?_encode_iff '+' (by decide) (sign ++ (digits ++ tail))
  rw [slices?, trimmed]
  simp only [Option.bind_eq_bind, Option.bind_some]
  rcases leads.isSign with ⟨rfl, other⟩ | rfl | rfl
  · rw [List.nil_append] at minus plus ⊢
    have noMinus : (Utf8.encode (digits ++ tail)).head? ≠ some Octet.minus :=
      fun same => (other '-' (minus.mp same)).2 rfl
    have noPlus : (Utf8.encode (digits ++ tail)).head? ≠ some Octet.plus :=
      fun same => (other '+' (plus.mp same)).1 rfl
    rw [if_neg noMinus, if_neg noPlus]
    simp only [Option.bind_some, cut]
    rfl
  · have isPlus : (Utf8.encode (['+'] ++ (digits ++ tail))).head? = some Octet.plus := plus.mpr rfl
    have noMinus : (some Octet.plus : Option UInt8) ≠ some Octet.minus := by decide
    rw [isPlus, if_neg noMinus, if_pos rfl, signCut '+' rfl]
    simp only [Option.map_some, Option.bind_some, cut]
    rfl
  · have isMinus : (Utf8.encode (['-'] ++ (digits ++ tail))).head? = some Octet.minus :=
      minus.mpr rfl
    rw [isMinus, if_pos rfl, signCut '-' rfl]
    simp only [Option.map_some, Option.bind_some, cut]
    rfl

/-- The integer at the head of a text, as its parts tell it. -/
theorem leadingInteger_reference (text : List Char) :
    (∃ blanks sign digits tail, Leads text blanks sign digits tail) ∧
    ∀ blanks sign digits tail, Leads text blanks sign digits tail →
      slices? text = some (decide (sign = ['-']), Utf8.encode digits) ∧
      (digits = [] → leadingInteger text = .null) ∧
      (digits ≠ [] → Spells (signedDecimal sign digits) (leadingInteger text)) ∧
      ∀ text' blanks' sign' digits' tail', Leads text' blanks' sign' digits' tail' →
        digits ≠ [] → digits' ≠ [] → (sign' = ['-'] ↔ sign = ['-']) →
        digits'.dropWhile (· = '0') = digits.dropWhile (· = '0') →
          leadingInteger text' = leadingInteger text := by
  refine ⟨exists_leads text, fun blanks sign digits tail leads => ⟨leads.slices?_eq, ?_, ?_, ?_⟩⟩
  · rintro rfl
    exact leads.leadingInteger_nil
  · exact leads.leadingInteger_spells
  · intro text' blanks' sign' digits' tail' leads' some some' sameSign sameDigits
    exact leads.leadingInteger_congr leads' some some' sameSign sameDigits

/-- The least integer of a signed word, behind blanks of two kinds and with zeros before and a
letter behind it. -/
theorem leadingInteger_reference_least :
    let text := ['\u3000', '\t', '-'] ++ "0009223372036854775808".toList ++ ['é', '1']
    slices? text = some (true, octets "0009223372036854775808") ∧
      leadingInteger text = .number (.int (-9223372036854775808) (by decide)) := by
  intro text
  have leads : Leads text ['\u3000', '\t'] ['-'] "0009223372036854775808".toList ['é', '1'] :=
    { whole := by decide
      blank := List.all_eq_true.mp (by decide)
      noBlank := by
        rintro _ ⟨⟩
        decide
      isSign := .inr (.inr rfl)
      digit := List.all_eq_true.mp (by decide)
      noDigit := by
        rintro _ ⟨⟩
        decide }
  have value : signedDecimal ['-'] "0009223372036854775808".toList =
    -9223372036854775808 := by decide +kernel
  obtain ⟨cut, -, spells, -⟩ := (leadingInteger_reference text).2 _ _ _ _ leads
  have spelled := spells (by decide)
  rw [value] at spelled
  exact ⟨cut, spelled.eq_int ⟨by decide, by decide⟩⟩

end CommandBridge
