import CommandBridge.Message
import CommandBridge.Proofs.Json.Literals
import CommandBridge.Proofs.LeadingInteger
import CommandBridge.Proofs.Presentation
import CommandBridge.Proofs.Scientific

/-! The two spellings of an integer in a time field: as a literal, and as a string of its digits.
Where a word of 64 bits holds the integer, with a sign or without, a dashboard is shown the same
value of both. -/
namespace CommandBridge

/-- A sequence with one place left open, which is the value of a field in one of its records. -/
structure OpenSequence where
  before : List Json
  front : Members
  field : String
  back : Members
  after : List Json

theorem plainText_string (s : String) : plainText (.string s) = s.toList := rfl

theorem plainText_number (n : Number) : plainText (.number n) = Json.numberText n := rfl

namespace OpenSequence

def fill (s : OpenSequence) (v : Json) : Json :=
  .array (s.before ++ .object (s.front ++ (s.field, v) :: s.back) :: s.after)

theorem fill_injective {s : OpenSequence} {v w : Json} (same : s.fill v = s.fill w) : v = w := by
  simpa [fill] using same

def normalize (s : OpenSequence) : OpenSequence :=
  ⟨s.before.map normalizeItem, normalizeMembers s.front, s.field, normalizeMembers s.back,
    s.after.map normalizeItem⟩

theorem timed_fill {s : OpenSequence} (isTime : s.field ∈ timeFields) (v : Json) :
    Payload.timed (s.fill v) = s.normalize.fill (leadingInteger (plainText v)) := by
  have contains : timeFields.contains s.field = true := List.contains_iff_mem.mpr isTime
  have record : normalizeItem (.object (s.front ++ (s.field, v) :: s.back)) =
      .object (normalizeMembers s.front ++ (s.field, leadingInteger (plainText v)) ::
          normalizeMembers s.back) := by
    simp only [normalizeItem, normalizeMembers, List.map_append, List.map_cons, contains, if_true]
  rw [fill, fill, Payload.timed, List.map_append, List.map_cons, record]
  rfl

theorem settle_fill {s : OpenSequence} (isTime : s.field ∈ timeFields) {text : String} {v : Json}
    (reads : Payload.parse? text = some (s.fill v)) (command : Command) :
    command.settle .manager (.done (.raw text)) =
      .exec none ⟨command.method, s.normalize.fill (leadingInteger (plainText v)), command.id⟩ := by
  have shown : (Payload.raw text).decoded.normalize.toJson =
      s.normalize.fill (leadingInteger (plainText v)) := by
    rw [Payload.toJson_normalize_decoded, Payload.toJson_raw_of_some reads, timed_fill isTime]
  rw [← shown]
  rfl

end OpenSequence

section Signed

theorem isBlank_of_isDigit {c : Char} (digit : c.isDigit = true) : Text.isBlank c = false := by
  rw [Char.isDigit_iff_toNat] at digit
  have range : 48 ≤ c.toNat ∧ c.toNat ≤ 57 := digit
  simp [Text.isBlank, Text.blankRanges]
  omega

theorem leads_signed (negative : Bool) {digits : List Char} (digit : ∀ c ∈ digits, c.isDigit = true)
    (some : digits ≠ []) (tail : List Char) (noDigit : ∀ c ∈ tail.head?, c.isDigit = false) :
    Leads ((if negative then ['-'] else []) ++ (digits ++ tail)) [] (if negative then ['-']
      else []) digits tail := by
  obtain ⟨first, rest, rfl⟩ := List.exists_cons_of_ne_nil some
  have isDigit := digit first (.head _)
  refine ⟨rfl, nofun, ?_, ?_, digit, noDigit⟩
  · cases negative with
    | true =>
        rintro _ ⟨⟩
        decide
    | false =>
        rintro _ ⟨⟩
        exact isBlank_of_isDigit isDigit
  · cases negative with
    | true => exact .inr (.inr rfl)
    | false =>
        refine .inl ⟨rfl, ?_⟩
        rintro _ ⟨⟩
        constructor
        · rintro rfl
          cases isDigit
        · rintro rfl
          cases isDigit

theorem decimal_toDigits (n : ℕ) : decimal (Nat.toDigits 10 n) = n := by
  have folded : digitsValue (Nat.toDigits 10 n) = Nat.ofDigitChars 10 (Nat.toDigits 10 n) 0 := by
    rw [digitsValue, Nat.ofDigitChars_eq_foldl]
    refine List.foldl_ext _ _ 0 fun value c _ => ?_
    rw [Nat.mul_comm]
    rfl
  rw [← digitsValue_eq, folded, Nat.ofDigitChars_ten_toDigits]

theorem leadingInteger_integerText (n : ℤ) : Spells n (leadingInteger (Json.integerText n)) := by
  have leads := leads_signed (n < 0) (Json.isDigit_toDigits n.natAbs) Nat.toDigits_ne_nil [] nofun
  have text : (if decide (n < 0) = true then ['-'] else []) ++ (Nat.toDigits 10 n.natAbs ++ []) =
      Json.integerText n := by
    rw [Json.integerText, List.append_nil]
    by_cases negative : n < 0 <;> simp [negative]
  have value : signedDecimal (if decide (n < 0) = true then ['-']
      else []) (Nat.toDigits 10 n.natAbs) = n := by
    rw [signedDecimal, decimal_toDigits]
    by_cases negative : n < 0
    · rw [decide_eq_true negative, if_pos rfl, if_pos rfl]
      omega
    · rw [decide_eq_false negative, if_neg Bool.false_ne_true, if_neg (by decide)]
      omega
  have spells := leads.leadingInteger_spells Nat.toDigits_ne_nil
  rwa [text, value] at spells

/-- The integer at the head of a large double's text is the first digit of it. -/
theorem leadingInteger_large {d : Double} (large : 100000000000000000 ≤ d.magnitude) :
    ∃ (first : ℕ) (rest : List Char), 1 ≤ first ∧ first ≤ 9 ∧
      Json.numberText (.double d) = (if d.negative then ['-'] else []) ++ first.digitChar :: rest ∧
      ∃ inRange, leadingInteger (Json.numberText (.double d)) =
        .number (.int (if d.negative then -first else first) inRange) := by
  obtain ⟨c, rest, text, digit, notZero, next⟩ := Decimal.text_large large
  have behind : ∀ c ∈ rest.head?, c.isDigit = false := by
    intro c within
    rcases next c within with rfl | rfl <;> decide
  have leads := leads_signed d.negative (List.forall_mem_singleton.mpr digit)
    (List.cons_ne_nil c []) rest behind
  have spells := leads.leadingInteger_spells (List.cons_ne_nil c [])
  obtain ⟨first, rfl, least, most, number⟩ : ∃ first : ℕ, c = first.digitChar ∧
    1 ≤ first ∧ first ≤ 9 ∧
      decimal [first.digitChar] = first := by
    have digits : ∀ k < 10, k.digitChar.toNat = k + '0'.toNat ∧
      decimal [k.digitChar] = k := by decide
    rw [Char.isDigit_iff_toNat] at digit
    have range : '0'.toNat ≤ c.toNat ∧ c.toNat ≤ '0'.toNat + 9 := digit
    obtain ⟨same, number⟩ := digits (c.toNat - '0'.toNat) (by omega)
    have isDigit : c = (c.toNat - '0'.toNat).digitChar := Char.toNat_inj.mp (by omega)
    have notNone : c.toNat ≠ '0'.toNat := fun zero => notZero (Char.toNat_inj.mp zero)
    exact ⟨c.toNat - '0'.toNat, isDigit, by omega, by omega, number⟩
  have value : signedDecimal (if d.negative = true then ['-'] else []) [first.digitChar] =
      if d.negative = true then -(first : ℤ) else first := by
    rw [signedDecimal, number]
    cases d.negative <;> rfl
  rw [value, List.singleton_append, ← text] at spells
  exact ⟨first, rest, least, most, text, _, spells.eq_int (by split <;> omega)⟩

end Signed

/-- Where a word holds an integer, signed or unsigned, a dashboard is shown one value of its two
spellings: the integer, or the double that it is rounded to. From twenty-two digits on the text of
the double that the literal is read as begins with one digit and a sign that is none, and that digit
is what is shown. -/
theorem spelled_alike {s : OpenSequence} {n : ℤ} {v : Json} {text text' : String}
    (isTime : s.field ∈ timeFields)
    (literal : Json.read (octets (String.ofList (Json.integerText n))) = .ok v)
    (asNumber : Payload.parse? text = some (s.fill v))
    (asString : Payload.parse? text' = some (s.fill (.string (String.ofList (Json.integerText n)))))
    (command : Command) :
    ∃ shown shown', command.settle .manager (.done (.raw text)) =
        .exec none ⟨command.method, s.normalize.fill shown, command.id⟩ ∧
      command.settle .manager (.done (.raw text')) =
        .exec none ⟨command.method, s.normalize.fill shown', command.id⟩ ∧
      Spells n shown' ∧
      (-9223372036854775808 ≤ n ∧ n < 18446744073709551616 → shown = shown') ∧
      (1000000000000000000000 ≤ n.natAbs → ∃ (d : Double) (first : ℕ) (rest : List Char),
        v = .number (.double d) ∧ 1 ≤ first ∧ first ≤ 9 ∧
        Json.numberText (.double d) = (if n < 0 then ['-'] else []) ++ first.digitChar :: rest ∧
        ∃ inRange, shown = .number (.int (if n < 0 then -first else first) inRange)) := by
  have string : plainText (.string (String.ofList (Json.integerText n))) = Json.integerText n :=
    (plainText_string _).trans String.toList_ofList
  have told := OpenSequence.settle_fill isTime asNumber command
  have told' := OpenSequence.settle_fill isTime asString command
  rw [string] at told'
  refine ⟨_, _, told, told', leadingInteger_integerText n, ?_, ?_⟩
  · intro fits
    rw [Json.read_integerText_word literal fits, plainText_number, Json.numberText]
  · intro large
    obtain ⟨d, isDouble, sign, size⟩ := Json.read_integerText_large literal large
    obtain ⟨first, rest, least, most, written, shown⟩ := leadingInteger_large size
    simp only [sign, decide_eq_true_eq] at written shown
    refine ⟨d, first, rest, isDouble, least, most, written, ?_⟩
    rwa [isDouble, plainText_number]

def OpenSequence.oneTime (field : String) : OpenSequence := ⟨[], [], field, [], []⟩

section OneTime
variable (field : String)

theorem parse?_asNumber {n : ℤ} {v : Json}
    (literal : Json.read (octets (String.ofList (Json.integerText n))) = .ok v) :
    Payload.parse? (Json.oneMemberText field (Json.integerText n)) =
      some ((OpenSequence.oneTime field).fill v) := by
  obtain ⟨m, -, rfl⟩ := Json.read_integerText_iff.mp literal
  rw [octets, String.toList_ofList] at literal
  have reads := Json.read_oneMemberText field fun bound depth more ends =>
    Json.readValue_of_read (Json.isBlank_integerText n) literal bound depth ends
  rw [Payload.parse?, reads]
  rfl

theorem parse?_asString (s : String) :
    Payload.parse? (Json.oneMemberText field (Json.quoted s)) =
      some ((OpenSequence.oneTime field).fill (.string s)) := by
  have reads := Json.read_oneMemberText field (Json.gets_quoted s)
  rw [Payload.parse?, reads]
  rfl

end OneTime

/-- The greatest integer of an unsigned word is shown alike, however it is spelled. -/
theorem spelled_alike_greatest :
    let command : Command := ⟨"getHistory", .null, .number (.int 8 (by decide))⟩
    command.settle .manager (.done (.raw "[\x7b\"endTime\":18446744073709551615\x7d]")) =
      command.settle .manager (.done (.raw "[\x7b\"endTime\":\"18446744073709551615\"\x7d]")) := by
  intro command
  have literal : Json.read (octets (String.ofList (Json.integerText 18446744073709551615))) =
      .ok (.number (.int 18446744073709551615 (by decide))) := by
    rw [octets, String.toList_ofList]
    exact Number.readsBack_int _ _
  have asNumber := parse?_asNumber "endTime" literal
  have asString := parse?_asString "endTime" (String.ofList (Json.integerText 18446744073709551615))
  obtain ⟨shown, shown', told, told', -, alike, -⟩ :=
    spelled_alike (by decide) literal asNumber asString command
  have text : Json.oneMemberText "endTime" (Json.integerText 18446744073709551615) =
      "[\x7b\"endTime\":18446744073709551615\x7d]" := by decide +kernel
  have text' : Json.oneMemberText "endTime"
      (Json.quoted (String.ofList (Json.integerText 18446744073709551615))) =
      "[\x7b\"endTime\":\"18446744073709551615\"\x7d]" := by decide +kernel
  rw [text] at told
  rw [text'] at told'
  rw [told, told', alike ⟨by decide, by decide⟩]

/-- The first digit of a large double is not the integer of twenty-two digits or more that it came
from. -/
theorem leadingInteger_apart {d : Double} (large : 100000000000000000 ≤ d.magnitude) {n : ℤ}
    (wide : 1000000000000000000000 ≤ n.natAbs) :
    leadingInteger (Json.numberText (.double d)) ≠ leadingInteger (Json.integerText n) := by
  obtain ⟨first, -, -, -, -, inRange, shown⟩ := leadingInteger_large large
  have spells := leadingInteger_integerText n
  intro same
  rw [← same, shown] at spells
  generalize isInt : Json.number (.int _ inRange) = v at spells
  cases spells with
  | int fits => omega
  | double d => cases isInt
  | infinite => cases isInt

/-- A one with twenty-one zeros is shown as one where it is spelled as a literal, and as itself
where it is spelled as a string. -/
theorem spelled_apart :
    let command : Command := ⟨"getHistory", .null, .number (.int 8 (by decide))⟩
    let text := "[\x7b\"startTime\":1000000000000000000000\x7d]"
    let text' := "[\x7b\"startTime\":\"1000000000000000000000\"\x7d]"
    (∃ v, Json.read (octets (String.ofList (Json.integerText 1000000000000000000000))) = .ok v ∧
      Payload.parse? text = some ((OpenSequence.oneTime "startTime").fill v)) ∧
    Payload.parse? text' = some ((OpenSequence.oneTime "startTime").fill
      (.string (String.ofList (Json.integerText 1000000000000000000000)))) ∧
    command.settle .manager (.done (.raw text)) ≠ command.settle .manager (.done (.raw text')) := by
  intro command text text'
  have literal := (Json.read_integerText_iff (n := 1000000000000000000000)).mpr
    ⟨.double ⟨false, 7629394531250000, 17, by decide⟩, by decide +kernel, rfl⟩
  have asNumber := parse?_asNumber "startTime" literal
  have asString :=
    parse?_asString "startTime" (String.ofList (Json.integerText 1000000000000000000000))
  have isText : Json.oneMemberText "startTime" (Json.integerText 1000000000000000000000) =
      text := by
    decide +kernel
  have isText' : Json.oneMemberText "startTime"
      (Json.quoted (String.ofList (Json.integerText 1000000000000000000000))) =
        text' := by decide +kernel
  rw [isText] at asNumber
  rw [isText'] at asString
  refine ⟨⟨_, literal, asNumber⟩, asString, ?_⟩
  have told := OpenSequence.settle_fill (by decide) asNumber command
  have told' := OpenSequence.settle_fill (by decide) asString command
  rw [plainText_number] at told
  rw [plainText_string, String.toList_ofList] at told'
  have large : 100000000000000000 ≤ Double.magnitude ⟨false, 7629394531250000, 17, by decide⟩ := by
    norm_num [Double.magnitude]
  have apart := leadingInteger_apart large (n := 1000000000000000000000) (by decide)
  intro same
  rw [told, told'] at same
  injection same with _ same
  injection same with _ same
  exact apart (OpenSequence.fill_injective same)

end CommandBridge
