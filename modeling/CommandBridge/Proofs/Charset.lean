import CommandBridge.Proofs.Utf8
import CommandBridge.Text.Charset

/-! Texts that are read in a declared encoding and written in UTF-8. The octets stay the same just
where no byte order mark stands at their head and they are, in UTF-8, those of a text, or ASCII
alone in the encoding of single octets; in UTF-16 no octets but none stay the same. Of other
encodings nothing is known but how they read. -/
namespace CommandBridge

namespace Utf8

theorem encode_eq_append_iff {cs : List Char} {c : Char} {rest : Bytes} :
    encode cs = String.utf8EncodeChar c ++ rest ↔ ∃ cs', cs = c :: cs' ∧ rest = encode cs' := by
  constructor
  · intro same
    obtain ⟨more, goesOn⟩ := scan_extends [some c] .between rest
    have found : cs.map some = some c :: more.reverse := by
      rw [← units_encode, same, units, scan_encodeChar, goesOn, List.reverse_append]
      rfl
    obtain ⟨c', cs', rfl, first, -⟩ := List.map_eq_cons_iff.mp found
    obtain rfl := Option.some.inj first
    exact ⟨cs', rfl, (List.append_cancel_left same).symm⟩
  · rintro ⟨cs', rfl, rfl⟩
    rfl

theorem head_encode_le (cs : List Char) : ∀ b ∈ (encode cs).head?, b.toNat ≤ 0xF4 := by
  cases cs with
  | nil => exact nofun
  | cons c cs =>
      have valid : c.toNat < 0xD800 ∨ 0xDFFF < c.toNat ∧ c.toNat < 0x110000 := c.valid
      have lead : ∀ n : Nat, n ≤ 0xF4 → n.toUInt8.toNat ≤ 0xF4 := fun n small =>
        Nat.le_trans (Nat.le_of_eq (UInt8.toNat_ofNat_of_lt' (show n < 256 by omega))) small
      rw [encode_cons, encodeChar_eq]
      repeat' split
      all_goals
        rintro _ ⟨⟩
        exact lead _ (by omega)

end Utf8

namespace Charset

/-- Octets that are the same when they are read in an encoding and written in UTF-8, if no byte
order mark stands at their head. -/
def Keeps (charset : Charset) (bytes : Bytes) : Prop :=
  match charset with
  | .utf8 => ∃ cs, bytes = Utf8.encode cs
  | .windows1252 => ∀ b ∈ bytes, b.toNat < 0x80
  | .utf16le | .utf16be => bytes = []
  | .other decoder => Utf8.encode (decoder bytes) = bytes

/-- Octets beyond ASCII, less those within. -/
def weight : Bytes → Int
  | [] => 0
  | b :: bytes => (if b.toNat < 0x80 then -1 else 1) + weight bytes

@[simp] theorem weight_nil : weight [] = 0 := rfl

theorem weight_cons (b : UInt8) (bytes : Bytes) :
    weight (b :: bytes) = (if b.toNat < 0x80 then -1 else 1) + weight bytes := rfl

theorem weight_append (bytes more : Bytes) :
    weight (bytes ++ more) = weight bytes + weight more := by
  induction bytes with
  | nil => exact (Int.zero_add _).symm
  | cons b bytes ih => rw [List.cons_append, weight_cons, weight_cons, ih, Int.add_assoc]

theorem weight_of_not_ascii {bytes : Bytes} (beyond : ∀ b ∈ bytes, 0x80 ≤ b.toNat) :
    weight bytes = bytes.length := by
  induction bytes with
  | nil => rfl
  | cons b bytes ih =>
      rw [List.forall_mem_cons] at beyond
      rw [weight_cons, ih beyond.2, if_neg (Nat.not_lt.mpr beyond.1), List.length_cons]
      omega

section EncodeChar
variable {c : Char}

theorem weight_encodeChar_of_ascii (ascii : c.toNat < 0x80) :
    weight (String.utf8EncodeChar c) = -1 := by
  have number : c.toNat.toUInt8.toNat = c.toNat :=
    UInt8.toNat_ofNat_of_lt' (show _ < 256 by omega)
  rw [Utf8.encodeChar_of_lt ascii, weight_cons, number, if_pos ascii]
  rfl

theorem weight_encodeChar_of_not_ascii (beyond : 0x80 ≤ c.toNat) :
    weight (String.utf8EncodeChar c) =
      if c.toNat < 0x800 then 2 else if c.toNat < 0x10000 then 3 else 4 := by
  rw [weight_of_not_ascii (Utf8.encodeChar_of_not_ascii (Nat.not_lt.mpr beyond)),
    Utf8.encodeChar_eq, if_neg (Nat.not_lt.mpr beyond)]
  split
  · rfl
  split <;> rfl

end EncodeChar

theorem weight_unit_lt {a b : UInt8} {unit : Nat}
    (isUnit : unit = a.toNat * 256 + b.toNat ∨ unit = b.toNat * 256 + a.toNat)
    (whole : unit < 0xD800 ∨ 0xDFFF < unit) :
    weight [a, b] < weight (String.utf8EncodeChar (Char.ofNat unit)) := by
  have small := a.toNat_lt
  have small' := b.toNat_lt
  have valid : unit.isValidChar := whole.imp_right fun beyond => ⟨beyond, by omega⟩
  have number : (Char.ofNat unit).toNat = unit := by
    rw [Char.ofNat, dif_pos valid]
    rfl
  rw [weight_cons, weight_cons, weight_nil]
  by_cases ascii : unit < 0x80
  · rw [weight_encodeChar_of_ascii (by omega), if_pos (by omega), if_pos (by omega)]
    decide
  · rw [weight_encodeChar_of_not_ascii (by omega), number]
    split <;> split <;> split <;> omega

theorem weight_replacement : weight (String.utf8EncodeChar '\uFFFD') = 3 := by decide

theorem toNat_pair {lead trail : Nat} (isLead : 0xD800 ≤ lead ∧ lead ≤ 0xDBFF)
    (isTrail : 0xDC00 ≤ trail ∧ trail ≤ 0xDFFF) :
    0x10000 ≤ (Char.ofNat (0x10000 + (lead - 0xD800) * 0x400 + (trail - 0xDC00))).toNat := by
  rw [Char.ofNat, dif_pos (.inr (by omega))]
  exact Nat.le_trans (Nat.le_add_right ..) (Nat.le_add_right ..)

theorem weight_pair {lead trail : Nat} (isLead : 0xD800 ≤ lead ∧ lead ≤ 0xDBFF)
    (isTrail : 0xDC00 ≤ trail ∧ trail ≤ 0xDFFF) :
    weight (String.utf8EncodeChar
      (Char.ofNat (0x10000 + (lead - 0xD800) * 0x400 + (trail - 0xDC00)))) = 4 := by
  have high := toNat_pair isLead isTrail
  rw [weight_encodeChar_of_not_ascii (by omega), if_neg (by omega), if_neg (by omega)]

theorem weight_two_le (a b : UInt8) : weight [a, b] ≤ 2 := by
  rw [weight_cons, weight_cons, weight_nil]
  split <;> split <;> omega

theorem weight_encode_cons (c : Char) (cs : List Char) :
    weight (Utf8.encode (c :: cs)) = weight (String.utf8EncodeChar c) +
      weight (Utf8.encode cs) := by
  rw [Utf8.encode_cons, weight_append]

theorem units_cons (bigEndian : Bool) (a b : UInt8) (rest : Bytes) :
    ∃ unit, (unit = a.toNat * 256 + b.toNat ∨ unit = b.toNat * 256 + a.toNat) ∧
      units bigEndian (a :: b :: rest) = some unit :: units bigEndian rest := by
  cases bigEndian with
  | true => exact ⟨_, .inl rfl, rfl⟩
  | false => exact ⟨_, .inr rfl, rfl⟩

/-- Octets of UTF-16 weigh no more than the text that they are read as, not even behind a leading
surrogate with its two octets. -/
theorem weight_le (bigEndian : Bool) (bytes : Bytes) :
    weight bytes ≤ weight (Utf8.encode (joinSurrogates none (units bigEndian bytes))) ∧
      ∀ lead, 0xD800 ≤ lead ∧ lead ≤ 0xDBFF →
        2 + weight bytes ≤
          weight (Utf8.encode (joinSurrogates (some lead) (units bigEndian bytes))) := by
  induction bytes using units.induct with
  | case1 =>
      exact ⟨Int.le_refl 0, fun lead _ => show (2 : Int) ≤
        weight (Utf8.encode ['\uFFFD']) by decide⟩
  | case2 a =>
      have light : weight [a] ≤ 1 := by
        rw [weight_cons, weight_nil]
        split <;> omega
      have one : weight (Utf8.encode ['\uFFFD']) = 3 := by decide
      have two : weight (Utf8.encode ['\uFFFD', '\uFFFD']) = 6 := by decide
      refine ⟨show weight [a] ≤ weight (Utf8.encode ['\uFFFD']) by omega, fun lead _ => ?_⟩
      show 2 + weight [a] ≤ weight (Utf8.encode ['\uFFFD', '\uFFFD'])
      omega
  | case3 a b rest ih =>
      obtain ⟨alone, behind⟩ := ih
      obtain ⟨unit, isUnit, next⟩ := units_cons bigEndian a b rest
      have light := weight_two_le a b
      have lighter := weight_unit_lt isUnit
      have split : weight (a :: b :: rest) = weight [a, b] + weight rest :=
        weight_append [a, b] rest
      rw [split, next]
      refine ⟨?_, fun lead isLead => ?_⟩
      · by_cases leads : 0xD800 ≤ unit ∧ unit ≤ 0xDBFF
        · have held := behind unit leads
          simp only [joinSurrogates, leads, decide_true, Bool.and_self, if_true]
          omega
        · by_cases trails : 0xDC00 ≤ unit ∧ unit ≤ 0xDFFF
          · simp only [joinSurrogates, Bool.and_eq_true, decide_eq_true_eq,
              if_neg leads, if_pos trails, weight_encode_cons, weight_replacement]
            omega
          · simp only [joinSurrogates, Bool.and_eq_true, decide_eq_true_eq,
              if_neg leads, if_neg trails, weight_encode_cons]
            have lighter := lighter (by omega)
            omega
      · by_cases trails : 0xDC00 ≤ unit ∧ unit ≤ 0xDFFF
        · simp only [joinSurrogates, Bool.and_eq_true, decide_eq_true_eq, if_pos trails,
            weight_encode_cons, weight_pair isLead trails]
          omega
        · by_cases leads : 0xD800 ≤ unit ∧ unit ≤ 0xDBFF
          · have held := behind unit leads
            simp only [joinSurrogates, Bool.and_eq_true, decide_eq_true_eq,
              if_neg trails, if_pos leads, weight_encode_cons, weight_replacement]
            omega
          · simp only [joinSurrogates, Bool.and_eq_true, decide_eq_true_eq,
              if_neg trails, if_neg leads, weight_encode_cons, weight_replacement]
            have lighter := lighter (by omega)
            omega

/-- Behind a leading surrogate, the next character is a pair or a replacement. -/
theorem joinSurrogates_behind {lead : Nat} (isLead : 0xD800 ≤ lead ∧ lead ≤ 0xDBFF)
    (more : List (Option Nat)) :
    ∃ c cs, joinSurrogates (some lead) more = c :: cs ∧ (c = '\uFFFD' ∨ 0x10000 ≤ c.toNat) := by
  match more with
  | [] => exact ⟨_, _, rfl, .inl rfl⟩
  | none :: more => exact ⟨_, _, rfl, .inl rfl⟩
  | some unit :: more =>
      rw [joinSurrogates]
      split
      · rename_i trails
        rw [Bool.and_eq_true, decide_eq_true_eq, decide_eq_true_eq] at trails
        exact ⟨_, _, rfl, .inr (toNat_pair isLead trails)⟩
      · split
        · exact ⟨_, _, rfl, .inl rfl⟩
        · exact ⟨_, _, rfl, .inl rfl⟩

theorem encodeChar_not_surrogate {c : Char} (isPair : c = '\uFFFD' ∨ 0x10000 ≤ c.toNat) :
    ∃ x y more, String.utf8EncodeChar c = x :: y :: more ∧ 0xEF ≤ x.toNat ∧ y.toNat ≤ 0xBF := by
  rcases isPair with rfl | high
  · exact ⟨_, _, _, rfl, by decide, by decide⟩
  · have valid : c.toNat < 0xD800 ∨ 0xDFFF < c.toNat ∧ c.toNat < 0x110000 := c.valid
    have number : ∀ n : Nat, n < 256 → n.toUInt8.toNat = n := fun n => UInt8.toNat_ofNat_of_lt'
    rw [Utf8.encodeChar_eq, if_neg (by omega), if_neg (by omega), if_neg (by omega)]
    refine ⟨_, _, _, rfl, ?_, ?_⟩
    · rw [number _ (by omega)]
      omega
    · rw [number _ (by omega)]
      omega

/-- No octets of UTF-16 but none are the text that they are read as. -/
theorem eq_nil_of_joinSurrogates {bigEndian : Bool} {bytes : Bytes}
    (same : Utf8.encode (joinSurrogates none (units bigEndian bytes)) = bytes) : bytes = [] := by
  match bytes with
  | [] => rfl
  | [a] =>
      have longer : 3 = 1 := congrArg List.length same
      cases longer
  | a :: b :: rest =>
      obtain ⟨unit, isUnit, next⟩ := units_cons bigEndian a b rest
      have small := a.toNat_lt
      have small' := b.toNat_lt
      by_cases leads : 0xD800 ≤ unit ∧ unit ≤ 0xDBFF
      · obtain ⟨c, cs, text, isPair⟩ := joinSurrogates_behind leads (units bigEndian rest)
        obtain ⟨x, y, more, octets, first, second⟩ := encodeChar_not_surrogate isPair
        simp only [next, joinSurrogates, leads, decide_true, Bool.and_self, if_true, text,
          Utf8.encode_cons, octets, List.cons_append, List.cons.injEq] at same
        obtain ⟨rfl, rfl, -⟩ := same
        omega
      · -- Anything else weighs more than its two octets, and what is behind it weighs no less.
        obtain ⟨alone, -⟩ := weight_le bigEndian rest
        have split : weight (a :: b :: rest) = weight [a, b] + weight rest :=
        weight_append [a, b] rest
        have weighs := congrArg weight same
        rw [next] at weighs
        by_cases trails : 0xDC00 ≤ unit ∧ unit ≤ 0xDFFF
        · have light := weight_two_le a b
          simp only [joinSurrogates, Bool.and_eq_true, decide_eq_true_eq,
            if_neg leads, if_pos trails, weight_encode_cons, weight_replacement] at weighs
          omega
        · have lighter := weight_unit_lt isUnit (by omega)
          simp only [joinSurrogates, Bool.and_eq_true, decide_eq_true_eq,
            if_neg leads, if_neg trails, weight_encode_cons] at weighs
          omega

theorem windows1252Char_ascii_iff (b : UInt8) :
    (windows1252Char b).toNat < 0x80 ↔ b.toNat < 0x80 := by
  have all : ∀ n < 256, (windows1252Char n.toUInt8).toNat < 0x80 ↔ n < 0x80 := by decide +kernel
  have told := all b.toNat b.toNat_lt
  rwa [show b.toNat.toUInt8 = b from UInt8.ofNat_toNat] at told

theorem windows1252Char_ascii {b : UInt8} (ascii : b.toNat < 0x80) :
    String.utf8EncodeChar (windows1252Char b) = [b] := by
  have all : ∀ n < 0x80, String.utf8EncodeChar (windows1252Char n.toUInt8) =
    [n.toUInt8] := by decide
  have told := all b.toNat ascii
  rwa [show b.toNat.toUInt8 = b from UInt8.ofNat_toNat] at told

/-- Octets of single characters weigh less than the text that they are read as, unless they are
ASCII. -/
theorem weight_windows1252 (bytes : Bytes) :
    weight bytes ≤ weight (Utf8.encode (bytes.map windows1252Char)) ∧
      (weight (Utf8.encode (bytes.map windows1252Char)) = weight bytes →
        ∀ b ∈ bytes, b.toNat < 0x80) := by
  induction bytes with
  | nil => exact ⟨Int.le_refl 0, nofun⟩
  | cons b bytes ih =>
      rw [List.map_cons, weight_encode_cons, weight_cons]
      by_cases ascii : b.toNat < 0x80
      · rw [if_pos ascii, weight_encodeChar_of_ascii ((windows1252Char_ascii_iff b).mpr ascii)]
        exact ⟨by omega, fun same => List.forall_mem_cons.mpr ⟨ascii, ih.2 (by omega)⟩⟩
      · have beyond := mt (windows1252Char_ascii_iff b).mp ascii
        have heavier : 2 ≤ weight (String.utf8EncodeChar (windows1252Char b)) := by
          rw [weight_encodeChar_of_not_ascii (Nat.not_lt.mp beyond)]
          split
          · decide
          · split <;> decide
        rw [if_neg ascii]
        exact ⟨by omega, fun same => by omega⟩

theorem encode_windows1252_eq_iff {bytes : Bytes} :
    Utf8.encode (bytes.map windows1252Char) = bytes ↔ ∀ b ∈ bytes, b.toNat < 0x80 := by
  refine ⟨fun same => (weight_windows1252 bytes).2 (congrArg weight same), fun ascii => ?_⟩
  induction bytes with
  | nil => rfl
  | cons b bytes ih =>
      rw [List.forall_mem_cons] at ascii
      rw [List.map_cons, Utf8.encode_cons, windows1252Char_ascii ascii.1, ih ascii.2]
      rfl

theorem encode_decode_ne_of_marked {bytes rest : Bytes} {charset : Charset}
    (marked : marked? bytes = some (charset, rest)) (declared : Charset) :
    Utf8.encode (declared.decode bytes) ≠ bytes := by
  intro same
  have short := Utf8.head_encode_le (declared.decode bytes)
  rw [same] at short
  rw [decode, marked] at same
  unfold marked? at marked
  split at marked
  · cases marked
    obtain ⟨cs, text, whole⟩ := Utf8.encode_eq_append_iff (c := '\uFEFF').mp same
    have read : Utf8.decodeLossy rest = '\uFEFF' :: cs := text
    rw [whole, Utf8.decodeLossy_encode] at read
    exact absurd (congrArg List.length read) (by simp)
  · exact absurd (short 0xFF rfl) (by decide)
  · exact absurd (short 0xFE rfl) (by decide)
  · cases marked

/-- Octets that are read in an encoding and written in UTF-8 stay the same just where they begin
with no byte order mark and the encoding keeps them. -/
theorem encode_decode_eq_iff {declared : Charset} {bytes : Bytes} :
    Utf8.encode (declared.decode bytes) = bytes ↔ marked? bytes = none ∧ declared.Keeps bytes := by
  cases marked : marked? bytes with
  | some told =>
      have changed := encode_decode_ne_of_marked marked declared
      simp [changed]
  | none =>
      rw [decode, marked]
      cases declared with
      | utf8 =>
          refine ⟨fun same => ⟨rfl, _, same.symm⟩, ?_⟩
          rintro ⟨-, cs, rfl⟩
          exact congrArg Utf8.encode (Utf8.decodeLossy_encode cs)
      | utf16le =>
          refine ⟨fun same => ⟨rfl, eq_nil_of_joinSurrogates same⟩, ?_⟩
          rintro ⟨-, rfl⟩
          rfl
      | utf16be =>
          refine ⟨fun same => ⟨rfl, eq_nil_of_joinSurrogates same⟩, ?_⟩
          rintro ⟨-, rfl⟩
          rfl
      | windows1252 =>
          exact ⟨fun same => ⟨rfl, encode_windows1252_eq_iff.mp same⟩,
            fun kept => encode_windows1252_eq_iff.mpr kept.2⟩
      | other decoder => exact (and_iff_right rfl).symm

end Charset

end CommandBridge
