import CommandBridge.Proofs.Utf8
import CommandBridge.Text.Percent

/-! Percent escapes undone. A text in which the characters of a set are escaped is undone to the
same octets as the text itself, as long as the set leaves alone what escapes are made of. -/
namespace CommandBridge.Percent

def IsHex (c : Char) : Prop := c.toNat < 0x80 ∧ (Octet.hexValue? c.toNat.toUInt8).isSome

/-- A set without the characters that escapes are made of. -/
def Spares (inSet : Char → Bool) : Prop := ∀ c, inSet c = true → c ≠ '%' ∧ ¬ IsHex c

/-- Octets that do not begin with a digit of an escape. -/
def Blunt (bytes : Bytes) : Prop := ∀ b ∈ bytes.head?, Octet.hexValue? b = none

theorem decodeFrom_eq (skip : Nat) (bytes : Bytes) :
    decodeFrom skip bytes = decode (bytes.drop skip) := by
  induction skip generalizing bytes with
  | zero => rfl
  | succ skip ih =>
      cases bytes with
      | nil => simp [decodeFrom, decode]
      | cons b rest => exact ih rest

theorem decode_cons_of_ne {b : UInt8} (ne : b ≠ Octet.percent) (rest : Bytes) :
    decode (b :: rest) = b :: decode rest := by
  rw [decode, decodeFrom, if_neg ne]
  rfl

theorem decode_percent (rest : Bytes) :
    decode (Octet.percent :: rest) =
      match escape? rest with
      | some octet => octet :: decode (rest.drop 2)
      | none => Octet.percent :: decode rest := by
  rw [decode, decodeFrom, if_pos rfl]
  cases escape? rest with
  | some octet => exact congrArg (octet :: ·) (decodeFrom_eq 2 rest)
  | none => rfl

theorem length_decode_le (bytes : Bytes) : (decode bytes).length ≤ bytes.length := by
  suffices all : ∀ skip, (decodeFrom skip bytes).length ≤ bytes.length from all 0
  intro skip
  fun_induction decodeFrom skip bytes with
  | case1 => exact Nat.le_refl _
  | case2 _ _ _ ih => exact Nat.le_succ_of_le ih
  | case3 _ _ _ ih => exact Nat.succ_le_succ ih
  | case4 _ _ ih => exact Nat.succ_le_succ ih
  | case5 _ _ _ ih => exact Nat.succ_le_succ ih

theorem hexValue?_of_not_ascii {b : UInt8} (beyond : 0x80 ≤ b.toNat) :
    Octet.hexValue? b = none := by
  have notDigit : ¬ Octet.isDigit b = true := by
    simp [Octet.isDigit, UInt8.le_iff_toNat_le]
    omega
  have notLower : ¬ (0x61 ≤ b ∧ b ≤ 0x66) := by
    simp only [UInt8.le_iff_toNat_le, UInt8.reduceToNat]
    omega
  have notUpper : ¬ (0x41 ≤ b ∧ b ≤ 0x46) := by
    simp only [UInt8.le_iff_toNat_le, UInt8.reduceToNat]
    omega
  simp [Octet.hexValue?, notDigit, notLower, notUpper]

theorem ne_percent_of_mem {c : Char} (ne : c ≠ '%') :
    ∀ b ∈ String.utf8EncodeChar c, b ≠ Octet.percent := by
  intro b within
  by_cases ascii : c.toNat < 0x80
  · rw [Utf8.encodeChar_of_lt ascii, List.mem_singleton] at within
    rintro rfl
    have number : c.toNat.toUInt8.toNat = c.toNat :=
      UInt8.toNat_ofNat_of_lt' (show _ < 256 by omega)
    have same : c.toNat = 0x25 := by
      rw [← number, ← within]
      rfl
    exact ne (Char.toNat_inj.mp same)
  · rintro rfl
    exact absurd (Utf8.encodeChar_of_not_ascii ascii _ within) (by decide)

theorem decode_append_of_ne {bytes : Bytes} (ne : ∀ b ∈ bytes, b ≠ Octet.percent) (rest : Bytes) :
    decode (bytes ++ rest) = bytes ++ decode rest := by
  induction bytes with
  | nil => rfl
  | cons b bytes ih =>
      rw [List.forall_mem_cons] at ne
      rw [List.cons_append, decode_cons_of_ne ne.1, ih ne.2]
      rfl

theorem upperDigit_hex :
    ∀ n < 16, String.utf8EncodeChar (upperDigit n) = [(upperDigit n).toNat.toUInt8] ∧
    Octet.hexValue? (upperDigit n).toNat.toUInt8 = some n := by
  decide

theorem decode_escapeOctet (b : UInt8) (rest : Bytes) :
    decode (Utf8.encode (escapeOctet b) ++ rest) = b :: decode rest := by
  have small : b.toNat < 256 := b.toNat_lt
  obtain ⟨highOctets, high⟩ := upperDigit_hex (b.toNat / 16) (by omega)
  obtain ⟨lowOctets, low⟩ := upperDigit_hex (b.toNat % 16) (by omega)
  have octets : Utf8.encode (escapeOctet b) ++ rest =
      Octet.percent :: (upperDigit (b.toNat / 16)).toNat.toUInt8 ::
        (upperDigit (b.toNat % 16)).toNat.toUInt8 :: rest := by
    rw [escapeOctet, Utf8.encode_cons, Utf8.encode_cons, Utf8.encode_cons, highOctets, lowOctets]
    rfl
  have whole : (b.toNat / 16 * 16 + b.toNat % 16).toUInt8 = b := by
    rw [Nat.div_add_mod' b.toNat 16]
    exact UInt8.ofNat_toNat
  rw [octets, decode_percent]
  simp only [escape?, high, low, Option.bind_eq_bind, Option.bind_some, whole, List.drop_succ_cons,
    List.drop_zero]

theorem decode_escapes (bytes rest : Bytes) :
    decode (Utf8.encode (bytes.flatMap escapeOctet) ++ rest) = bytes ++ decode rest := by
  induction bytes with
  | nil => rfl
  | cons b bytes ih =>
      rw [List.flatMap_cons, Utf8.encode_append, List.append_assoc, decode_escapeOctet, ih]
      rfl

theorem Blunt.escape? {bytes : Bytes} (blunt : Blunt bytes) : escape? bytes = none := by
  match bytes, blunt with
  | [], _ => rfl
  | [_], _ => rfl
  | a :: b :: rest, blunt => simp [Percent.escape?, blunt a rfl]

theorem Blunt.escape?_cons {bytes : Bytes} (blunt : Blunt bytes) (a : UInt8) :
    Percent.escape? (a :: bytes) = none := by
  match bytes, blunt with
  | [], _ => rfl
  | b :: rest, blunt => simp [Percent.escape?, blunt b rfl]

theorem blunt_nil : Blunt [] := nofun

theorem blunt_encodeChar {c : Char} (notHex : ¬ IsHex c) (rest : Bytes) :
    Blunt (String.utf8EncodeChar c ++ rest) := by
  cases octets : String.utf8EncodeChar c with
  | nil => exact absurd octets (String.utf8EncodeChar_ne_nil)
  | cons b more =>
      rintro _ ⟨⟩
      by_cases ascii : c.toNat < 0x80
      · rw [Utf8.encodeChar_of_lt ascii] at octets
        cases octets
        exact Option.not_isSome_iff_eq_none.mp fun digit => notHex ⟨ascii, digit⟩
      · exact hexValue?_of_not_ascii (Utf8.encodeChar_of_not_ascii ascii b (octets ▸ .head _))

def written (inSet : Char → Bool) (c : Char) : List Char :=
  if c.toNat < 0x20 || 0x7E < c.toNat || inSet c then (String.utf8EncodeChar c).flatMap escapeOctet
    else [c]

theorem encode_cons (inSet : Char → Bool) (c : Char) (cs : List Char) :
    encode inSet (c :: cs) = written inSet c ++ encode inSet cs := rfl

theorem written_of_hex {inSet : Char → Bool} (spares : Spares inSet) {c : Char} (hex : IsHex c) :
    written inSet c = [c] := by
  have outside : inSet c = false := by
    cases inside : inSet c with
    | true => exact absurd hex (spares c inside).2
    | false => rfl
  have all : ∀ n < 0x80, (Octet.hexValue? n.toUInt8).isSome → 0x20 ≤ n ∧ n ≤ 0x7E := by decide
  obtain ⟨low, high⟩ := all c.toNat hex.1 hex.2
  simp [written, outside]
  omega

theorem written_percent {inSet : Char → Bool} (spares : Spares inSet) :
    written inSet '%' = ['%'] := by
  cases inside : inSet '%' with
  | true => exact absurd rfl (spares '%' inside).1
  | false => simp [written, inside]

theorem blunt_written {c : Char} (notHex : ¬ IsHex c) (inSet : Char → Bool) (rest : Bytes) :
    Blunt (Utf8.encode (written inSet c) ++ rest) := by
  unfold written
  split
  · cases octets : String.utf8EncodeChar c with
    | nil => exact absurd octets (String.utf8EncodeChar_ne_nil)
    | cons b more =>
        rintro _ ⟨⟩
        rfl
  · rw [Utf8.encode_cons, List.append_assoc]
    exact blunt_encodeChar notHex _

/-- A text either begins with two digits of an escape, or neither it nor its escaped form ends an
escape. -/
theorem hex_or_escape?_eq_none (inSet : Char → Bool) (spares : Spares inSet) (cs : List Char) :
    (∃ a b rest, cs = a :: b :: rest ∧ IsHex a ∧ IsHex b) ∨
      (escape? (Utf8.encode cs) = none ∧ escape? (Utf8.encode (encode inSet cs)) = none) := by
  cases cs with
  | nil => exact .inr ⟨rfl, rfl⟩
  | cons a cs =>
      by_cases hex : IsHex a
      · have octets : Utf8.encode (a :: cs) = a.toNat.toUInt8 :: Utf8.encode cs := by
          rw [Utf8.encode_cons, Utf8.encodeChar_of_lt hex.1]
          rfl
        have octets' : Utf8.encode (encode inSet (a :: cs)) =
            a.toNat.toUInt8 :: Utf8.encode (encode inSet cs) := by
          rw [encode_cons, written_of_hex spares hex, List.singleton_append, Utf8.encode_cons,
            Utf8.encodeChar_of_lt hex.1]
          rfl
        rw [octets, octets']
        cases cs with
        | nil => exact .inr ⟨blunt_nil.escape?_cons _, blunt_nil.escape?_cons _⟩
        | cons b cs =>
            by_cases hex' : IsHex b
            · exact .inl ⟨a, b, cs, rfl, hex, hex'⟩
            · refine .inr ⟨(blunt_encodeChar hex' _).escape?_cons _, Blunt.escape?_cons ?_ _⟩
              rw [encode_cons, Utf8.encode_append]
              exact blunt_written hex' inSet _
      · refine .inr ⟨(blunt_encodeChar hex _).escape?, Blunt.escape? ?_⟩
        rw [encode_cons, Utf8.encode_append]
        exact blunt_written hex inSet _

/-- Escaping more of a text does not change what undoing its escapes gives. -/
theorem decode_encode {inSet : Char → Bool} (spares : Spares inSet) (cs : List Char) :
    decode (Utf8.encode (encode inSet cs)) = decode (Utf8.encode cs) := by
  -- A percent sign may take two more characters with it, so the induction is on the length.
  induction long : cs.length using Nat.strongRecOn generalizing cs with
  | ind n ih =>
    subst long
    cases cs with
    | nil => rfl
    | cons c cs =>
        have shorter := ih cs.length (Nat.lt_succ_self _) cs rfl
        rw [encode_cons, Utf8.encode_append, Utf8.encode_cons]
        by_cases percent : c = '%'
        · subst percent
          have octets : ∀ rest : Bytes, String.utf8EncodeChar '%' ++ rest = Octet.percent :: rest :=
            fun _ => rfl
          rw [written_percent spares, Utf8.encode_cons, Utf8.encode_nil, List.append_nil,
            octets, octets, decode_percent, decode_percent]
          rcases hex_or_escape?_eq_none inSet spares cs with ⟨a, b, rest, rfl, hex, hex'⟩ |
          ⟨plain, plain'⟩
          · have shorter' := ih rest.length (by simp only [List.length_cons]; omega) rest rfl
            have octets : Utf8.encode (a :: b :: rest) =
                a.toNat.toUInt8 :: b.toNat.toUInt8 :: Utf8.encode rest := by
              rw [Utf8.encode_cons, Utf8.encode_cons, Utf8.encodeChar_of_lt hex.1,
                Utf8.encodeChar_of_lt hex'.1]
              rfl
            have octets' : Utf8.encode (encode inSet (a :: b :: rest)) =
                a.toNat.toUInt8 :: b.toNat.toUInt8 :: Utf8.encode (encode inSet rest) := by
              rw [encode_cons, encode_cons, written_of_hex spares hex, written_of_hex spares hex',
                List.singleton_append, List.singleton_append, Utf8.encode_cons, Utf8.encode_cons,
                Utf8.encodeChar_of_lt hex.1, Utf8.encodeChar_of_lt hex'.1]
              rfl
            obtain ⟨high, isHigh⟩ := Option.isSome_iff_exists.mp hex.2
            obtain ⟨low, isLow⟩ := Option.isSome_iff_exists.mp hex'.2
            rw [octets, octets']
            simp only [escape?, isHigh, isLow, Option.bind_eq_bind, Option.bind_some,
              List.drop_succ_cons, List.drop_zero, shorter']
          · rw [plain, plain']
            exact congrArg (Octet.percent :: ·) shorter
        · have none := ne_percent_of_mem percent
          rw [decode_append_of_ne none]
          unfold written
          split
          · rw [decode_escapes, shorter]
          · rw [Utf8.encode_cons, Utf8.encode_nil, List.append_nil, decode_append_of_ne none,
              shorter]

/-- What a text is escaped to: percent signs and digits, and signs of the text that are shown and
not in the set. -/
theorem mem_encode {inSet : Char → Bool} {cs : List Char} {c : Char}
    (within : c ∈ encode inSet cs) :
    c = '%' ∨ (∃ n < 16, c = upperDigit n) ∨ c ∈ cs ∧ 0x20 ≤ c.toNat ∧ c.toNat ≤ 0x7E ∧
    inSet c = false := by
  obtain ⟨d, inText, inWritten⟩ := List.mem_flatMap.mp within
  split at inWritten
  · obtain ⟨b, -, inEscape⟩ := List.mem_flatMap.mp inWritten
    have small : b.toNat < 256 := b.toNat_lt
    simp only [escapeOctet, List.mem_cons, List.not_mem_nil, or_false] at inEscape
    rcases inEscape with sign | high | low
    · exact .inl sign
    · exact .inr (.inl ⟨_, by omega, high⟩)
    · exact .inr (.inl ⟨_, by omega, low⟩)
  · rename_i plain
    obtain rfl := List.mem_singleton.mp inWritten
    simp only [Bool.or_eq_true, decide_eq_true_eq, not_or, Bool.not_eq_true] at plain
    exact .inr (.inr ⟨inText, by omega, by omega, plain.2⟩)

theorem forall_mem_encode {inSet P : Char → Bool} (sign : P '%' = true)
    (digit : ∀ n < 16, P (upperDigit n) = true)
    (plain : ∀ n ≤ 0x7E, 0x20 ≤ n → inSet (Char.ofNat n) = false → P (Char.ofNat n) = true)
    (cs : List Char) :
    ∀ c ∈ encode inSet cs, P c = true := by
  intro c within
  rcases mem_encode within with rfl | ⟨n, small, rfl⟩ | ⟨-, least, most, outside⟩
  · exact sign
  · exact digit n small
  · rw [← Char.ofNat_toNat c] at outside ⊢
    exact plain c.toNat most least outside

theorem slash_not_mem_encode {inSet : Char → Bool} {cs : List Char} (none : '/' ∉ cs) :
    '/' ∉ encode inSet cs := by
  have digit : ∀ n < 16, '/' ≠ upperDigit n := by decide
  intro within
  rcases mem_encode within with sign | ⟨n, small, same⟩ | ⟨inText, -⟩
  · cases sign
  · exact digit n small same
  · exact none inText

end CommandBridge.Percent
