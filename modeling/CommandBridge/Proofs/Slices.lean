import CommandBridge.Proofs.Json.NumberText

/-! Slices of a text in octets. A slice that begins or ends within a character, or beyond the end of
the text, is none. Between the octets of two texts there always is one. -/
namespace CommandBridge.Utf8

/-- May a character begin with an octet? All others go on one. -/
def opens (b : UInt8) : Bool := b < 0x80 || 0xC0 ≤ b

def isCut (bytes : Bytes) (place : Nat) : Bool :=
  place = 0 || match bytes[place]? with
    | some b => opens b
    | none => place = bytes.length

def sliceTo? (bytes : Bytes) (place : Nat) : Option Bytes :=
  if isCut bytes place then some (bytes.take place) else none

def sliceFrom? (bytes : Bytes) (place : Nat) : Option Bytes :=
  if isCut bytes place then some (bytes.drop place) else none

theorem opens_toUInt8 {n : Nat} (small : n < 256) (first : n < 0x80 ∨ 0xC0 ≤ n) :
    opens n.toUInt8 = true := by
  have number : n.toUInt8.toNat = n := UInt8.toNat_ofNat_of_lt' small
  simp only [opens, UInt8.lt_iff_toNat_lt, UInt8.le_iff_toNat_le, number]
  simpa using first

theorem encodeChar_opens (c : Char) :
    ∃ b rest, String.utf8EncodeChar c = b :: rest ∧ opens b = true := by
  have valid : c.toNat < 0xD800 ∨ 0xDFFF < c.toNat ∧ c.toNat < 0x110000 := c.valid
  rw [encodeChar_eq]
  split
  · exact ⟨_, _, rfl, opens_toUInt8 (by omega) (by omega)⟩
  split
  · exact ⟨_, _, rfl, opens_toUInt8 (by omega) (by omega)⟩
  split <;> exact ⟨_, _, rfl, opens_toUInt8 (by omega) (by omega)⟩

theorem isCut_encode (cs ds : List Char) : isCut (encode (cs ++ ds)) (encode cs).length = true := by
  rw [isCut, encode_append, List.getElem?_append_right (Nat.le_refl _), Nat.sub_self]
  cases ds with
  | nil => simp
  | cons d ds =>
      obtain ⟨b, rest, octets, first⟩ := encodeChar_opens d
      rw [encode_cons, octets]
      simp [first]

theorem sliceTo?_encode (cs ds : List Char) :
    sliceTo? (encode (cs ++ ds)) (encode cs).length = some (encode cs) := by
  rw [sliceTo?, if_pos (isCut_encode cs ds), encode_append, List.take_left]

theorem sliceFrom?_encode (cs ds : List Char) :
    sliceFrom? (encode (cs ++ ds)) (encode cs).length = some (encode ds) := by
  rw [sliceFrom?, if_pos (isCut_encode cs ds), encode_append, List.drop_left]

theorem head?_encode_iff (sign : Char) (ascii : sign.toNat < 0x80) (cs : List Char) :
    (encode cs).head? = some sign.toNat.toUInt8 ↔ cs.head? = some sign := by
  cases cs with
  | nil => simp
  | cons c cs =>
      have octet : sign.toNat.toUInt8.toNat = sign.toNat :=
        UInt8.toNat_ofNat_of_lt' (show _ < 256 by omega)
      rw [encode_cons]
      by_cases small : c.toNat < 0x80
      · have number : c.toNat.toUInt8.toNat = c.toNat :=
          UInt8.toNat_ofNat_of_lt' (show _ < 256 by omega)
        rw [encodeChar_of_lt small, List.singleton_append, List.head?_cons, List.head?_cons,
          Option.some_inj, Option.some_inj, ← UInt8.toNat_inj, number, octet, Char.toNat_inj]
      · obtain ⟨b, rest, octets, -⟩ := encodeChar_opens c
        have beyond := encodeChar_of_not_ascii small b (octets ▸ .head _)
        rw [octets]
        refine iff_of_false ?_ ?_
        · rintro ⟨⟩
          rw [octet] at beyond
          omega
        · rintro ⟨⟩
          exact small ascii

/-- The digits that lead a text are the octets of digits that lead its octets. -/
theorem takeWhile_isDigit_encode (cs : List Char) :
    (encode cs).takeWhile Octet.isDigit = encode (cs.takeWhile Char.isDigit) := by
  induction cs with
  | nil => rfl
  | cons c cs ih =>
      rw [encode_cons]
      by_cases digit : c.isDigit = true
      · obtain ⟨octets, octet, -⟩ := Json.encode_digit digit
        rw [octets, List.takeWhile_cons_of_pos digit, List.singleton_append,
          List.takeWhile_cons_of_pos octet, ih, encode_cons, octets]
        rfl
      · obtain ⟨b, rest, octets, -⟩ := encodeChar_opens c
        have other : ¬ Octet.isDigit b = true := by
          by_cases small : c.toNat < 0x80
          · rw [encodeChar_of_lt small] at octets
            cases octets
            have number : c.toNat.toUInt8.toNat = c.toNat :=
              UInt8.toNat_ofNat_of_lt' (show _ < 256 by omega)
            rw [Char.isDigit_iff_toNat] at digit
            simp only [Octet.isDigit, UInt8.le_iff_toNat_le, number]
            simpa using digit
          · have beyond := encodeChar_of_not_ascii small b (octets ▸ .head _)
            simp [Octet.isDigit, UInt8.le_iff_toNat_le]
            omega
        rw [octets, List.cons_append, List.takeWhile_cons_of_neg other,
          List.takeWhile_cons_of_neg digit]
        rfl

end CommandBridge.Utf8
