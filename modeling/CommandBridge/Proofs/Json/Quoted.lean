import CommandBridge.Json.Printer
import CommandBridge.Json.Reader
import CommandBridge.Proofs.Utf8

/-! A string that was written is read back: what stands for one character, whether itself or an
escape, brings the octets of that character, and the octets of all characters make up the string. -/
namespace CommandBridge

namespace Json

/-- An octet that stands for itself in a string. -/
def IsPlain (b : UInt8) : Prop := b ≠ Octet.quote ∧ b ≠ Octet.backslash ∧ ¬ b < 0x20

theorem isPlain_toUInt8 {n : Nat} (small : n < 256) (high : 0x20 ≤ n) (notQuote : n ≠ 0x22)
    (notBackslash : n ≠ 0x5C) : IsPlain n.toUInt8 := by
  have same : n.toUInt8.toNat = n := UInt8.toNat_ofNat_of_lt' small
  refine ⟨?_, ?_, ?_⟩
  · intro quote
    rw [quote] at same
    exact notQuote same.symm
  · intro backslash
    rw [backslash] at same
    exact notBackslash same.symm
  · rw [UInt8.lt_iff_toNat_lt, same]
    exact Nat.not_lt.mpr high

theorem isPlain_encodeChar {c : Char} (high : 0x20 ≤ c.toNat) (notQuote : c.toNat ≠ 0x22)
    (notBackslash : c.toNat ≠ 0x5C) : ∀ b ∈ String.utf8EncodeChar c, IsPlain b := by
  by_cases ascii : c.toNat < 0x80
  · rw [Utf8.encodeChar_of_lt ascii]
    exact List.forall_mem_singleton.mpr (isPlain_toUInt8 (by omega) high notQuote notBackslash)
  · intro b within
    have beyond := Utf8.encodeChar_of_not_ascii ascii b within
    have same : b.toNat.toUInt8 = b := UInt8.ofNat_toNat
    rw [← same]
    exact isPlain_toUInt8 b.toNat_lt (by omega) (by omega) (by omega)

theorem stringTail_plain {bs : Bytes} (plain : ∀ b ∈ bs, IsPlain b) (found rest : Bytes) :
    stringTail 0 found (bs ++ rest) = stringTail 0 (bs.reverse ++ found) rest := by
  induction bs generalizing found with
  | nil => rfl
  | cons b bs ih =>
      obtain ⟨notQuote, notBackslash, high⟩ := plain b List.mem_cons_self
      rw [List.cons_append, stringTail, if_neg notQuote, if_neg notBackslash, if_neg high,
        ih fun b' within => plain b' (List.mem_cons_of_mem b within)]
      simp

theorem stringTail_skip (skipped found rest : Bytes) :
    stringTail skipped.length found (skipped ++ rest) = stringTail 0 found rest := by
  induction skipped with
  | nil => rfl
  | cons b bs ih => exact ih

theorem stringTail_backslash {c : Char} {rest : Bytes} (bs : Bytes)
    (reads : readEscape (bs ++ rest) = .ok (c, bs.length)) (found : Bytes) :
    stringTail 0 found (Octet.backslash :: (bs ++ rest)) =
      stringTail 0 ((String.utf8EncodeChar c).reverse ++ found) rest := by
  rw [stringTail, if_neg (by decide), if_pos rfl, reads]
  exact stringTail_skip bs _ rest

theorem hexValue?_hexDigit : ∀ n < 16, Octet.hexValue? (hexDigit n).toNat.toUInt8 = some n ∧
    (hexDigit n).toNat < 0x80 := by decide

theorem hexUnit_control {n : Nat} (low : n < 0x20) (rest : Bytes) :
    hexUnit (0x30 :: 0x30 :: (hexDigit (n / 16)).toNat.toUInt8 ::
      (hexDigit (n % 16)).toNat.toUInt8 :: rest) =
      .ok n := by
  have zero : Octet.hexValue? 0x30 = some 0 := by decide
  have value : ((0 * 16 + 0) * 16 + n / 16) * 16 + n % 16 = n := by omega
  simp only [hexUnit, zero, (hexValue?_hexDigit (n / 16) (by omega)).1,
    (hexValue?_hexDigit (n % 16) (by omega)).1, value]

theorem readEscape_control {c : Char} (low : c.toNat < 0x20) (rest : Bytes) :
    readEscape (Octet.smallU :: 0x30 :: 0x30 :: (hexDigit (c.toNat / 16)).toNat.toUInt8 ::
      (hexDigit (c.toNat % 16)).toNat.toUInt8 :: rest) = .ok (c, 5) := by
  have plain : plainEscape? Octet.smallU = none := by decide
  have notTrailing : (0xDC00 ≤ c.toNat && c.toNat ≤ 0xDFFF) = false := by simp; omega
  have notLeading : (0xD800 ≤ c.toNat && c.toNat ≤ 0xDBFF) = false := by simp; omega
  have unit := hexUnit_control low rest
  simp only [readEscape, plain, if_true, unicodeEscape, unit, bind, Except.bind,
    notTrailing, notLeading, Bool.false_eq_true, if_false, Char.ofNat_toNat]

theorem encode_control (c : Char) :
    Utf8.encode ['\\', 'u', '0', '0', hexDigit (c.toNat / 16 % 16), hexDigit (c.toNat % 16)] =
      Octet.backslash :: Octet.smallU :: 0x30 :: 0x30 ::
        (hexDigit (c.toNat / 16 % 16)).toNat.toUInt8 ::
        [(hexDigit (c.toNat % 16)).toNat.toUInt8] := by
  have small := fun n below => Utf8.encodeChar_of_lt (hexValue?_hexDigit n below).2
  rw [Utf8.encode_cons, Utf8.encode_cons, Utf8.encode_cons, Utf8.encode_cons, Utf8.encode_cons,
    Utf8.encode_cons, small _ (Nat.mod_lt _ (by decide)), small _ (Nat.mod_lt _ (by decide))]
  rfl

/-- The octets that stand for a character in a string bring the octets of the character. -/
theorem stringTail_escape (c : Char) (found rest : Bytes) :
    stringTail 0 found (Utf8.encode (escape c) ++ rest) =
      stringTail 0 ((String.utf8EncodeChar c).reverse ++ found) rest := by
  unfold escape
  split
  · subst c
    exact stringTail_backslash [Octet.quote] rfl found
  split
  · subst c
    exact stringTail_backslash [Octet.backslash] rfl found
  split
  · rename_i low
    split
    · subst c
      exact stringTail_backslash [Octet.smallN] rfl found
    split
    · subst c
      exact stringTail_backslash [Octet.smallR] rfl found
    split
    · subst c
      exact stringTail_backslash [Octet.smallT] rfl found
    split
    · subst c
      exact stringTail_backslash [Octet.smallB] rfl found
    split
    · subst c
      exact stringTail_backslash [Octet.smallF] rfl found
    have digit : c.toNat / 16 % 16 = c.toNat / 16 := Nat.mod_eq_of_lt (by omega)
    rw [← digit, encode_control, digit]
    exact stringTail_backslash [_, _, _, _, _] (readEscape_control low rest) found
  · rename_i notQuote notBackslash high
    rw [Utf8.encode_cons, Utf8.encode_nil, List.append_nil]
    refine stringTail_plain (isPlain_encodeChar (Nat.not_lt.mp high) ?_ ?_) found rest
    · intro same
      exact notQuote (Char.toNat_inj.mp same)
    · intro same
      exact notBackslash (Char.toNat_inj.mp same)

theorem stringTail_encode (cs : List Char) (found rest : Bytes) :
    stringTail 0 found (Utf8.encode (cs.flatMap escape) ++ Octet.quote :: rest) =
      .ok (found.reverse ++ Utf8.encode cs, rest) := by
  induction cs generalizing found with
  | nil => rw [List.flatMap_nil, Utf8.encode_nil, List.nil_append, stringTail,
      if_pos rfl, List.append_nil]
  | cons c cs ih =>
      rw [List.flatMap_cons, Utf8.encode_append, List.append_assoc, stringTail_escape,
        ih, Utf8.encode_cons]
      simp

/-- A string that was written is read back. -/
theorem readString_encode (s : String) (rest : Bytes) :
    readString (Utf8.encode (s.toList.flatMap escape) ++ Octet.quote :: rest) = .ok (s, rest) := by
  rw [readString, stringTail_encode]
  simp only [List.reverse_nil, List.nil_append, Utf8.decode?_encode, String.ofList_toList]

theorem encode_quoted (s : String) :
    Utf8.encode (quoted s) =
      Octet.quote :: (Utf8.encode (s.toList.flatMap escape) ++ [Octet.quote]) := by
  rw [quoted, Utf8.encode_append, Utf8.encode_cons]
  rfl

end Json

end CommandBridge
