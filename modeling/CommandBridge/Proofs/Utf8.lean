import CommandBridge.Text.Utf8

/-! Reading gives back what was encoded: the octets of a character lead the scan from one place
between two characters to the next and leave that character behind. And it gives back nothing else:
where the scan leaves a character behind, it has gone past the octets of that character. -/
namespace CommandBridge.Utf8

@[simp] theorem encode_nil : encode [] = [] := rfl

theorem encode_cons (c : Char) (cs : List Char) :
    encode (c :: cs) = String.utf8EncodeChar c ++ encode cs := rfl

theorem encode_append (cs ds : List Char) : encode (cs ++ ds) = encode cs ++ encode ds :=
  List.flatMap_append ..

theorem encodeChar_eq (c : Char) : String.utf8EncodeChar c =
    if c.toNat < 0x80 then [c.toNat.toUInt8]
    else if c.toNat < 0x800 then
      [(0xC0 + c.toNat / 0x40).toUInt8, (0x80 + c.toNat % 0x40).toUInt8]
    else if c.toNat < 0x10000 then
      [(0xE0 + c.toNat / 0x1000).toUInt8, (0x80 + c.toNat / 0x40 % 0x40).toUInt8,
        (0x80 + c.toNat % 0x40).toUInt8]
    else
      [(0xF0 + c.toNat / 0x40000).toUInt8, (0x80 + c.toNat / 0x1000 % 0x40).toUInt8,
        (0x80 + c.toNat / 0x40 % 0x40).toUInt8, (0x80 + c.toNat % 0x40).toUInt8] := by
  have valid : c.toNat < 0xD800 ∨ 0xDFFF < c.toNat ∧ c.toNat < 0x110000 := c.valid
  have number : c.val.toNat = c.toNat := rfl
  simp only [String.utf8EncodeChar, number, Nat.toUInt8_eq]
  by_cases one : c.toNat < 0x80
  · rw [if_pos (by omega), if_pos one]
  rw [if_neg (by omega), if_neg one]
  by_cases two : c.toNat < 0x800
  · rw [if_pos (by omega), if_pos two,
      show c.toNat / 64 % 0x20 + 0xC0 = 0xC0 + c.toNat / 0x40 by omega, Nat.add_comm 0x80]
  rw [if_neg (by omega), if_neg two]
  by_cases three : c.toNat < 0x10000
  · rw [if_pos (by omega), if_pos three,
      show c.toNat / 4096 % 0x10 + 0xE0 = 0xE0 + c.toNat / 0x1000 by omega, Nat.add_comm 0x80,
      Nat.add_comm 0x80]
  rw [if_neg (by omega), if_neg three,
    show c.toNat / 262144 % 0x08 + 0xF0 = 0xF0 + c.toNat / 0x40000 by omega, Nat.add_comm 0x80,
    Nat.add_comm 0x80, Nat.add_comm 0x80]

theorem encodeChar_of_lt {c : Char} (small : c.toNat < 0x80) :
    String.utf8EncodeChar c = [c.toNat.toUInt8] := by
  rw [encodeChar_eq, if_pos small]

theorem encodeChar_of_not_ascii {c : Char} (beyond : ¬ c.toNat < 0x80) :
    ∀ b ∈ String.utf8EncodeChar c, 0x80 ≤ b.toNat := by
  have valid : c.toNat < 0xD800 ∨ 0xDFFF < c.toNat ∧ c.toNat < 0x110000 := c.valid
  have part : ∀ n, 0x80 ≤ n → n < 256 → 0x80 ≤ n.toUInt8.toNat :=
    fun n above below => by rwa [UInt8.toNat_ofNat_of_lt' below]
  rw [encodeChar_eq, if_neg beyond]
  split
  · simp only [List.forall_mem_cons]
    exact ⟨part _ (by omega) (by omega), part _ (by omega) (by omega), nofun⟩
  split
  · simp only [List.forall_mem_cons]
    exact ⟨part _ (by omega) (by omega), part _ (by omega) (by omega),
      part _ (by omega) (by omega), nofun⟩
  · simp only [List.forall_mem_cons]
    exact ⟨part _ (by omega) (by omega), part _ (by omega) (by omega),
      part _ (by omega) (by omega), part _ (by omega) (by omega), nofun⟩

/-- A part of a text that takes no fewer octets is all of it. -/
theorem eq_of_sublist {part whole : List Char} (among : part.Sublist whole)
    (long : (encode whole).length ≤ (encode part).length) : part = whole := by
  suffices short : (encode part).length ≤ (encode whole).length ∧
      ((encode part).length = (encode whole).length → part = whole) from
    short.2 (Nat.le_antisymm short.1 long)
  clear long
  induction among with
  | slnil => exact ⟨Nat.le_refl _, fun _ => rfl⟩
  | cons c _ ih =>
      have taken := List.length_pos_iff.mpr (String.utf8EncodeChar_ne_nil (c := c))
      rw [encode_cons, List.length_append]
      exact ⟨by omega, by omega⟩
  | cons_cons c _ ih =>
      rw [encode_cons, encode_cons, List.length_append, List.length_append]
      exact ⟨by omega, fun same => by rw [ih.2 (by omega)]⟩

theorem opening_toUInt8 {n : Nat} (small : n < 256) : opening n.toUInt8 =
    if n < 0x80 then .char (Char.ofNat n)
    else if n < 0xC2 then .stray
    else if n < 0xE0 then .lead (n - 0xC0) 0 0x80 0xBF
    else if n = 0xE0 then .lead 0 1 0xA0 0xBF
    else if n = 0xED then .lead 0xD 1 0x80 0x9F
    else if n < 0xF0 then .lead (n - 0xE0) 1 0x80 0xBF
    else if n = 0xF0 then .lead 0 2 0x90 0xBF
    else if n < 0xF4 then .lead (n - 0xF0) 2 0x80 0xBF
    else if n = 0xF4 then .lead 4 2 0x80 0x8F
    else .stray := by
  have number : n.toUInt8.toNat = n := UInt8.toNat_ofNat_of_lt' small
  simp only [opening, UInt8.lt_iff_toNat_lt, ← UInt8.toNat_inj, number, UInt8.reduceToNat]

section Scan
variable {n bits owed : Nat} {low high : UInt8} (found : List (Option Char)) (rest : Bytes)

theorem scan_char (small : n < 0x80) :
    scan found .between (n.toUInt8 :: rest) = scan (some (Char.ofNat n) :: found)
      .between rest := by
  have brings := opening_toUInt8 (n := n) (by omega)
  rw [if_pos small] at brings
  simp only [scan, advance, openWith, brings]

theorem scan_lead (brings : opening n.toUInt8 = .lead bits owed low high) :
    scan found .between (n.toUInt8 :: rest) = scan found (.inside bits owed low high) rest := by
  simp only [scan, advance, openWith, brings]

theorem scan_inside (small : n < 256) (above : low.toNat ≤ n) (below : n ≤ high.toNat) :
    scan found (.inside bits (owed + 1) low high) (n.toUInt8 :: rest) =
      scan found (.inside (bits * 0x40 + (n - 0x80)) owed 0x80 0xBF) rest := by
  have number : n.toUInt8.toNat = n := UInt8.toNat_ofNat_of_lt' small
  simp only [scan, advance, UInt8.le_iff_toNat_le, number, above, below, decide_true, Bool.and_self,
    if_true]

theorem scan_last (small : n < 256) (above : low.toNat ≤ n) (below : n ≤ high.toNat) :
    scan found (.inside bits 0 low high) (n.toUInt8 :: rest) =
      scan (some (Char.ofNat (bits * 0x40 + (n - 0x80))) :: found) .between rest := by
  have number : n.toUInt8.toNat = n := UInt8.toNat_ofNat_of_lt' small
  simp only [scan, advance, UInt8.le_iff_toNat_le, number, above, below, decide_true, Bool.and_self,
    if_true]

end Scan

theorem scan_two {n : Nat} (above : 0x80 ≤ n) (below : n < 0x800) (found : List (Option Char))
    (rest : Bytes) :
    scan found .between ((0xC0 + n / 0x40).toUInt8 :: (0x80 + n % 0x40).toUInt8 :: rest) =
      scan (some (Char.ofNat n) :: found) .between rest := by
  have brings : opening (0xC0 + n / 0x40).toUInt8 = .lead (n / 0x40) 0 0x80 0xBF := by
    rw [opening_toUInt8 (by omega), if_neg (by omega), if_neg (by omega), if_pos (by omega),
      Nat.add_sub_cancel_left]
  have whole : n / 0x40 * 0x40 + (0x80 + n % 0x40 - 0x80) = n := by omega
  rw [scan_lead _ _ brings, scan_last _ _ (by omega) (by simp) (by simp; omega), whole]

/-- The lead of three octets. The second one is kept in the range that leaves out overlong forms and
surrogates. -/
theorem opening_three {n : Nat} (above : 0x800 ≤ n) (below : n < 0x10000)
    (valid : n < 0xD800 ∨ 0xDFFF < n) :
    ∃ low high, opening (0xE0 + n / 0x1000).toUInt8 = .lead (n / 0x1000) 1 low high ∧
      low.toNat ≤ 0x80 + n / 0x40 % 0x40 ∧ 0x80 + n / 0x40 % 0x40 ≤ high.toNat := by
  rw [opening_toUInt8 (by omega), if_neg (by omega), if_neg (by omega), if_neg (by omega)]
  by_cases first : n / 0x1000 = 0
  · refine ⟨0xA0, 0xBF, ?_, ?_, ?_⟩
    · rw [if_pos (by omega), first]
    · simp
      omega
    · simp
      omega
  · rw [if_neg (by omega)]
    by_cases below : n / 0x1000 = 0xD
    · refine ⟨0x80, 0x9F, ?_, ?_, ?_⟩
      · rw [if_pos (by omega), below]
      · simp
      · simp
        omega
    · refine ⟨0x80, 0xBF, ?_, ?_, ?_⟩
      · rw [if_neg (by omega), if_pos (by omega), Nat.add_sub_cancel_left]
      · simp
      · simp
        omega

theorem opening_four {n : Nat} (above : 0x10000 ≤ n) (below : n < 0x110000) :
    ∃ low high, opening (0xF0 + n / 0x40000).toUInt8 = .lead (n / 0x40000) 2 low high ∧
      low.toNat ≤ 0x80 + n / 0x1000 % 0x40 ∧ 0x80 + n / 0x1000 % 0x40 ≤ high.toNat := by
  rw [opening_toUInt8 (by omega), if_neg (by omega), if_neg (by omega), if_neg (by omega),
    if_neg (by omega), if_neg (by omega), if_neg (by omega)]
  by_cases first : n / 0x40000 = 0
  · refine ⟨0x90, 0xBF, ?_, ?_, ?_⟩
    · rw [if_pos (by omega), first]
    · simp
      omega
    · simp
      omega
  · rw [if_neg (by omega)]
    by_cases last : n / 0x40000 = 4
    · refine ⟨0x80, 0x8F, ?_, ?_, ?_⟩
      · rw [if_neg (by omega), if_pos (by omega), last]
      · simp
      · simp
        omega
    · refine ⟨0x80, 0xBF, ?_, ?_, ?_⟩
      · rw [if_pos (by omega), Nat.add_sub_cancel_left]
      · simp
      · simp
        omega

theorem scan_three {n : Nat} (above : 0x800 ≤ n) (below : n < 0x10000)
    (valid : n < 0xD800 ∨ 0xDFFF < n) (found : List (Option Char)) (rest : Bytes) :
    scan found .between ((0xE0 + n / 0x1000).toUInt8 :: (0x80 + n / 0x40 % 0x40).toUInt8 ::
        (0x80 + n % 0x40).toUInt8 :: rest) =
      scan (some (Char.ofNat n) :: found) .between rest := by
  obtain ⟨low, high, brings, least, most⟩ := opening_three above below valid
  have whole : (n / 0x1000 * 0x40 + (0x80 + n / 0x40 % 0x40 - 0x80)) * 0x40 +
      (0x80 + n % 0x40 - 0x80) = n := by omega
  rw [scan_lead _ _ brings, scan_inside _ _ (by omega) least most,
    scan_last _ _ (by omega) (by simp) (by simp; omega), whole]

theorem scan_four {n : Nat} (above : 0x10000 ≤ n) (below : n < 0x110000)
    (found : List (Option Char)) (rest : Bytes) :
    scan found .between ((0xF0 + n / 0x40000).toUInt8 :: (0x80 + n / 0x1000 % 0x40).toUInt8 ::
        (0x80 + n / 0x40 % 0x40).toUInt8 :: (0x80 + n % 0x40).toUInt8 :: rest) =
      scan (some (Char.ofNat n) :: found) .between rest := by
  obtain ⟨low, high, brings, least, most⟩ := opening_four above below
  have whole : ((n / 0x40000 * 0x40 + (0x80 + n / 0x1000 % 0x40 - 0x80)) * 0x40 +
      (0x80 + n / 0x40 % 0x40 - 0x80)) * 0x40 + (0x80 + n % 0x40 - 0x80) = n := by omega
  rw [scan_lead _ _ brings, scan_inside _ _ (by omega) least most,
    scan_inside _ _ (by omega) (by simp) (by simp; omega),
    scan_last _ _ (by omega) (by simp) (by simp; omega), whole]

theorem scan_encodeChar (c : Char) (found : List (Option Char)) (rest : Bytes) :
    scan found .between (String.utf8EncodeChar c ++ rest) =
      scan (some c :: found) .between rest := by
  have valid : c.toNat < 0xD800 ∨ 0xDFFF < c.toNat ∧ c.toNat < 0x110000 := c.valid
  have same : Char.ofNat c.toNat = c := Char.ofNat_toNat c
  rw [encodeChar_eq]
  split
  · rw [List.singleton_append, scan_char _ _ ‹_›, same]
  · split
    · simp only [List.cons_append, List.nil_append]
      rw [scan_two (by omega) ‹_›, same]
    · split
      · simp only [List.cons_append, List.nil_append]
        rw [scan_three (by omega) ‹_› (by omega), same]
      · simp only [List.cons_append, List.nil_append]
        rw [scan_four (by omega) (by omega), same]

theorem scan_encode (cs : List Char) (found : List (Option Char)) :
    scan found .between (encode cs) = (cs.map some).reverse ++ found := by
  induction cs generalizing found with
  | nil => rfl
  | cons c cs ih =>
      rw [encode_cons, scan_encodeChar]
      exact (ih (some c :: found)).trans (by simp)

theorem units_encode (cs : List Char) : units (encode cs) = cs.map some := by
  rw [units, scan_encode, List.append_nil, List.reverse_reverse]

theorem decodeLossy_encode (cs : List Char) : decodeLossy (encode cs) = cs := by
  rw [decodeLossy, units_encode, List.map_map]
  exact List.map_id cs

/-- What was encoded is well formed and is read as it was. -/
theorem decode?_encode (cs : List Char) : decode? (encode cs) = some cs := by
  have sound : (cs.map some).all Option.isSome = true := by simp
  have same : (cs.map some).filterMap id = cs := by simp
  simp only [decode?, units_encode, sound, same, if_true]

section Spelled
variable {n : Nat} {b c d e : UInt8}

theorem encodeChar_two (above : 0x80 ≤ n) (below : n < 0x800) (lead : 0xC0 + n / 0x40 = b.toNat)
    (last : 0x80 + n % 0x40 = c.toNat) : String.utf8EncodeChar (Char.ofNat n) = [b, c] := by
  have valid : n.isValidChar := .inl (by omega)
  have number : (Char.ofNat n).toNat = n := by
    rw [Char.ofNat, dif_pos valid]
    rfl
  have beyond : ¬ n < 0x80 := by omega
  rw [encodeChar_eq, number, if_neg beyond, if_pos below, lead, last]
  simp only [Nat.toUInt8_eq, UInt8.ofNat_toNat]

theorem encodeChar_three (above : 0x800 ≤ n) (below : n < 0x10000)
    (valid : n < 0xD800 ∨ 0xDFFF < n) (lead : 0xE0 + n / 0x1000 = b.toNat)
    (middle : 0x80 + n / 0x40 % 0x40 = c.toNat) (last : 0x80 + n % 0x40 = d.toNat) :
    String.utf8EncodeChar (Char.ofNat n) = [b, c, d] := by
  have valid : n.isValidChar := valid.imp_right fun beyond => ⟨beyond, by omega⟩
  have number : (Char.ofNat n).toNat = n := by
    rw [Char.ofNat, dif_pos valid]
    rfl
  have notOne : ¬ n < 0x80 := by omega
  have notTwo : ¬ n < 0x800 := by omega
  rw [encodeChar_eq, number, if_neg notOne, if_neg notTwo, if_pos below, lead, middle, last]
  simp only [Nat.toUInt8_eq, UInt8.ofNat_toNat]

theorem encodeChar_four (above : 0x10000 ≤ n) (below : n < 0x110000)
    (lead : 0xF0 + n / 0x40000 = b.toNat) (second : 0x80 + n / 0x1000 % 0x40 = c.toNat)
    (third : 0x80 + n / 0x40 % 0x40 = d.toNat) (last : 0x80 + n % 0x40 = e.toNat) :
    String.utf8EncodeChar (Char.ofNat n) = [b, c, d, e] := by
  have valid : n.isValidChar := .inr ⟨by omega, below⟩
  have number : (Char.ofNat n).toNat = n := by
    rw [Char.ofNat, dif_pos valid]
    rfl
  have notOne : ¬ n < 0x80 := by omega
  have notTwo : ¬ n < 0x800 := by omega
  have notThree : ¬ n < 0x10000 := by omega
  rw [encodeChar_eq, number, if_neg notOne, if_neg notTwo, if_neg notThree,
    lead, second, third, last]
  simp only [Nat.toUInt8_eq, UInt8.ofNat_toNat]

end Spelled

/-- Octets have begun a character: the bits read so far and as many octets more as are owed, each in
its range, make up the character that all of the octets encode. -/
def Begins (begun : Bytes) : Nat → Nat → UInt8 → UInt8 → Prop
  | bits, 0, low, high => ∀ b : UInt8, low.toNat ≤ b.toNat → b.toNat ≤ high.toNat →
      String.utf8EncodeChar (Char.ofNat (bits * 0x40 + (b.toNat - 0x80))) = begun ++ [b]
  | bits, owed + 1, low, high => ∀ b : UInt8, low.toNat ≤ b.toNat → b.toNat ≤ high.toNat →
      Begins (begun ++ [b]) (bits * 0x40 + (b.toNat - 0x80)) owed 0x80 0xBF

section Begins
variable {b low high : UInt8} {bits : Nat}

theorem begins_two (lead : b.toNat = 0xC0 + bits) (above : 2 ≤ bits) (below : bits < 0x20) :
    Begins [b] bits 0 0x80 0xBF := by
  rw [Begins]
  intro c least most
  simp only [UInt8.reduceToNat] at least most
  exact encodeChar_two (by omega) (by omega) (by omega) (by omega)

theorem begins_three (lead : b.toNat = 0xE0 + bits) (below : bits ≤ 0xF)
    (within : 0x80 ≤ low.toNat ∧ high.toNat ≤ 0xBF) (long : bits = 0 → 0xA0 ≤ low.toNat)
    (valid : bits = 0xD → high.toNat ≤ 0x9F) : Begins [b] bits 1 low high := by
  rw [Begins]
  intro c least most
  rw [Begins]
  intro d least' most'
  simp only [UInt8.reduceToNat] at least' most'
  exact encodeChar_three (by omega) (by omega) (by omega) (by omega) (by omega) (by omega)

theorem begins_four (lead : b.toNat = 0xF0 + bits) (below : bits ≤ 4)
    (within : 0x80 ≤ low.toNat ∧ high.toNat ≤ 0xBF) (long : bits = 0 → 0x90 ≤ low.toNat)
    (valid : bits = 4 → high.toNat ≤ 0x8F) : Begins [b] bits 2 low high := by
  rw [Begins]
  intro c least most
  rw [Begins]
  intro d least' most'
  rw [Begins]
  intro e least'' most''
  simp only [UInt8.reduceToNat] at least' most' least'' most''
  exact encodeChar_four (by omega) (by omega) (by omega) (by omega) (by omega) (by omega)

end Begins

theorem begins_of_lead {b : UInt8} {bits owed : Nat} {low high : UInt8}
    (leads : opening b = .lead bits owed low high) : Begins [b] bits owed low high := by
  have told := opening_toUInt8 b.toNat_lt
  have same : b.toNat.toUInt8 = b := UInt8.ofNat_toNat
  rw [same, leads] at told
  split at told
  · cases told
  split at told
  · cases told
  split at told
  · obtain ⟨number, rfl, rfl, rfl⟩ := Opening.lead.inj told
    exact begins_two (by omega) (by omega) (by omega)
  split at told
  · obtain ⟨number, rfl, rfl, rfl⟩ := Opening.lead.inj told
    exact begins_three (by omega) (by omega) (by decide) (fun _ => by decide) (by omega)
  split at told
  · obtain ⟨number, rfl, rfl, rfl⟩ := Opening.lead.inj told
    exact begins_three (by omega) (by omega) (by decide) (by omega) (fun _ => by decide)
  split at told
  · obtain ⟨number, rfl, rfl, rfl⟩ := Opening.lead.inj told
    exact begins_three (by omega) (by omega) (by decide) (by omega) (by omega)
  split at told
  · obtain ⟨number, rfl, rfl, rfl⟩ := Opening.lead.inj told
    exact begins_four (by omega) (by omega) (by decide) (fun _ => by decide) (by omega)
  split at told
  · obtain ⟨number, rfl, rfl, rfl⟩ := Opening.lead.inj told
    exact begins_four (by omega) (by omega) (by decide) (by omega) (by omega)
  split at told
  · obtain ⟨number, rfl, rfl, rfl⟩ := Opening.lead.inj told
    exact begins_four (by omega) (by omega) (by decide) (by omega) (fun _ => by decide)
  · cases told

theorem openWith_extends (found : List (Option Char)) (b : UInt8) :
    ∃ more, (openWith found b).1 = more ++ found := by
  unfold openWith
  split
  · exact ⟨[some _], rfl⟩
  · exact ⟨[], rfl⟩
  · exact ⟨[none], rfl⟩

theorem advance_extends (found : List (Option Char)) (place : Place) (b : UInt8) :
    ∃ more, (advance found place b).1 = more ++ found := by
  unfold advance
  split
  · exact openWith_extends found b
  split
  · dsimp only
    split
    · exact ⟨[some _], rfl⟩
    · exact ⟨[], rfl⟩
  · obtain ⟨more, same⟩ := openWith_extends (none :: found) b
    exact ⟨more ++ [none], by rw [same, List.append_assoc]; rfl⟩

theorem scan_cons (found : List (Option Char)) (place : Place) (b : UInt8) (rest : Bytes) :
    scan found place (b :: rest) =
      scan (advance found place b).1 (advance found place b).2 rest := by
  cases place <;> rfl

/-- What a scan has found stays at the end of its findings. -/
theorem scan_extends (found : List (Option Char)) (place : Place) (bytes : Bytes) :
    ∃ more, scan found place bytes = more ++ found := by
  induction bytes generalizing found place with
  | nil =>
      cases place with
      | between => exact ⟨[], rfl⟩
      | inside bits owed low high => exact ⟨[none], rfl⟩
  | cons b rest ih =>
      obtain ⟨more, further⟩ := advance_extends found place b
      obtain ⟨more', later⟩ := ih (advance found place b).1 (advance found place b).2
      exact ⟨more' ++ more, by rw [scan_cons, later, further, List.append_assoc]⟩

theorem scan_broken {b : UInt8} {low high : UInt8} (outside : ¬ (low ≤ b ∧ b ≤ high))
    (bits owed : Nat) (found : List (Option Char)) (rest : Bytes) :
    ∃ more, scan found (.inside bits owed low high) (b :: rest) = more ++ none :: found := by
  have marks : advance found (.inside bits owed low high) b = openWith (none :: found) b := by
    simp [advance, outside]
  obtain ⟨more, opened⟩ := openWith_extends (none :: found) b
  obtain ⟨more', later⟩ :=
    scan_extends (openWith (none :: found) b).1 (openWith (none :: found) b).2 rest
  exact ⟨more' ++ more, by rw [scan_cons, marks, later, opened, List.append_assoc]⟩

/-- A scan inside a character either finishes it or marks it. -/
theorem scan_of_begins {begun : Bytes} {bits owed : Nat} {low high : UInt8}
    (begins : Begins begun bits owed low high) (found : List (Option Char)) (bytes : Bytes) :
    (∃ more, scan found (.inside bits owed low high) bytes = more ++ none :: found) ∨
      ∃ c more rest, bytes = more ++ rest ∧ String.utf8EncodeChar c = begun ++ more ∧
        scan found (.inside bits owed low high) bytes = scan (some c :: found) .between rest := by
  induction owed generalizing begun bits low high bytes with
  | zero =>
      rw [Begins] at begins
      cases bytes with
      | nil => exact .inl ⟨[], rfl⟩
      | cons b rest =>
          by_cases within : low ≤ b ∧ b ≤ high
          · refine .inr ⟨_, [b], rest, rfl, begins b within.1 within.2, ?_⟩
            simp [scan, advance, within]
          · exact .inl (scan_broken within ..)
  | succ owed ih =>
      rw [Begins] at begins
      cases bytes with
      | nil => exact .inl ⟨[], rfl⟩
      | cons b rest =>
          by_cases within : low ≤ b ∧ b ≤ high
          · have goesOn : scan found (.inside bits (owed + 1) low high) (b :: rest) =
                scan found (.inside (bits * 0x40 + (b.toNat - 0x80)) owed 0x80 0xBF) rest := by
              simp [scan, advance, within]
            rw [goesOn]
            rcases ih (begins b within.1 within.2) rest with marked |
              ⟨c, more, rest', rfl, whole, finished⟩
            · exact .inl marked
            · refine .inr ⟨c, b :: more, rest', rfl, ?_, finished⟩
              rw [whole, List.append_assoc, List.singleton_append]
          · exact .inl (scan_broken within ..)

/-- A scan between two characters either goes past a whole one or marks what it meets. -/
theorem scan_between (found : List (Option Char)) (b : UInt8) (rest : Bytes) :
    (∃ more, scan found .between (b :: rest) = more ++ none :: found) ∨
      ∃ c rest', b :: rest = String.utf8EncodeChar c ++ rest' ∧
        scan found .between (b :: rest) = scan (some c :: found) .between rest' := by
  cases leads : opening b with
  | char c =>
      have same : b.toNat.toUInt8 = b := UInt8.ofNat_toNat
      have told := opening_toUInt8 b.toNat_lt
      rw [same, leads] at told
      have small : b.toNat < 0x80 := by
        by_cases small : b.toNat < 0x80
        · exact small
        · rw [if_neg small] at told
          repeat' split at told
          all_goals cases told
      rw [if_pos small] at told
      have number : (Char.ofNat b.toNat).toNat = b.toNat := by
        rw [Char.ofNat, dif_pos (.inl (by omega))]
        rfl
      obtain rfl := Opening.char.inj told
      refine .inr ⟨Char.ofNat b.toNat, rest, ?_, ?_⟩
      · rw [encodeChar_of_lt (by omega), number, same, List.singleton_append]
      · simp only [scan, advance, openWith, leads]
  | lead bits owed low high =>
      have inside : scan found .between (b :: rest) =
          scan found (.inside bits owed low high) rest := by
        simp only [scan, advance, openWith, leads]
      rw [inside]
      rcases scan_of_begins (begins_of_lead leads) found rest with marked |
        ⟨c, more, rest', rfl, whole, finished⟩
      · exact .inl marked
      · exact .inr ⟨c, rest', by rw [whole, List.append_assoc]; rfl, finished⟩
  | stray =>
      obtain ⟨more, same⟩ := scan_extends (none :: found) .between rest
      refine .inl ⟨more, ?_⟩
      rw [← same]
      simp only [scan, advance, openWith, leads]

/-- Octets in which a scan marks nothing encode the characters that it finds. -/
theorem eq_encode_of_scan {cs : List Char} {found : List (Option Char)} {bytes : Bytes}
    (clean : scan found .between bytes = (cs.map some).reverse ++ found) : bytes = encode cs := by
  induction cs generalizing found bytes with
  | nil =>
      cases bytes with
      | nil => rfl
      | cons b rest =>
          rcases scan_between found b rest with ⟨more, marked⟩ | ⟨c, rest', -, goesOn⟩
          · have longer := congrArg List.length (marked.symm.trans clean)
            simp at longer
            omega
          · obtain ⟨more, stays⟩ := scan_extends (some c :: found) .between rest'
            have longer := congrArg List.length (stays.symm.trans (goesOn.symm.trans clean))
            simp at longer
            omega
  | cons c cs ih =>
      rw [List.map_cons, List.reverse_cons, List.append_assoc, List.singleton_append] at clean
      cases bytes with
      | nil =>
          have longer := congrArg List.length clean
          simp [scan] at longer
          omega
      | cons b rest =>
          rcases scan_between found b rest with ⟨more, marked⟩ | ⟨c', rest', whole, goesOn⟩
          · have same := List.append_inj_right' (marked.symm.trans clean) rfl
            cases same
          · obtain ⟨more, stays⟩ := scan_extends (some c' :: found) .between rest'
            have same := List.append_inj_right' (stays.symm.trans (goesOn.symm.trans clean)) rfl
            obtain rfl : c' = c := Option.some.inj (List.cons.inj same).1
            rw [whole, encode_cons, ih (goesOn.symm.trans clean)]

theorem map_some_filterMap {units : List (Option Char)} (sound : units.all Option.isSome = true) :
    (units.filterMap id).map some = units := by
  induction units with
  | nil => rfl
  | cons unit units ih =>
      cases unit with
      | none => cases sound
      | some c => simpa using ih (by simpa using sound)

/-- Octets are read as characters just where they encode them. -/
theorem decode?_eq_some_iff {bytes : Bytes} {cs : List Char} :
    decode? bytes = some cs ↔ bytes = encode cs := by
  constructor
  · intro decoded
    unfold decode? at decoded
    dsimp only at decoded
    split at decoded
    · rename_i sound
      have clean : scan [] .between bytes = (cs.map some).reverse ++ [] := by
        rw [List.append_nil, ← Option.some.inj decoded, map_some_filterMap sound,
          units, List.reverse_reverse]
      exact eq_encode_of_scan clean
    · cases decoded
  · rintro rfl
    exact decode?_encode cs

theorem octets_inj {s t : String} : octets s = octets t ↔ s = t := by
  refine ⟨fun same => ?_, congrArg octets⟩
  have read : some s.toList = some t.toList := by
    rw [← decode?_encode s.toList, ← decode?_encode t.toList]
    exact congrArg decode? same
  exact String.toList_inj.mp (Option.some.inj read)

end CommandBridge.Utf8
