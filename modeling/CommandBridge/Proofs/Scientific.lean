import CommandBridge.Proofs.Json.NumberText
import CommandBridge.Proofs.Rounding

/-! The text of a large double. It stands in scientific notation, so that its first digit is
followed by none. -/
namespace CommandBridge.Decimal

section Digits
variable {n : ℕ}

theorem significant_append (n : ℕ) :
    (significant n).1 ++ List.replicate (significant n).2 '0' = Nat.toDigits 10 n := by
  have zeros : (Nat.toDigits 10 n).reverse.takeWhile (· == '0') =
      List.replicate (significant n).2 '0' :=
    List.eq_replicate_iff.mpr ⟨rfl, fun c within => by simpa using List.mem_takeWhile_imp within⟩
  have parts := congrArg List.reverse
    (List.takeWhile_append_dropWhile (p := (· == '0')) (l := (Nat.toDigits 10 n).reverse))
  rwa [List.reverse_append, List.reverse_reverse, zeros, List.reverse_replicate] at parts

theorem head?_toDigits (positive : n ≠ 0) : (Nat.toDigits 10 n).head? ≠ some '0' := by
  intro zero
  refine Json.head?_digitOctets positive ?_
  rw [Json.digitOctets_eq, List.head?_map, zero]
  rfl

theorem significant_eq_cons (positive : n ≠ 0) :
    ∃ c rest, (significant n).1 = c :: rest ∧ c.isDigit = true ∧ c ≠ '0' := by
  have parts := significant_append n
  have first := head?_toDigits positive
  cases digits : (significant n).1 with
  | nil =>
      rw [digits, List.nil_append] at parts
      cases zeros : (significant n).2 with
      | zero =>
          rw [zeros] at parts
          exact absurd parts.symm Nat.toDigits_ne_nil
      | succ k =>
          rw [zeros, List.replicate_succ] at parts
          exact absurd (by rw [← parts]; rfl) first
  | cons c rest =>
      rw [digits] at parts
      refine ⟨c, rest, rfl, ?_, ?_⟩
      · exact Json.isDigit_toDigits n c (by rw [← parts]; exact .head _)
      · rintro rfl
        exact first (by rw [← parts]; rfl)

theorem lt_pow_significant (n : ℕ) : n < 10 ^ ((significant n).1.length + (significant n).2) := by
  have count := congrArg List.length (significant_append n)
  rw [List.length_append, List.length_replicate] at count
  rw [count, ← Nat.length_toDigits_le_iff (by decide) (List.length_pos_iff.mpr Nat.toDigits_ne_nil)]

end Digits

theorem holds_of_hit? {i : Interval} {power : ℤ} {n : ℕ} (hit : i.hit? power = some n) :
    i.holds power n = true := by
  unfold Interval.hit? at hit
  dsimp only at hit
  split at hit
  · split at hit <;> cases hit <;> assumption
  · cases hit
    assumption
  · cases hit
    assumption
  · cases hit

theorem place_wire {digits : List Char} {e : ℤ} (beyond : 15 < e) :
    Layout.wire.place digits e = scientific digits e := by
  have far : ¬ e ≤ 15 := by omega
  simp [Layout.place, Layout.wire, far]

theorem scientific_cons (c : Char) (rest : List Char) (e : ℤ) : scientific (c :: rest) e =
    c :: ((if rest.isEmpty then [] else '.' :: rest) ++ 'e' :: signedExponent e) := rfl

section Large
variable {d : Double} (large : 100000000000000000 ≤ d.magnitude)
include large

/-- A large double has all its digits, and a power of two behind them. -/
theorem large_parts : 4503599627370496 ≤ d.mantissa ∧
    ∃ k : ℕ, d.exponent = k + 4 ∧ 100000000000000000 ≤ d.mantissa * 2 ^ (k + 4) := by
  have short : (d.mantissa : ℚ) < 9007199254740992 := by exact_mod_cast d.canonical.1
  have raised : 4 ≤ d.exponent := by
    by_contra low
    have unit : (2 : ℚ) ^ d.exponent ≤ 2 ^ (3 : ℤ) := zpow_le_zpow_right₀ one_le_two (by omega)
    have small : d.magnitude ≤ 9007199254740992 * 2 ^ (3 : ℤ) := by
      rw [Double.magnitude]
      gcongr
    norm_num at small
    linarith
  have full := d.canonical.2.2.2.resolve_right (by omega)
  obtain ⟨k, power⟩ := Int.eq_ofNat_of_zero_le (show 0 ≤ d.exponent - 4 by omega)
  refine ⟨full, k, by omega, ?_⟩
  rw [Double.magnitude, show d.exponent = ((k + 4 : ℕ) : ℤ) by omega, zpow_natCast] at large
  exact_mod_cast large

/-- A point in the interval of a large double is large. -/
theorem large_of_holds {power : ℤ} {n : ℕ} (holds : (Interval.of d).holds power n = true) :
    10000000000000000 * 10 ^ (-power).toNat ≤ n * 10 ^ power.toNat := by
  obtain ⟨full, k, exponent, large⟩ := large_parts large
  have low : 2 * d.mantissa ≤ (Interval.of d).low := by
    simp only [Interval.of]
    split <;> omega
  have scale : commonScale power (Interval.of d).exponent =
      (10 ^ power.toNat * 2 ^ 0, 2 ^ (k + 2) * 10 ^ (-power).toNat) := by
    have raised : (Interval.of d).exponent = ((k + 2 : ℕ) : ℤ) := by
      simp only [Interval.of]
      omega
    have lowered : (-((k + 2 : ℕ) : ℤ)).toNat = 0 := by omega
    rw [raised, commonScale, lowered, Int.toNat_natCast]
    rfl
  have above : (Interval.of d).low * (2 ^ (k + 2) * 10 ^ (-power).toNat) ≤
      n * 10 ^ power.toNat := by
    simp only [Interval.holds, scale, pow_zero, Nat.mul_one] at holds
    split at holds
    · simp only [Bool.and_eq_true, decide_eq_true_eq] at holds
      exact holds.1
    · simp only [Bool.and_eq_true, decide_eq_true_eq] at holds
      exact holds.1.le
  refine le_trans ?_ above
  rw [← Nat.mul_assoc]
  refine Nat.mul_le_mul_right _ ?_
  have enough : 2 * d.mantissa * 2 ^ (k + 2) ≤ (Interval.of d).low * 2 ^ (k + 2) :=
    Nat.mul_le_mul_right _ low
  have halves : d.mantissa * 2 ^ (k + 4) = 2 * (2 * d.mantissa * 2 ^ (k + 2)) := by ring
  omega

theorem shortest_large : 10000000000000000 * 10 ^ (-(shortest d).power).toNat ≤
    (shortest d).digits * 10 ^ (shortest d).power.toNat := by
  rw [shortest]
  split
  · rename_i found
    obtain ⟨k, -, found⟩ := List.exists_of_findSome?_eq_some found
    obtain ⟨n, hit, rfl⟩ := Option.map_eq_some_iff.mp found
    exact large_of_holds large (holds_of_hit? hit)
  · have full := (large_parts large).1
    change 10000000000000000 * 1 ≤ 4 * d.mantissa * 1
    omega

/-- The text of a large double: its sign, a digit that is not zero, and what is no digit behind
it. -/
theorem text_large :
    ∃ c rest, Layout.wire.text d = (if d.negative then ['-'] else []) ++ c :: rest ∧
    c.isDigit = true ∧ c ≠ '0' ∧ ∀ next ∈ rest.head?, next = '.' ∨ next = 'e' := by
  have enough := shortest_large large
  have full := (large_parts large).1
  generalize isPoint : shortest d = point at enough
  obtain ⟨digits, power⟩ := point
  dsimp only at enough
  have positive : digits ≠ 0 := by
    rintro rfl
    have some : 0 < 10 ^ (-power).toNat := Nat.pow_pos (by decide)
    omega
  obtain ⟨c, rest, written, digit, notZero⟩ := significant_eq_cons positive
  have notNothing : ¬ d.isZero = true := by
    rw [Double.isZero, beq_iff_eq]
    omega
  have beyond : 15 < power + (significant digits).2 + (significant digits).1.length - 1 := by
    have powers : 10 ^ (16 + (-power).toNat) <
        10 ^ ((significant digits).1.length + (significant digits).2 + power.toNat) := by
      rw [pow_add, pow_add _ (_ + _)]
      exact lt_of_le_of_lt enough (Nat.mul_lt_mul_of_pos_right (lt_pow_significant digits)
        (Nat.pow_pos (by decide)))
    rw [Nat.pow_lt_pow_iff_right (by decide)] at powers
    omega
  refine ⟨c, (if rest.isEmpty then [] else '.' :: rest) ++
    'e' :: signedExponent (power + (significant digits).2 + (significant digits).1.length - 1),
    ?_, digit, notZero, ?_⟩
  · simp only [Layout.text, if_neg notNothing, isPoint, place_wire beyond]
    rw [← scientific_cons, written]
  · cases rest with
    | nil =>
        rintro next ⟨⟩
        exact .inr rfl
    | cons next rest =>
        rintro next ⟨⟩
        exact .inl rfl

end Large

end CommandBridge.Decimal
