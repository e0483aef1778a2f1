import CommandBridge.Decimal.Double
import Mathlib.Algebra.Order.Field.Power
import Mathlib.Algebra.Order.Field.Rat
import Mathlib.Tactic.FieldSimp
import Mathlib.Tactic.Linarith
import Mathlib.Tactic.Positivity
import Mathlib.Tactic.Ring

/-! Rounding to doubles. A quotient of natural numbers becomes the double that is nearest to it, the
even one of two that are equally near, and nothing from the midpoint on between the greatest double
and the next power of two. -/
namespace CommandBridge

namespace Double

def magnitude (d : Double) : ℚ := d.mantissa * 2 ^ d.exponent

def value (d : Double) : ℚ := if d.negative then -d.magnitude else d.magnitude

/-- A double to which a number is rounded: none is nearer to it, and where another one is as near,
the mantissa is even. -/
structure RoundsTo (x : ℚ) (d : Double) : Prop where
  nearest : ∀ other : Double, |x - d.value| ≤ |x - other.value|
  even : ∀ other : Double, |x - other.value| = |x - d.value| → other.value ≠ d.value →
    d.mantissa % 2 = 0

/-- Half a last place above the greatest double. -/
def overflow : ℚ := (2 ^ 54 - 1) * 2 ^ (970 : ℤ)

end Double

namespace Decimal

theorem scale_quotient (num den : ℕ) (e : ℤ) :
    ((scale num den e).1 : ℚ) / (scale num den e).2 = num / den * 2 ^ (-e) := by
  obtain ⟨k, rfl | rfl⟩ := e.eq_nat_or_neg
  · simp [scale, div_eq_mul_inv, mul_assoc, mul_comm]
  · simp [scale, div_mul_eq_mul_div]

theorem scale_pos (num : ℕ) {den : ℕ} (some : 0 < den) (e : ℤ) : 0 < (scale num den e).2 :=
  Nat.mul_pos some (Nat.pow_pos (by decide))

/-- Rounding goes no farther than half a step, and half a step only to an even number. -/
theorem roundHalfEven_near (num : ℕ) {den : ℕ} (some : 0 < den) :
    |(num / den : ℚ) - roundHalfEven num den| ≤ 1 / 2 ∧
      (|(num / den : ℚ) - roundHalfEven num den| = 1 / 2 → roundHalfEven num den % 2 = 0) := by
  have positive : (0 : ℚ) < den := by exact_mod_cast some
  have less : ((num % den : ℕ) : ℚ) < den := by exact_mod_cast Nat.mod_lt num some
  have parts : (num / den : ℚ) = (num / den : ℕ) + (num % den : ℕ) / den := by
    have whole : (num : ℚ) = den * (num / den : ℕ) + (num % den : ℕ) := by
      exact_mod_cast (Nat.div_add_mod num den).symm
    nth_rewrite 1 [whole]
    rw [add_div, mul_div_cancel_left₀ _ positive.ne']
  rw [parts, roundHalfEven]
  generalize num / den = whole at *
  generalize num % den = left at *
  by_cases down : (2 * left < den || (2 * left == den && whole % 2 == 0)) = true
  · have half : (left : ℚ) / den ≤ 1 / 2 := by
      have twice : (2 : ℚ) * left ≤ den := by
        simp only [Bool.or_eq_true, decide_eq_true_eq, Bool.and_eq_true, beq_iff_eq] at down
        exact_mod_cast (by omega : 2 * left ≤ den)
      rw [div_le_div_iff₀ positive two_pos]
      linarith
    have distance : |(whole : ℚ) + left / den - whole| = left / den := by
      rw [add_sub_cancel_left, abs_of_nonneg (by positivity)]
    rw [if_pos down, distance]
    refine ⟨half, fun tie => ?_⟩
    rw [div_eq_div_iff positive.ne' two_ne_zero] at tie
    have twice : left * 2 = den := by exact_mod_cast tie.trans (one_mul _)
    simp only [Bool.or_eq_true, decide_eq_true_eq, Bool.and_eq_true, beq_iff_eq] at down
    omega
  · have half : 1 / 2 ≤ (left : ℚ) / den := by
      have twice : (den : ℚ) ≤ 2 * left := by
        simp only [Bool.or_eq_true, decide_eq_true_eq, Bool.and_eq_true, beq_iff_eq] at down
        exact_mod_cast (by omega : den ≤ 2 * left)
      rw [div_le_div_iff₀ two_pos positive]
      linarith
    have most : (left : ℚ) / den < 1 := (div_lt_one positive).mpr less
    have distance : |(whole : ℚ) + left / den - (whole + 1 : ℕ)| = 1 - left / den := by
      rw [Nat.cast_add, Nat.cast_one, add_sub_add_left_eq_sub, abs_sub_comm,
        abs_of_pos (by linarith)]
    rw [if_neg down, distance]
    refine ⟨by linarith, fun tie => ?_⟩
    have even : (left : ℚ) / den = 1 / 2 := by linarith
    rw [div_eq_div_iff positive.ne' two_ne_zero] at even
    have twice : left * 2 = den := by exact_mod_cast even.trans (one_mul _)
    simp only [Bool.or_eq_true, decide_eq_true_eq, Bool.and_eq_true, beq_iff_eq] at down
    omega

theorem scale_lt_iff {num den : ℕ} (some : 0 < den) (e : ℤ) :
    (scale num den e).1 < (scale num den e).2 ↔ (num / den : ℚ) < 2 ^ e := by
  have positive : (0 : ℚ) < (scale num den e).2 := by exact_mod_cast scale_pos num some e
  have quotient := scale_quotient num den e
  rw [← Nat.cast_lt (α := ℚ), ← div_lt_one positive, quotient, zpow_neg, ← div_eq_mul_inv,
    div_lt_one (by positivity)]

theorem binaryExponent_spec {num den : ℕ} (someNum : 0 < num) (someDen : 0 < den) :
    (2 : ℚ) ^ binaryExponent num den ≤ num / den ∧
    (num / den : ℚ) < 2 ^ (binaryExponent num den + 1) := by
  have positive : (0 : ℚ) < den := by exact_mod_cast someDen
  have numLow : (2 : ℚ) ^ (Nat.log2 num : ℤ) ≤ num := by exact_mod_cast Nat.log2_self_le someNum.ne'
  have numHigh : (num : ℚ) < 2 ^ ((Nat.log2 num : ℤ) + 1) := by exact_mod_cast Nat.lt_log2_self
  have denLow : (2 : ℚ) ^ (Nat.log2 den : ℤ) ≤ den := by exact_mod_cast Nat.log2_self_le someDen.ne'
  have denHigh : (den : ℚ) < 2 ^ ((Nat.log2 den : ℤ) + 1) := by exact_mod_cast Nat.lt_log2_self
  rw [binaryExponent]
  generalize (Nat.log2 num : ℤ) = high at *
  generalize (Nat.log2 den : ℤ) = low at *
  have least : (2 : ℚ) ^ (high - low - 1) ≤ num / den := by
    rw [le_div_iff₀ positive]
    calc (2 : ℚ) ^ (high - low - 1) * den
        ≤ 2 ^ (high - low - 1) * 2 ^ (low + 1) := by gcongr
      _ = 2 ^ high := by rw [← zpow_add₀ two_ne_zero]; congr 1; ring
      _ ≤ num := numLow
  have most : (num / den : ℚ) < 2 ^ (high - low + 1) := by
    rw [div_lt_iff₀ positive]
    calc (num : ℚ) < 2 ^ (high + 1) := numHigh
      _ = 2 ^ (high - low + 1) * 2 ^ low := by rw [← zpow_add₀ two_ne_zero]; congr 1; ring
      _ ≤ 2 ^ (high - low + 1) * den := by gcongr
  dsimp only
  split
  · rename_i below
    exact ⟨least, by rwa [sub_add_cancel, ← scale_lt_iff someDen]⟩
  · rename_i reached
    exact ⟨not_lt.mp fun below => reached ((scale_lt_iff someDen _).mpr below), most⟩

end Decimal

namespace Double

theorem lt_overflow : (9223372036854775808 : ℚ) < overflow := by
  have great : (2 : ℚ) ^ (64 : ℤ) ≤ 2 ^ (970 : ℤ) := zpow_le_zpow_right₀ one_le_two (by decide)
  calc (9223372036854775808 : ℚ) < 2 ^ (64 : ℤ) := by norm_num
    _ ≤ 2 ^ (970 : ℤ) := great
    _ ≤ overflow := by
      rw [overflow]
      exact le_mul_of_one_le_left (by positivity) (by norm_num)

theorem magnitude_nonneg (d : Double) : 0 ≤ d.magnitude := by
  rw [magnitude]
  positivity

theorem abs_value (d : Double) : |d.value| = d.magnitude := by
  rw [value]
  split
  · rw [abs_neg, abs_of_nonneg d.magnitude_nonneg]
  · rw [abs_of_nonneg d.magnitude_nonneg]

theorem exists_value_neg (d : Double) : ∃ other : Double, other.value = -d.value := by
  refine ⟨d.signed (!d.negative), ?_⟩
  cases negative : d.negative <;> simp [value, magnitude, signed, negative]

/-- A double is a whole number of steps of any place, unless it lies below all that have all their
digits there. -/
theorem value_grid (d : Double) (place : ℤ) :
    (∃ k : ℤ, d.value = k * 2 ^ place) ∨ -1074 < place ∧ |d.value| < 2 ^ 52 * 2 ^ place := by
  rcases le_or_gt place d.exponent with reached | below
  · have same : (2 : ℚ) ^ d.exponent = 2 ^ (d.exponent - place).toNat * 2 ^ place := by
      rw [← zpow_natCast, Int.toNat_of_nonneg (by omega), ← zpow_add₀ two_ne_zero, sub_add_cancel]
    have whole : d.magnitude = (d.mantissa * 2 ^ (d.exponent - place).toNat : ℤ) * 2 ^ place := by
      rw [magnitude, same]
      push_cast
      ring
    rw [value, whole]
    split
    · exact .inl ⟨-(d.mantissa * 2 ^ (d.exponent - place).toNat), by push_cast; ring⟩
    · exact .inl ⟨_, rfl⟩
  · have small : (d.mantissa : ℚ) < 2 ^ 53 := by exact_mod_cast d.canonical.1
    refine .inr ⟨lt_of_le_of_lt d.canonical.2.1 below, ?_⟩
    calc |d.value| = d.mantissa * 2 ^ d.exponent := d.abs_value
      _ < 2 ^ 53 * 2 ^ d.exponent := by gcongr
      _ ≤ 2 ^ 53 * 2 ^ (place - 1) := by gcongr <;> [norm_num; omega]
      _ = 2 ^ 52 * 2 ^ place := by rw [zpow_sub_one₀ two_ne_zero]; ring

/-- The place of the last digit that a quotient keeps. -/
def placeOf (num den : ℕ) : ℤ := max (-1074) (Decimal.binaryExponent num den - 52)

def stepsOf (num den : ℕ) : ℕ :=
  Decimal.roundHalfEven (Decimal.scale num den (placeOf num den)).1
    (Decimal.scale num den (placeOf num den)).2

theorem ofRatio?_eq (negative : Bool) (num den : ℕ) : ofRatio? negative num den =
    if stepsOf num den = 9007199254740992 then ofParts? negative 4503599627370496
      (placeOf num den + 1)
    else ofParts? negative (stepsOf num den) (placeOf num den) := rfl

theorem ofRatio?_parts {num den : ℕ} {negative : Bool} {d : Double}
    (found : ofRatio? negative num den = some d) :
    d.negative = negative ∧ d.magnitude = stepsOf num den * 2 ^ placeOf num den ∧
      (stepsOf num den % 2 = 0 → d.mantissa % 2 = 0) := by
  rw [ofRatio?_eq] at found
  split at found
  · rename_i carried
    simp only [ofParts?] at found
    split at found <;> cases found
    refine ⟨rfl, ?_, fun _ => (by decide : 4503599627370496 % 2 = 0)⟩
    rw [magnitude, carried, zpow_add_one₀ two_ne_zero]
    push_cast
    ring
  · simp only [ofParts?] at found
    split at found <;> cases found
    exact ⟨rfl, rfl, id⟩

section Ratio
variable {num den : ℕ} (someNum : 0 < num) (someDen : 0 < den)
include someNum someDen

/-- A quotient in steps of its place: below the first that takes another digit, and where its place
is not the least one, with all its digits. -/
theorem placeOf_spec : ∃ y : ℚ, (num / den : ℚ) = y * 2 ^ placeOf num den ∧ y < 2 ^ 53 ∧
    (placeOf num den = -1074 ∨ 2 ^ 52 ≤ y) ∧ |y - stepsOf num den| ≤ 1 / 2 ∧
    (|y - stepsOf num den| = 1 / 2 → stepsOf num den % 2 = 0) := by
  obtain ⟨low, high⟩ := Decimal.binaryExponent_spec someNum someDen
  have near := Decimal.roundHalfEven_near (Decimal.scale num den (placeOf num den)).1
    (Decimal.scale_pos num someDen (placeOf num den))
  rw [Decimal.scale_quotient] at near
  have unit : (0 : ℚ) < 2 ^ placeOf num den := by positivity
  refine ⟨num / den * 2 ^ (-placeOf num den), ?_, ?_, ?_, near⟩
  · rw [mul_assoc, ← zpow_add₀ two_ne_zero, neg_add_cancel, zpow_zero, mul_one]
  · rw [zpow_neg, ← div_eq_mul_inv, div_lt_iff₀ unit]
    refine high.trans_le ?_
    rw [← zpow_natCast, ← zpow_add₀ two_ne_zero]
    exact zpow_le_zpow_right₀ one_le_two (by rw [placeOf]; omega)
  · rcases le_total (Decimal.binaryExponent num den - 52) (-1074) with least | above
    · exact .inl (max_eq_left least)
    · refine .inr ?_
      rw [zpow_neg, ← div_eq_mul_inv, le_div_iff₀ unit]
      refine le_trans ?_ low
      rw [← zpow_natCast, ← zpow_add₀ two_ne_zero]
      exact zpow_le_zpow_right₀ one_le_two (by rw [placeOf, max_eq_right above]; omega)

theorem stepsOf_bounds : stepsOf num den ≤ 9007199254740992 ∧
    (placeOf num den = -1074 ∨ 4503599627370496 ≤ stepsOf num den) := by
  obtain ⟨y, -, small, full, near, -⟩ := placeOf_spec someNum someDen
  rw [abs_le] at near
  constructor
  · have most : (stepsOf num den : ℚ) < 9007199254740992 + 1 := by linarith
    exact Nat.lt_succ_iff.mp (by exact_mod_cast most)
  · refine full.imp_right fun full => ?_
    have least : (4503599627370496 : ℚ) < stepsOf num den + 1 := by linarith
    exact Nat.lt_succ_iff.mp (by exact_mod_cast least)

theorem ofRatio?_eq_none_iff (negative : Bool) : ofRatio? negative num den = none ↔
    971 < placeOf num den ∨ placeOf num den = 971 ∧ stepsOf num den = 9007199254740992 := by
  obtain ⟨most, full⟩ := stepsOf_bounds someNum someDen
  have least : -1074 ≤ placeOf num den := le_max_left ..
  rw [ofRatio?_eq]
  split <;> simp only [ofParts?, dite_eq_right_iff, reduceCtorEq, imp_false] <;> omega

theorem ofRatio?_eq_none_iff_overflow (negative : Bool) :
    ofRatio? negative num den = none ↔ overflow ≤ num / den := by
  obtain ⟨y, scaled, small, full, near, even⟩ := placeOf_spec someNum someDen
  obtain ⟨most, -⟩ := stepsOf_bounds someNum someDen
  obtain ⟨low, high⟩ := abs_le.mp near
  rw [ofRatio?_eq_none_iff someNum someDen negative, scaled, overflow]
  generalize placeOf num den = place at *
  generalize stepsOf num den = steps at *
  have unit : (0 : ℚ) < 2 ^ (970 : ℤ) := by positivity
  have next : (2 : ℚ) ^ (971 : ℤ) = 2 ^ (970 : ℤ) * 2 := zpow_add_one₀ two_ne_zero 970
  rcases lt_trichotomy place 971 with below | rfl | above
  · refine iff_of_false (by omega) (not_le.mpr ?_)
    have unit_le : (2 : ℚ) ^ place ≤ 2 ^ (970 : ℤ) := zpow_le_zpow_right₀ one_le_two (by omega)
    calc y * 2 ^ place ≤ 2 ^ 53 * 2 ^ (970 : ℤ) := by gcongr
      _ < (2 ^ 54 - 1) * 2 ^ (970 : ℤ) := mul_lt_mul_of_pos_right (by norm_num) unit
  · have halved : y * 2 ^ (971 : ℤ) = y * 2 * 2 ^ (970 : ℤ) := by rw [next]; ring
    rw [halved, mul_le_mul_iff_left₀ unit]
    constructor
    · rintro (impossible | ⟨-, rfl⟩)
      · omega
      · push_cast at low
        linarith
    · intro least
      refine .inr ⟨rfl, ?_⟩
      by_contra other
      have fewer :
        (steps : ℚ) ≤ 9007199254740991 := by exact_mod_cast (by omega : steps ≤ 9007199254740991)
      have tie : y - steps = 1 / 2 := by linarith
      have odd : steps = 9007199254740991 := by
        have same : (steps : ℚ) = 9007199254740991 := by linarith
        exact_mod_cast same
      have := even (by rw [tie, abs_of_pos (by norm_num)])
      omega
  · refine iff_of_true (.inl above) ?_
    have all : 2 ^ 52 ≤ y := full.resolve_left (by omega)
    have le_unit : (2 : ℚ) ^ (971 : ℤ) * 2 ≤ 2 ^ place := by
      rw [← zpow_add_one₀ two_ne_zero]
      exact zpow_le_zpow_right₀ one_le_two (by omega)
    calc (2 ^ 54 - 1 : ℚ) * 2 ^ (970 : ℤ) ≤ 2 ^ 54 * 2 ^ (970 : ℤ) := by gcongr; norm_num
      _ = 2 ^ 52 * (2 ^ (971 : ℤ) * 2) := by rw [next]; ring
      _ ≤ y * 2 ^ place := by gcongr

end Ratio

theorem nearest_whole {y : ℚ} {m : ℕ} (near : |y - m| ≤ 1 / 2) (even : |y - m| = 1 / 2 → m % 2 = 0)
    (k : ℤ) :
    |y - m| ≤ |y - k| ∧ (|y - k| = |y - m| → k ≠ m → m % 2 = 0) := by
  by_cases same : k = m
  · subst same
    exact ⟨le_of_eq (by push_cast; rfl), fun _ ne => absurd rfl ne⟩
  · have apart : (1 : ℚ) ≤ |(k : ℚ) - m| := by exact_mod_cast Int.one_le_abs (sub_ne_zero.mpr same)
    have triangle : |(k : ℚ) - m| ≤ |y - k| + |y - m| := by
      rw [abs_sub_comm y k]
      simpa using abs_add_le ((k : ℚ) - y) (y - m)
    exact ⟨by linarith, fun tie _ => even (by linarith)⟩

section Nearest
variable {num den : ℕ} (someNum : 0 < num) (someDen : 0 < den)
include someNum someDen

/-- No double is nearer to a quotient than the steps that it is rounded to. -/
theorem stepsOf_nearest (other : Double) :
    |(num / den : ℚ) - stepsOf num den * 2 ^ placeOf num den| ≤ |num / den - other.value| ∧
      (|num / den - other.value| = |(num / den : ℚ) - stepsOf num den * 2 ^ placeOf num den| →
        other.value ≠ stepsOf num den * 2 ^ placeOf num den → stepsOf num den % 2 = 0) := by
  obtain ⟨y, scaled, -, full, near, even⟩ := placeOf_spec someNum someDen
  rw [scaled]
  generalize placeOf num den = place at *
  generalize stepsOf num den = steps at *
  have unit : (0 : ℚ) < 2 ^ place := by positivity
  have inSteps : ∀ z : ℚ, |y * 2 ^ place - z * 2 ^ place| = |y - z| * 2 ^ place := fun z => by
    rw [← sub_mul, abs_mul, abs_of_pos unit]
  rcases other.value_grid place with ⟨k, whole⟩ | ⟨notLeast, below⟩
  · obtain ⟨nearest, ties⟩ := nearest_whole near even k
    rw [whole, inSteps, inSteps]
    refine ⟨mul_le_mul_of_nonneg_right nearest unit.le, fun tie ne => ties
      (mul_right_cancel₀ unit.ne' tie) ?_⟩
    rintro rfl
    exact ne (by push_cast; rfl)
  · -- The other double lies below the least number with all its digits here; that one is no nearer.
    have all : 2 ^ 52 ≤ y := full.resolve_left notLeast.ne'
    have nearest := (nearest_whole near even (2 ^ 52)).1
    have farther : |y - steps| * 2 ^ place < |y * 2 ^ place - other.value| := by
      have gap : |y - steps| ≤ y - 2 ^ 52 := by
        rwa [abs_of_nonneg (a := y - ((2 ^ 52 : ℤ) : ℚ)) (by push_cast; linarith), Int.cast_pow,
          Int.cast_ofNat] at nearest
      calc |y - steps| * 2 ^ place ≤ (y - 2 ^ 52) * 2 ^ place := by gcongr
        _ = y * 2 ^ place - 2 ^ 52 * 2 ^ place := by ring
        _ < y * 2 ^ place - other.value := by linarith [(abs_lt.mp below).2]
        _ ≤ |y * 2 ^ place - other.value| := le_abs_self _
    rw [inSteps]
    exact ⟨farther.le, fun tie => absurd tie farther.ne'⟩

/-- A quotient with a sign is rounded to its double. -/
theorem ofRatio?_roundsTo {negative : Bool} {d : Double}
    (found : ofRatio? negative num den = some d) :
    d.RoundsTo (if negative then -(num / den) else num / den) := by
  obtain ⟨rfl, magnitude, even⟩ := ofRatio?_parts found
  have nearest := stepsOf_nearest someNum someDen
  rw [← magnitude] at nearest
  cases sign : d.negative with
  | false =>
      have value : d.value = d.magnitude := by simp [value, sign]
      rw [← value] at nearest
      exact ⟨fun other => (nearest other).1, fun other tie ne => even ((nearest other).2 tie ne)⟩
  | true =>
      have value : d.value = -d.magnitude := by simp [value, sign]
      have mirrored : ∀ v : ℚ, |-(num / den : ℚ) - v| = |(num / den : ℚ) - -v| := fun v => by
        rw [← abs_neg]
        congr 1
        ring
      simp only [if_true]
      constructor
      · intro other
        obtain ⟨mirror, opposite⟩ := other.exists_value_neg
        rw [mirrored, mirrored, value, neg_neg, ← opposite]
        exact (nearest mirror).1
      · intro other tie ne
        obtain ⟨mirror, opposite⟩ := other.exists_value_neg
        rw [mirrored, mirrored, value, neg_neg, ← opposite] at tie
        refine even ((nearest mirror).2 tie fun same => ne ?_)
        rw [value, ← same, opposite, neg_neg]

end Nearest

theorem zero_roundsTo (negative : Bool) : (zero negative).RoundsTo 0 := by
  have value : (zero negative).value = 0 := by cases negative <;> simp [value, magnitude, zero]
  constructor
  · intro other
    rw [value, sub_zero, abs_zero]
    exact abs_nonneg _
  · intro other tie ne
    rw [value, sub_zero, abs_zero, abs_eq_zero, zero_sub, neg_eq_zero] at tie
    exact absurd (tie.trans value.symm) ne

/-- Rounding goes past no double. -/
theorem RoundsTo.le_value {x : ℚ} {d : Double} (rounds : d.RoundsTo x) {other : Double}
    (below : other.value ≤ x) :
    other.value ≤ d.value := by
  by_contra less
  have nearer := rounds.nearest other
  rw [abs_of_nonneg (sub_nonneg.mpr below), abs_of_nonneg (by linarith)] at nearer
  linarith

theorem RoundsTo.zpow_le_value {x : ℚ} {d : Double} (rounds : d.RoundsTo x) {k : ℤ}
    (least : -1022 ≤ k) (most : k ≤ 1023) (below : 2 ^ k ≤ x) : 2 ^ k ≤ d.value := by
  have power : (⟨false, 4503599627370496, k - 52, by omega⟩ : Double).value = 2 ^ k := by
    rw [value, if_neg Bool.false_ne_true, magnitude, zpow_sub₀ two_ne_zero]
    norm_num
    ring
  rw [← power] at below ⊢
  exact rounds.le_value below

section Whole
variable (negative : Bool) (n p : ℕ)

theorem ofDecimal?_whole (some : n ≠ 0) (moderate : p ≤ 308) :
    ofDecimal? negative n p = ofRatio? negative (n * 10 ^ p) 1 := by
  rw [ofDecimal?, if_neg some, if_pos (Int.natCast_nonneg p), if_neg (by omega)]
  rfl

/-- A whole number with a sign is rounded to its double. -/
theorem ofDecimal?_roundsTo {d : Double} (found : ofDecimal? negative n p = some d) :
    d.RoundsTo (if negative then -(n * 10 ^ p) else n * 10 ^ p) := by
  by_cases none : n = 0
  · subst none
    cases found
    rw [Nat.cast_zero, zero_mul, neg_zero, ite_self]
    exact zero_roundsTo negative
  · have moderate : p ≤ 308 := by
      by_contra large
      rw [ofDecimal?, if_neg none, if_pos (Int.natCast_nonneg p), if_pos (by omega)] at found
      cases found
    rw [ofDecimal?_whole negative n p none moderate] at found
    have positive : 0 < n * 10 ^ p :=
      Nat.mul_pos (Nat.pos_of_ne_zero none) (Nat.pow_pos (by decide))
    have rounds := ofRatio?_roundsTo positive Nat.one_pos found
    rw [Nat.cast_one, div_one] at rounds
    exact_mod_cast rounds

theorem ofDecimal?_eq_none_iff_overflow : ofDecimal? negative n 0 = none ↔ overflow ≤ n := by
  by_cases none : n = 0
  · subst none
    rw [Nat.cast_zero]
    exact iff_of_false nofun (not_le.mpr (lt_trans (by norm_num) lt_overflow))
  · have overflows := ofRatio?_eq_none_iff_overflow (Nat.pos_of_ne_zero none) Nat.one_pos negative
    have whole := ofDecimal?_whole negative n 0 none (by decide)
    rw [pow_zero, Nat.mul_one] at whole
    rwa [Nat.cast_one, div_one, ← whole] at overflows

end Whole

theorem times?_roundsTo {a b d : Double} (found : a.times? b = some d) :
    d.RoundsTo (a.value * b.value) := by
  rw [times?] at found
  split at found
  · rename_i none
    have product : a.value * b.value = 0 := by
      simp only [Bool.or_eq_true, isZero, beq_iff_eq] at none
      rcases none with none | none <;> simp [value, magnitude, none]
    cases found
    rw [product]
    exact zero_roundsTo _
  · rename_i some
    simp only [Bool.or_eq_true, isZero, beq_iff_eq, not_or] at some
    have positive : 0 < a.mantissa * b.mantissa * Nat.pow 2 (a.exponent + b.exponent).toNat :=
      Nat.mul_pos (Nat.mul_pos (Nat.pos_of_ne_zero some.1) (Nat.pos_of_ne_zero some.2))
        (Nat.pow_pos (by decide))
    have below : 0 < Nat.pow 2 (-(a.exponent + b.exponent)).toNat := Nat.pow_pos (by decide)
    have rounds := ofRatio?_roundsTo positive below found
    have size : ((a.mantissa * b.mantissa * Nat.pow 2 (a.exponent + b.exponent).toNat : ℕ) : ℚ) /
        (Nat.pow 2 (-(a.exponent + b.exponent)).toNat : ℕ) = a.magnitude * b.magnitude := by
      have power : (2 : ℚ) ^ (a.exponent + b.exponent) = 2 ^ a.exponent * 2 ^ b.exponent :=
        zpow_add₀ two_ne_zero ..
      have scaled := Decimal.scale_quotient (a.mantissa * b.mantissa) 1 (-(a.exponent + b.exponent))
      rw [neg_neg, power] at scaled
      simp only [Decimal.scale, neg_neg, Nat.one_mul] at scaled
      rw [scaled, magnitude, magnitude]
      push_cast
      ring
    rw [size] at rounds
    convert rounds using 1
    rw [value, value]
    cases a.negative <;> cases b.negative <;> simp

end Double

end CommandBridge
