import Exemplar.Decimal.Binary64
import Mathlib.Algebra.Order.Field.Power
import Mathlib.Algebra.Order.Field.Rat
import Mathlib.Data.Rat.Defs
import Mathlib.Tactic.FieldSimp
import Mathlib.Tactic.Linarith
import Mathlib.Tactic.Positivity
import Mathlib.Tactic.Ring

/-
  Rounding to a double. A quotient of the reals that lie nearest to a positive double
  (`RoundedFrom`) is rounded to it (`ofRatio_eq`). The grid on which a quotient is rounded is that
  of the double, except just below a power of two, where it is the finer grid of the numbers below.
-/

namespace Exemplar.Binary64

theorem two_zpow_pos (k : Int) : (0 : ℚ) < 2 ^ k := by positivity

theorem ofNat_zpow (k : Nat) : (2 : ℚ) ^ (Int.ofNat k) = ((Nat.pow 2 k : Nat) : ℚ) := by
  rw [Int.ofNat_eq_natCast, zpow_natCast]
  exact_mod_cast rfl

theorem negSucc_zpow (k : Nat) :
    (2 : ℚ) ^ (Int.negSucc k) = 1 / ((Nat.pow 2 (k + 1) : Nat) : ℚ) := by
  rw [zpow_negSucc, one_div, Nat.pow_eq]
  push_cast
  rfl

/-- What `floorLog2` compares. -/
def atLeast (num den : Nat) : Int → Bool
  | .ofNat k => den * Nat.pow 2 k ≤ num
  | .negSucc k => den ≤ num * Nat.pow 2 (k + 1)

theorem atLeast_iff {num den : Nat} (hd : 0 < den) (g : Int) :
    atLeast num den g = true ↔ (2 : ℚ) ^ g ≤ num / den := by
  have hdq : (0 : ℚ) < den := by exact_mod_cast hd
  cases g with
  | ofNat k =>
    rw [ofNat_zpow, le_div_iff₀ hdq]
    unfold atLeast
    rw [decide_eq_true_eq, mul_comm]
    exact_mod_cast Iff.rfl
  | negSucc k =>
    have hp : (0 : ℚ) < ((Nat.pow 2 (k + 1) : Nat) : ℚ) := by exact_mod_cast Nat.two_pow_pos (k + 1)
    rw [negSucc_zpow, div_le_div_iff₀ hp hdq, one_mul]
    unfold atLeast
    rw [decide_eq_true_eq]
    exact_mod_cast Iff.rfl

/-- The floor of a logarithm is the one exponent whose power is the last at or below a quotient. -/
theorem floorLog2_spec {num den : Nat} (hn : 0 < num) (hd : 0 < den) :
    (2 : ℚ) ^ floorLog2 num den ≤ num / den ∧ (num : ℚ) / den < 2 ^ (floorLog2 num den + 1) := by
  have hdq : (0 : ℚ) < den := by exact_mod_cast hd
  have hnum : (2 : ℚ) ^ (Nat.log2 num : Int) ≤ num ∧
      (num : ℚ) < 2 ^ ((Nat.log2 num : Int) + 1) := by
    constructor
    · exact_mod_cast Nat.log2_self_le hn.ne'
    · exact_mod_cast Nat.lt_log2_self
  have hden : (2 : ℚ) ^ (Nat.log2 den : Int) ≤ den ∧
      (den : ℚ) < 2 ^ ((Nat.log2 den : Int) + 1) := by
    constructor
    · exact_mod_cast Nat.log2_self_le hd.ne'
    · exact_mod_cast Nat.lt_log2_self
  have hlog : floorLog2 num den =
      if atLeast num den (Nat.log2 num - Nat.log2 den) then (Nat.log2 num - Nat.log2 den : Int)
      else (Nat.log2 num - Nat.log2 den : Int) - 1 := by
    rfl
  have hhigh : (num : ℚ) / den < 2 ^ ((Nat.log2 num - Nat.log2 den : Int) + 1) := by
    rw [div_lt_iff₀ hdq]
    calc (num : ℚ) < 2 ^ ((Nat.log2 num : Int) + 1) := hnum.2
      _ = 2 ^ ((Nat.log2 num - Nat.log2 den : Int) + 1) * 2 ^ (Nat.log2 den : Int) := by
        rw [← zpow_add₀ (by norm_num)]
        congr 1
        omega
      _ ≤ 2 ^ ((Nat.log2 num - Nat.log2 den : Int) + 1) * den :=
        mul_le_mul_of_nonneg_left hden.1 (two_zpow_pos _).le
  have hlow : (2 : ℚ) ^ ((Nat.log2 num - Nat.log2 den : Int) - 1) ≤ num / den := by
    rw [le_div_iff₀ hdq]
    calc (2 : ℚ) ^ ((Nat.log2 num - Nat.log2 den : Int) - 1) * den
        ≤ 2 ^ ((Nat.log2 num - Nat.log2 den : Int) - 1) * 2 ^ ((Nat.log2 den : Int) + 1) :=
        mul_le_mul_of_nonneg_left hden.2.le (two_zpow_pos _).le
      _ = 2 ^ (Nat.log2 num : Int) := by
        rw [← zpow_add₀ (by norm_num)]
        congr 1
        omega
      _ ≤ num := hnum.1
  rw [hlog]
  split
  · exact ⟨(atLeast_iff hd _).mp ‹_›, hhigh⟩
  · rename_i h
    refine ⟨hlow, ?_⟩
    rw [sub_add_cancel]
    exact lt_of_not_ge fun hle => h ((atLeast_iff hd _).mpr hle)

theorem floorLog2_eq {num den : Nat} (hn : 0 < num) (hd : 0 < den) {k : Int}
    (hlow : (2 : ℚ) ^ k ≤ num / den) (hhigh : (num : ℚ) / den < 2 ^ (k + 1)) :
    floorLog2 num den = k := by
  obtain ⟨h1, h2⟩ := floorLog2_spec hn hd
  have a := (zpow_lt_zpow_iff_right₀ (by norm_num : (1 : ℚ) < 2)).mp (h1.trans_lt hhigh)
  have b := (zpow_lt_zpow_iff_right₀ (by norm_num : (1 : ℚ) < 2)).mp (hlow.trans_lt h2)
  omega

/-- Rounding finds the natural that a quotient is nearest to; halfway it is the even one. -/
theorem roundQuotient_eq {num den m : Nat} (hd : 0 < den)
    (hlow : (2 * m - 1 : Int) * den ≤ 2 * num) (hhigh : 2 * (num : Int) ≤ (2 * m + 1) * den)
    (htie : m % 2 = 1 → (2 * m - 1 : Int) * den < 2 * num ∧ 2 * (num : Int) < (2 * m + 1) * den) :
    roundQuotient num den = m := by
  have hdiv := Nat.div_add_mod num den
  have hmod := Nat.mod_lt num hd
  unfold roundQuotient
  dsimp only
  generalize num / den = q at hdiv ⊢
  generalize num % den = r at hdiv hmod ⊢
  subst hdiv
  push_cast at hlow hhigh htie
  have hq : q ≤ m := by
    by_contra hlt
    have : (m : Int) + 1 ≤ q := by omega
    nlinarith
  have hq' : m ≤ q + 1 := by
    by_contra hlt
    have : (q : Int) + 2 ≤ m := by omega
    nlinarith
  obtain rfl | rfl : m = q ∨ m = q + 1 := by omega
  · have hr : 2 * (r : Int) ≤ den := by linarith
    have hodd : m % 2 = 1 → 2 * (r : Int) < den := fun h => by linarith [(htie h).2]
    split_ifs with h1 h2 h3
    · rfl
    · omega
    · rfl
    · rw [beq_iff_eq] at h3
      omega
  · push_cast at hlow htie
    have hr : (den : Int) ≤ 2 * r := by linarith
    have hodd : (q + 1) % 2 = 1 → (den : Int) < 2 * r := fun h => by linarith [(htie h).1]
    split_ifs with h1 h2 h3
    · omega
    · rfl
    · rw [beq_iff_eq] at h3
      omega
    · rfl

/-! ## The value of a double -/

/-- The size of a finite double. -/
def value (x : Binary64) : ℚ := x.significand * 2 ^ x.exponent

/-- The size of a double as a multiple of a unit, over a power of two. -/
theorem magnitude_units (x : Binary64) : ∃ unit : Nat, 0 < unit ∧ 0 < x.magnitude.2 ∧
    x.magnitude.1 = x.significand * unit ∧ (unit : ℚ) / x.magnitude.2 = 2 ^ x.exponent := by
  unfold magnitude
  generalize x.exponent = q
  cases q with
  | ofNat k =>
    refine ⟨Nat.pow 2 k, Nat.two_pow_pos k, Nat.one_pos, rfl, ?_⟩
    rw [ofNat_zpow]
    simp
  | negSucc k =>
    refine ⟨1, Nat.one_pos, Nat.two_pow_pos (k + 1), (Nat.mul_one _).symm, ?_⟩
    rw [negSucc_zpow]
    simp

/-- Whether the neighbours below a double lie twice as close as those above. -/
def isNarrow (x : Binary64) : Bool := x.significand == Nat.pow 2 52 && 1 < x.exponentField

/-- How far below a double the reals that round to it reach, in units of its last place. -/
def lowerGap (x : Binary64) : ℚ := if x.isNarrow then 1 / 4 else 1 / 2

/-- The reals that round to a double: halfway they do if its significand is even. -/
structure RoundedFrom (x : Binary64) (r : ℚ) : Prop where
  low : (x.significand - x.lowerGap) * 2 ^ x.exponent ≤ r
  high : r ≤ (x.significand + 1 / 2) * 2 ^ x.exponent
  odd : x.significand % 2 = 1 →
    (x.significand - x.lowerGap) * 2 ^ x.exponent < r ∧ r < (x.significand + 1 / 2) * 2 ^ x.exponent

open Decimal in
/-- A quotient lies in an interval with its ends if the interval is closed, and without them
otherwise. -/
theorem contains_ratio {i : Interval} (hi : 0 < i.den) {num den : Nat} (hd : 0 < den) :
    i.contains num den = true ↔
      if i.closed then (i.low / i.den : ℚ) ≤ num / den ∧ (num / den : ℚ) ≤ i.high / i.den
      else (i.low / i.den : ℚ) < num / den ∧ (num / den : ℚ) < i.high / i.den := by
  have hiq : (0 : ℚ) < i.den := by exact_mod_cast hi
  have hdq : (0 : ℚ) < den := by exact_mod_cast hd
  unfold Interval.contains
  split
  · rw [Bool.and_eq_true, decide_eq_true_eq, decide_eq_true_eq, div_le_div_iff₀ hiq hdq,
      div_le_div_iff₀ hdq hiq]
    exact_mod_cast Iff.rfl
  · rw [Bool.and_eq_true, decide_eq_true_eq, decide_eq_true_eq, div_lt_div_iff₀ hiq hdq,
      div_lt_div_iff₀ hdq hiq]
    exact_mod_cast Iff.rfl

open Decimal in
theorem intervalOf_den_pos (x : Binary64) : 0 < (intervalOf x).den := by
  obtain ⟨-, -, hden, -, -⟩ := x.magnitude_units
  exact Nat.mul_pos (by decide) hden

section Ends

open Decimal

variable {x : Binary64} (hx : 0 < x.significand)
include hx

theorem intervalOf_low : ((intervalOf x).low / (intervalOf x).den : ℚ) =
    (x.significand - x.lowerGap) * 2 ^ x.exponent := by
  obtain ⟨u, hu, hden, hnum, hunit⟩ := x.magnitude_units
  have hdenq : (0 : ℚ) < x.magnitude.2 := by exact_mod_cast hden
  have hmu : u ≤ x.significand * u := Nat.le_mul_of_pos_left u hx
  have hdiv : x.magnitude.1 / x.significand = u := by
    rw [hnum, Nat.mul_div_cancel_left _ hx]
  have hlow : (intervalOf x).low =
      if x.isNarrow then 4 * x.magnitude.1 - x.magnitude.1 / x.significand
      else 4 * x.magnitude.1 - 2 * (x.magnitude.1 / x.significand) := rfl
  have hi : (intervalOf x).den = 4 * x.magnitude.2 := rfl
  rw [hlow, hi, hdiv, hnum, ← hunit]
  unfold lowerGap
  split
  · rw [Nat.cast_sub (by omega)]
    push_cast
    field_simp
  · rw [Nat.cast_sub (by omega)]
    push_cast
    field_simp
    ring

theorem intervalOf_high : ((intervalOf x).high / (intervalOf x).den : ℚ) =
    (x.significand + 1 / 2) * 2 ^ x.exponent := by
  obtain ⟨u, hu, hden, hnum, hunit⟩ := x.magnitude_units
  have hdenq : (0 : ℚ) < x.magnitude.2 := by exact_mod_cast hden
  have hdiv : x.magnitude.1 / x.significand = u := by
    rw [hnum, Nat.mul_div_cancel_left _ hx]
  have hhigh : (intervalOf x).high =
      4 * x.magnitude.1 + 2 * (x.magnitude.1 / x.significand) := rfl
  have hi : (intervalOf x).den = 4 * x.magnitude.2 := rfl
  rw [hhigh, hi, hdiv, hnum, ← hunit]
  push_cast
  field_simp
  ring

theorem contains_iff {num den : Nat} (hd : 0 < den) :
    (intervalOf x).contains num den = true ↔ x.RoundedFrom (num / den) := by
  rw [contains_ratio (intervalOf_den_pos x) hd, intervalOf_low hx, intervalOf_high hx]
  have hclosed : (intervalOf x).closed = (x.significand % 2 == 0) := rfl
  rw [hclosed]
  split
  · rename_i heven
    rw [beq_iff_eq] at heven
    exact ⟨fun h => ⟨h.1, h.2, fun hodd => by omega⟩, fun h => ⟨h.low, h.high⟩⟩
  · rename_i hodd
    have hodd : x.significand % 2 = 1 := by
      rw [beq_iff_eq] at hodd
      omega
    exact ⟨fun h => ⟨h.1.le, h.2.le, fun _ => h⟩, fun h => h.odd hodd⟩

end Ends

/-! ## Rounding to a double -/

/-- The rounding of a quotient in units of a power of two. -/
def roundAt (num den : Nat) : Int → Nat
  | .ofNat k => roundQuotient num (den * Nat.pow 2 k)
  | .negSucc k => roundQuotient (num * Nat.pow 2 (k + 1)) den

theorem roundQuotient_of_between {num den m : Nat} (hd : 0 < den)
    (hlow : (m - 1 / 2 : ℚ) ≤ num / den) (hhigh : (num / den : ℚ) ≤ m + 1 / 2)
    (hodd : m % 2 = 1 → (m - 1 / 2 : ℚ) < num / den ∧ (num / den : ℚ) < m + 1 / 2) :
    roundQuotient num den = m := by
  have hdq : (0 : ℚ) < den := by exact_mod_cast hd
  refine roundQuotient_eq hd ?_ ?_ fun h => ⟨?_, ?_⟩
  · rw [le_div_iff₀ hdq] at hlow
    have : ((2 * m - 1 : Int) * den : ℚ) ≤ 2 * num := by push_cast; linarith
    exact_mod_cast this
  · rw [div_le_iff₀ hdq] at hhigh
    have : (2 * (num : Int) : ℚ) ≤ (2 * m + 1) * den := by push_cast; linarith
    exact_mod_cast this
  · have h := (hodd h).1
    rw [lt_div_iff₀ hdq] at h
    have : ((2 * m - 1 : Int) * den : ℚ) < 2 * num := by push_cast; linarith
    exact_mod_cast this
  · have h := (hodd h).2
    rw [div_lt_iff₀ hdq] at h
    have : (2 * (num : Int) : ℚ) < (2 * m + 1) * den := by push_cast; linarith
    exact_mod_cast this

theorem roundAt_of_between {num den m : Nat} {q : Int} (hd : 0 < den)
    (hlow : (m - 1 / 2 : ℚ) * 2 ^ q ≤ num / den) (hhigh : (num / den : ℚ) ≤ (m + 1 / 2) * 2 ^ q)
    (hodd : m % 2 = 1 →
      (m - 1 / 2 : ℚ) * 2 ^ q < num / den ∧ (num / den : ℚ) < (m + 1 / 2) * 2 ^ q) :
    roundAt num den q = m := by
  have hp := two_zpow_pos q
  rw [← le_div_iff₀ hp] at hlow
  rw [← div_le_iff₀ hp] at hhigh
  rw [← lt_div_iff₀ hp, ← div_lt_iff₀ hp] at hodd
  cases q with
  | ofNat k =>
    have heq : (num / den : ℚ) / 2 ^ (Int.ofNat k) = num / (den * Nat.pow 2 k : Nat) := by
      rw [ofNat_zpow, div_div]
      push_cast
      rfl
    rw [heq] at hlow hhigh hodd
    exact roundQuotient_of_between (Nat.mul_pos hd (Nat.two_pow_pos k)) hlow hhigh hodd
  | negSucc k =>
    have heq : (num / den : ℚ) / 2 ^ (Int.negSucc k) = (num * Nat.pow 2 (k + 1) : Nat) / den := by
      rw [negSucc_zpow]
      push_cast
      field_simp
    rw [heq] at hlow hhigh hodd
    exact roundQuotient_of_between hd hlow hhigh hodd

/-- A finite double that is positive. -/
structure IsPositive (x : Binary64) : Prop where
  notNegative : x.negative = false
  finite : x.exponentField < 2047
  significand : 0 < x.significand

theorem IsPositive.isNaN {x : Binary64} (hx : x.IsPositive) : x.isNaN = false := by
  have hE : (x.exponentField == 2047) = false := beq_eq_false_iff_ne.mpr hx.finite.ne
  unfold Binary64.isNaN
  rw [hE, Bool.false_and]

theorem IsPositive.isInfinite {x : Binary64} (hx : x.IsPositive) : x.isInfinite = false := by
  have hE : (x.exponentField == 2047) = false := beq_eq_false_iff_ne.mpr hx.finite.ne
  unfold Binary64.isInfinite
  rw [hE, Bool.false_and]

theorem significand_cases (x : Binary64) :
    (x.exponentField = 0 ∧ x.significand = x.fraction ∧ x.exponent = -1074) ∨
    (0 < x.exponentField ∧ x.significand = x.fraction + 4503599627370496 ∧
      x.exponent = x.exponentField - 1075) := by
  unfold significand exponent
  rcases Nat.eq_zero_or_pos x.exponentField with h | h
  · left
    rw [h]
    exact ⟨rfl, rfl, rfl⟩
  · right
    refine ⟨h, ?_, ?_⟩
    · exact if_neg (by rw [beq_iff_eq]; omega)
    · show ((max x.exponentField 1 : Nat) : Int) - 1075 = _
      omega

theorem fraction_lt (x : Binary64) : x.fraction < 4503599627370496 :=
  Nat.mod_lt _ (by decide)

theorem exponent_eq {x : Binary64} (h : 0 < x.exponentField) :
    x.exponent = x.exponentField - 1075 := by
  rcases significand_cases x with ⟨hzero, -⟩ | ⟨-, -, hexp⟩
  · omega
  · exact hexp

/-- The bits of a positive double as the place and the significand give them. -/
theorem bits_eq {x : Binary64} (hx : x.negative = false) :
    x.bits.toNat = (x.exponent + 1074).toNat * 4503599627370496 + x.significand := by
  have hb : x.bits.toNat < 9223372036854775808 := by
    unfold negative at hx
    rw [decide_eq_false_iff_not] at hx
    have : Nat.pow 2 63 = 9223372036854775808 := rfl
    omega
  have hfield : x.exponentField = x.bits.toNat / 4503599627370496 % 2048 := rfl
  have hfraction : x.fraction = x.bits.toNat % 4503599627370496 := rfl
  rcases significand_cases x with ⟨h0, h1, h2⟩ | ⟨h0, h1, h2⟩
  · rw [h1, h2]
    omega
  · rw [h1, h2]
    omega

theorem ofParts_bits (x : Binary64) : ofParts false x.bits.toNat = x := by
  unfold ofParts
  rw [if_neg Bool.false_ne_true, Nat.add_zero, UInt64.ofNat_toNat]

theorem ofRatio_of_roundAt {num den m : Nat} {q : Int} (negative : Bool) (hn : 0 < num)
    (hq : max (floorLog2 num den - 52) (-1074) = q) (hm : roundAt num den q = m)
    (hlt : (q + 1074).toNat * 4503599627370496 + m < 2047 * 4503599627370496) :
    ofRatio negative num den = ofParts negative ((q + 1074).toNat * 4503599627370496 + m) := by
  subst hq hm
  have hne : ¬(num == 0) = true := by rw [beq_iff_eq]; omega
  unfold ofRatio
  rw [if_neg hne]
  exact if_neg (Nat.not_le.mpr hlt)

theorem lowerGap_le (x : Binary64) : x.lowerGap ≤ 1 / 2 := by
  unfold lowerGap
  split <;> norm_num

theorem isNarrow_iff {x : Binary64} :
    x.isNarrow = true ↔ x.significand = 4503599627370496 ∧ 1 < x.exponentField := by
  unfold isNarrow
  rw [Bool.and_eq_true, beq_iff_eq, decide_eq_true_eq]

/-- Below a power of two the quotient is rounded on the finer grid, and up to the power. -/
theorem roundAt_narrow {x : Binary64} (hx : x.isNarrow = true) {num den : Nat} (hn : 0 < num)
    (hd : 0 < den) (h : x.RoundedFrom (num / den))
    (hlt : (num / den : ℚ) < 4503599627370496 * 2 ^ x.exponent) :
    max (floorLog2 num den - 52) (-1074) = x.exponent - 1 ∧
      roundAt num den (x.exponent - 1) = 9007199254740992 := by
  obtain ⟨hm, hE⟩ := isNarrow_iff.mp hx
  have hp := two_zpow_pos x.exponent
  have hlow := h.low
  rw [lowerGap, if_pos hx, hm] at hlow
  push_cast at hlow
  have hexp := exponent_eq (Nat.zero_lt_of_lt hE)
  have hhalf : (2 : ℚ) ^ (x.exponent - 1) = 2 ^ x.exponent / 2 := by
    rw [zpow_sub_one₀ (by norm_num)]
    ring
  have hlog : floorLog2 num den = x.exponent + 51 := by
    refine floorLog2_eq hn hd ?_ ?_
    · rw [zpow_add₀ (by norm_num)]
      refine le_trans ?_ hlow
      norm_num
      nlinarith
    · rw [add_assoc, zpow_add₀ (by norm_num)]
      refine hlt.trans_le ?_
      norm_num
      nlinarith
  refine ⟨by omega, roundAt_of_between hd ?_ ?_ fun h => absurd h (by decide)⟩
  · rw [hhalf]
    push_cast
    linarith
  · rw [hhalf]
    push_cast
    linarith

/-- Elsewhere the quotient is rounded on the grid of the double. -/
theorem roundAt_even {x : Binary64} {num den : Nat} (hn : 0 < num)
    (hd : 0 < den) (h : x.RoundedFrom (num / den))
    (hle : x.isNarrow = true → 4503599627370496 * 2 ^ x.exponent ≤ (num / den : ℚ)) :
    max (floorLog2 num den - 52) (-1074) = x.exponent ∧
      roundAt num den x.exponent = x.significand := by
  have hp := two_zpow_pos x.exponent
  have hgap := lowerGap_le x
  have hfraction := fraction_lt x
  have hlt : x.significand < 9007199254740992 := by
    rcases significand_cases x with h | h <;> omega
  have hltq : (x.significand : ℚ) + 1 ≤ 9007199254740992 := by exact_mod_cast hlt
  have hhigh : (num / den : ℚ) < 2 ^ (x.exponent + 53) := by
    rw [zpow_add₀ (by norm_num)]
    refine h.high.trans_lt ?_
    norm_num
    nlinarith
  constructor
  · by_cases hge : 4503599627370496 * 2 ^ x.exponent ≤ (num / den : ℚ)
    · have hlog : floorLog2 num den = x.exponent + 52 := by
        refine floorLog2_eq hn hd ?_ (by rw [add_assoc]; exact hhigh)
        rw [zpow_add₀ (by norm_num)]
        refine le_trans ?_ hge
        norm_num
        nlinarith
      rcases significand_cases x with h | h <;> omega
    · have hsmall : x.exponent = -1074 := by
        rcases significand_cases x with hs | ⟨h0, h1, h2⟩
        · exact hs.2.2
        · by_contra hne
          have hE : 1 < x.exponentField := by omega
          by_cases hm : x.significand = 4503599627370496
          · exact hge (hle (isNarrow_iff.mpr ⟨hm, hE⟩))
          · have hm : 4503599627370497 ≤ x.significand := by omega
            have hmq : (4503599627370497 : ℚ) ≤ x.significand := by exact_mod_cast hm
            refine hge (le_trans ?_ h.low)
            nlinarith
      have hlog : floorLog2 num den < x.exponent + 52 := by
        have hlow := (floorLog2_spec hn hd).1.trans_lt (not_le.mp hge)
        rw [show (4503599627370496 : ℚ) = 2 ^ (52 : Int) by norm_num, ← zpow_add₀ (by norm_num),
          zpow_lt_zpow_iff_right₀ (by norm_num)] at hlow
        omega
      omega
  · refine roundAt_of_between hd (le_trans ?_ h.low) h.high fun hodd =>
      ⟨lt_of_le_of_lt ?_ (h.odd hodd).1, (h.odd hodd).2⟩
    · nlinarith
    · nlinarith

/-- A quotient of the reals that round to a double is rounded to it. -/
theorem ofRatio_eq {x : Binary64} (hx : x.IsPositive) {num den : Nat} (hn : 0 < num) (hd : 0 < den)
    (h : x.RoundedFrom (num / den)) : ofRatio false num den = x := by
  have hbits := bits_eq hx.notNegative
  have hfinite : x.bits.toNat < 2047 * 4503599627370496 := by
    have hlt := hx.finite
    have hfield : x.exponentField = x.bits.toNat / 4503599627370496 % 2048 := rfl
    have hneg := hx.notNegative
    unfold negative at hneg
    rw [decide_eq_false_iff_not] at hneg
    have : Nat.pow 2 63 = 9223372036854775808 := rfl
    omega
  by_cases hnarrow : x.isNarrow = true ∧ (num / den : ℚ) < 4503599627370496 * 2 ^ x.exponent
  · obtain ⟨hq, hm⟩ := roundAt_narrow hnarrow.1 hn hd h hnarrow.2
    obtain ⟨hs, hE⟩ := isNarrow_iff.mp hnarrow.1
    have hexp := exponent_eq (Nat.zero_lt_of_lt hE)
    have hsum : (x.exponent - 1 + 1074).toNat * 4503599627370496 + 9007199254740992 =
        x.bits.toNat := by
      omega
    rw [ofRatio_of_roundAt false hn hq hm (by omega), hsum, ofParts_bits]
  · obtain ⟨hq, hm⟩ := roundAt_even hn hd h fun hn => not_lt.mp fun hlt => hnarrow ⟨hn, hlt⟩
    rw [ofRatio_of_roundAt false hn hq hm (by omega), ← hbits, ofParts_bits]

end Exemplar.Binary64
