import Exemplar.Proofs.Decimal.Text

/-
  Integers as doubles, and whole parts of doubles. An integer that is not zero is rounded on the
  grid that its binary logarithm gives, to a significand of 53 bits (`ofRatio_one`). So the size
  from which on an integer becomes infinite is halfway between the greatest double and the power of
  two after it (`isInfinite_ofInt`). The whole part of a finite double and even the integer after it
  stay below that (`ceil_bounds`).
-/

namespace Exemplar.Binary64

/-- Half of the step between the greatest doubles. -/
def halfStep : Nat := Nat.pow 2 970

/-- Halfway from the greatest double to the next power of two. -/
def tooLarge : Nat := 18014398509481983 * halfStep

theorem one_lt_halfStep : 1 < halfStep := by
  unfold halfStep
  generalize hm : 970 = m
  exact Nat.one_lt_two_pow (by omega)

theorem two_pow_of_add {n k : Nat} (h : n = k + 970) : 2 ^ n = 2 ^ k * halfStep := by
  unfold halfStep
  generalize 970 = m at h ⊢
  rw [h, pow_add, Nat.pow_eq]

theorem two_pow_le_of_le {n k : Nat} (h : n ≤ k + 970) : 2 ^ n ≤ 2 ^ k * halfStep :=
  (Nat.pow_le_pow_right Nat.two_pos h).trans_eq (two_pow_of_add rfl)

theorem le_two_pow_of_le {n k : Nat} (h : k + 970 ≤ n) : 2 ^ k * halfStep ≤ 2 ^ n :=
  (two_pow_of_add rfl).symm.trans_le (Nat.pow_le_pow_right Nat.two_pos h)

/-! ## Fields -/

theorem toNat_ofParts (negative : Bool) {rest : Nat} (h : rest < 9223372036854775808) :
    (ofParts negative rest).bits.toNat =
      rest + if negative then 9223372036854775808 else 0 := by
  have h63 : Nat.pow 2 63 = 9223372036854775808 := rfl
  show (UInt64.ofNat (rest + if negative then Nat.pow 2 63 else 0)).toNat = _
  rw [UInt64.toNat_ofNat_of_lt' (by rw [h63]; split <;> (unfold UInt64.size; omega)), h63]

theorem exponentField_ofParts (negative : Bool) {rest : Nat} (h : rest < 9223372036854775808) :
    (ofParts negative rest).exponentField = rest / 4503599627370496 := by
  have hbits := toNat_ofParts negative h
  have hE : (ofParts negative rest).exponentField =
      (ofParts negative rest).bits.toNat / 4503599627370496 % 2048 := rfl
  rw [hE, hbits]
  cases negative <;> simp only [Bool.false_eq_true, if_false, if_true] <;> omega

theorem isInfinite_infinity (negative : Bool) : (infinity negative).isInfinite = true := by
  cases negative <;> decide

/-! ## Rounding an integer -/

theorem floorLog2_one {n : Nat} (hn : 0 < n) : floorLog2 n 1 = Nat.log2 n := by
  refine floorLog2_eq hn Nat.one_pos ?_ ?_
  · rw [Nat.cast_one, div_one]
    exact_mod_cast Nat.log2_self_le hn.ne'
  · rw [Nat.cast_one, div_one]
    exact_mod_cast Nat.lt_log2_self

theorem roundQuotient_cases (num den : Nat) :
    roundQuotient num den = num / den ∨ roundQuotient num den = num / den + 1 := by
  unfold roundQuotient
  dsimp only
  split_ifs <;> simp

/-- Under an odd quotient a natural is rounded up to the next from halfway on. -/
theorem roundQuotient_eq_succ_iff {n h p : Nat} (hp : p % 2 = 1) (hn : n < (p + 1) * (2 * h)) :
    roundQuotient n (2 * h) = p + 1 ↔ p * (2 * h) + h ≤ n := by
  have hh : 0 < h := by
    rcases Nat.eq_zero_or_pos h with rfl | hh
    · omega
    · exact hh
  have hdiv := Nat.div_add_mod n (2 * h)
  have hmod := Nat.mod_lt n (Nat.mul_pos Nat.two_pos hh)
  have hle : n / (2 * h) ≤ p := Nat.lt_succ_iff.mp ((Nat.div_lt_iff_lt_mul (by omega)).mpr hn)
  rcases hle.lt_or_eq with hlt | heq
  · have hbelow : n < p * (2 * h) := (Nat.div_lt_iff_lt_mul (by omega)).mp hlt
    refine iff_of_false (fun hr => ?_) (by omega)
    rcases roundQuotient_cases n (2 * h) with hr' | hr' <;> omega
  · rw [heq, mul_comm] at hdiv
    unfold roundQuotient
    dsimp only
    rw [heq]
    generalize n % (2 * h) = r at hdiv hmod ⊢
    split_ifs with h1 h2 h3
    · omega
    · omega
    · rw [beq_iff_eq] at h3
      omega
    · omega

/-- The significand of an integer, which 53 bits hold but for a carry. -/
def significandOf (n : Nat) : Nat := roundAt n 1 ((Nat.log2 n : Int) - 52)

theorem significandOf_small {n : Nat} (hn : Nat.log2 n ≤ 52) :
    significandOf n = n * Nat.pow 2 (52 - Nat.log2 n) := by
  have hone (a : Nat) : roundQuotient a 1 = a := by simp [roundQuotient, Nat.mod_one]
  unfold significandOf
  rcases hn.lt_or_eq with hlt | heq
  · have hneg : (Nat.log2 n : Int) - 52 = Int.negSucc (51 - Nat.log2 n) := by omega
    have hexp : 51 - Nat.log2 n + 1 = 52 - Nat.log2 n := by omega
    rw [hneg, roundAt, hone, hexp]
  · have hzero : (Nat.log2 n : Int) - 52 = Int.ofNat 0 := by
      rw [heq]
      rfl
    rw [hzero, roundAt, heq]
    simp [hone]

theorem significandOf_large {n : Nat} (hn : 52 ≤ Nat.log2 n) :
    significandOf n = roundQuotient n (Nat.pow 2 (Nat.log2 n - 52)) := by
  have hpos : (Nat.log2 n : Int) - 52 = Int.ofNat (Nat.log2 n - 52) := by
    show _ = ((Nat.log2 n - 52 : Nat) : Int)
    omega
  rw [significandOf, hpos, roundAt, Nat.one_mul]

theorem significandOf_bounds {n : Nat} (hn : 0 < n) :
    4503599627370496 ≤ significandOf n ∧ significandOf n ≤ 9007199254740992 := by
  have hlow := Nat.log2_self_le hn.ne'
  have hhigh := Nat.lt_log2_self (n := n)
  rcases Nat.le_total (Nat.log2 n) 52 with h | h
  · rw [significandOf_small h, Nat.pow_eq]
    have h52 : 2 ^ Nat.log2 n * 2 ^ (52 - Nat.log2 n) = 4503599627370496 := by
      rw [← pow_add, Nat.add_sub_cancel' h]
      rfl
    constructor
    · rw [← h52]
      exact Nat.mul_le_mul_right _ hlow
    · calc n * 2 ^ (52 - Nat.log2 n) ≤ 2 ^ (Nat.log2 n + 1) * 2 ^ (52 - Nat.log2 n) :=
            Nat.mul_le_mul_right _ hhigh.le
        _ = 4503599627370496 * 2 := by rw [pow_succ, mul_right_comm, h52]
  · rw [significandOf_large h, Nat.pow_eq]
    have hsplit : 2 ^ Nat.log2 n = 4503599627370496 * 2 ^ (Nat.log2 n - 52) := by
      rw [show 4503599627370496 = 2 ^ 52 by rfl, ← pow_add, Nat.add_sub_cancel' h]
    have hpow := Nat.two_pow_pos (Nat.log2 n - 52)
    have hq : 4503599627370496 ≤ n / 2 ^ (Nat.log2 n - 52) := by
      rw [Nat.le_div_iff_mul_le hpow, ← hsplit]
      exact hlow
    have hq' : n / 2 ^ (Nat.log2 n - 52) < 9007199254740992 := by
      rw [Nat.div_lt_iff_lt_mul hpow]
      calc n < 2 ^ (Nat.log2 n + 1) := hhigh
        _ = 9007199254740992 * 2 ^ (Nat.log2 n - 52) := by
          rw [pow_succ, hsplit]
          ring
    rcases roundQuotient_cases n (2 ^ (Nat.log2 n - 52)) with hr | hr <;> omega

/-- An integer as a double: its significand and its exponent side by side, if they fit. -/
theorem ofRatio_one (negative : Bool) {n : Nat} (hn : 0 < n) :
    ofRatio negative n 1 =
      if 2047 * 4503599627370496 ≤ (Nat.log2 n + 1022) * 4503599627370496 + significandOf n then
        infinity negative
      else ofParts negative ((Nat.log2 n + 1022) * 4503599627370496 + significandOf n) := by
  have hne : ¬(n == 0) = true := by rw [beq_iff_eq]; omega
  have hq : max (floorLog2 n 1 - 52) (-1074) = (Nat.log2 n : Int) - 52 := by
    rw [floorLog2_one hn]
    omega
  have hplace : ((Nat.log2 n : Int) - 52 + 1074).toNat = Nat.log2 n + 1022 := by omega
  rw [← hplace]
  unfold significandOf
  rw [← hq]
  unfold ofRatio
  rw [if_neg hne]
  rfl

/-- What goes beyond the exponents of finite doubles. -/
theorem overflows_iff {n : Nat} (hn : 0 < n) :
    2047 * 4503599627370496 ≤ (Nat.log2 n + 1022) * 4503599627370496 + significandOf n ↔
      tooLarge ≤ n := by
  obtain ⟨hlow, hhigh⟩ := significandOf_bounds hn
  have hself := Nat.log2_self_le hn.ne'
  have hlt := Nat.lt_log2_self (n := n)
  have hpos := one_lt_halfStep
  rcases lt_trichotomy (Nat.log2 n) 1023 with h | h | h
  · have hsmall : n < 2 ^ 53 * halfStep := hlt.trans_le (two_pow_le_of_le (by omega))
    unfold tooLarge
    exact iff_of_false (by omega) (by omega)
  · have hstep : 2 ^ (Nat.log2 n - 52) = 2 * halfStep := by
      rw [two_pow_of_add (k := 1) (by omega), pow_one]
    have hsig : significandOf n = roundQuotient n (2 * halfStep) := by
      rw [significandOf_large (by omega), Nat.pow_eq, hstep]
    have hbelow : n < 2 ^ 54 * halfStep := hlt.trans_le (two_pow_le_of_le (by omega))
    have hround := roundQuotient_eq_succ_iff (n := n) (h := halfStep) (p := 9007199254740991)
      (by decide) (by omega)
    rw [← hsig] at hround
    unfold tooLarge
    omega
  · have hlarge : 2 ^ 54 * halfStep ≤ n := (le_two_pow_of_le (by omega)).trans hself
    unfold tooLarge
    exact iff_of_true (by omega) (by omega)

theorem ofInt_eq (n : Int) : ofInt n = ofRatio (n < 0) n.natAbs 1 := rfl

/-- An integer that is not zero is a double with a place, and finite below a bound. -/
theorem ofInt_cases {n : Int} (hn : n ≠ 0) :
    (tooLarge ≤ n.natAbs ∧ ofInt n = infinity (n < 0)) ∨
      n.natAbs < tooLarge ∧ ∃ rest, 4503599627370496 ≤ rest ∧ rest < 2047 * 4503599627370496 ∧
        ofInt n = ofParts (n < 0) rest := by
  have hpos : 0 < n.natAbs := Int.natAbs_pos.mpr hn
  have hiff := overflows_iff hpos
  rw [ofInt_eq, ofRatio_one _ hpos]
  split
  · rename_i h
    exact .inl ⟨hiff.mp h, rfl⟩
  · rename_i h
    exact .inr ⟨Nat.lt_of_not_le (mt hiff.mpr h), _, by omega, Nat.lt_of_not_le h, rfl⟩

/-- An integer becomes infinite from a size on. -/
theorem isInfinite_ofInt (n : Int) : (ofInt n).isInfinite = true ↔ tooLarge ≤ n.natAbs := by
  by_cases hn : n = 0
  · subst hn
    refine iff_of_false (by decide) (Nat.not_le.mpr ?_)
    exact Nat.mul_pos (by decide) (Nat.zero_lt_of_lt one_lt_halfStep)
  · rcases ofInt_cases hn with ⟨hlarge, heq⟩ | ⟨hsmall, rest, -, hrest, heq⟩
    · rw [heq, isInfinite_infinity]
      exact iff_of_true rfl hlarge
    · have hbits : rest < 9223372036854775808 := by omega
      have hE := exponentField_ofParts (decide (n < 0)) hbits
      have hne : (rest / 4503599627370496 == 2047) = false := beq_eq_false_iff_ne.mpr (by omega)
      rw [heq]
      unfold isInfinite
      rw [hE, hne]
      exact iff_of_false Bool.false_ne_true (Nat.not_le.mpr hsmall)

/-- A positive integer that is not too large becomes a positive double. -/
theorem isPositive_ofInt {n : Int} (hpos : 0 < n) (hn : n < tooLarge) : (ofInt n).IsPositive := by
  have hsign : decide (n < 0) = false := decide_eq_false (Int.not_lt.mpr hpos.le)
  rcases ofInt_cases hpos.ne' with ⟨hlarge, -⟩ | ⟨-, rest, hlow, hrest, heq⟩
  · omega
  · have hbelow : rest < 9223372036854775808 := by omega
    have hbits := toNat_ofParts false hbelow
    have hE := exponentField_ofParts false hbelow
    rw [heq, hsign]
    refine ⟨?_, by omega, ?_⟩
    · rw [← Bool.not_eq_true, Decimal.negative_iff, hbits, if_neg Bool.false_ne_true]
      omega
    · rcases significand_cases (ofParts false rest) with ⟨h, -, -⟩ | ⟨-, h, -⟩ <;> omega

/-! ## The next integer -/

theorem ceil_eq {x : Binary64} (hx : x.negative = false) :
    x.ceil = ((x.magnitude.1 + x.magnitude.2 - 1) / x.magnitude.2 : Nat) := by
  have hmagnitude : x.neg.magnitude = x.magnitude := by
    unfold magnitude significand exponent
    rw [(Decimal.fields_neg x).1, (Decimal.fields_neg x).2]
  show -(if x.neg.negative then -(((x.neg.magnitude.1 + x.neg.magnitude.2 - 1) /
    x.neg.magnitude.2 : Nat) : Int) else _) = _
  rw [hmagnitude, Decimal.negative_neg, hx, Bool.not_false, if_pos rfl, Int.neg_neg]

/-- The size of a finite double as a quotient, below a bound. -/
theorem magnitude_le {x : Binary64} (hx : x.exponentField < 2047) :
    x.magnitude.1 ≤ 18014398509481982 * halfStep * x.magnitude.2 := by
  have hs : x.significand ≤ 9007199254740991 := by
    have := fraction_lt x
    rcases significand_cases x with ⟨-, h, -⟩ | ⟨-, h, -⟩ <;> omega
  have hexponent : x.exponent ≤ 971 := by
    rcases significand_cases x with ⟨-, -, h⟩ | ⟨-, -, h⟩ <;> omega
  unfold magnitude
  cases hE : x.exponent with
  | ofNat k =>
    rw [hE, Int.ofNat_eq_natCast] at hexponent
    have hpow : 2 ^ k ≤ 2 ^ 1 * halfStep := two_pow_le_of_le (by omega)
    calc x.significand * 2 ^ k ≤ 9007199254740991 * (2 ^ 1 * halfStep) := Nat.mul_le_mul hs hpow
      _ = 18014398509481982 * halfStep * 1 := by omega
  | negSucc k =>
    have hstep := one_lt_halfStep
    calc x.significand ≤ 18014398509481982 * halfStep := by omega
      _ ≤ 18014398509481982 * halfStep * 2 ^ (k + 1) := Nat.le_mul_of_pos_right _ (by positivity)

/-- The least integer that is not below a positive double is positive, and the one after it is still
not too large. -/
theorem ceil_bounds {x : Binary64} (hx : x.IsPositive) :
    0 < x.ceil ∧ x.ceil + 1 < tooLarge := by
  obtain ⟨unit, hunit, hden, hnum, -⟩ := magnitude_units x
  have hpos : 0 < x.magnitude.1 := hnum ▸ Nat.mul_pos hx.significand hunit
  have hle := magnitude_le hx.finite
  have hstep := one_lt_halfStep
  rw [ceil_eq hx.notNegative]
  generalize x.magnitude.1 = num at hpos hle
  generalize x.magnitude.2 = den at hden hle
  have hlow : 1 ≤ (num + den - 1) / den := (Nat.le_div_iff_mul_le hden).mpr (by omega)
  have hhigh : (num + den - 1) / den < 18014398509481982 * halfStep + 1 := by
    rw [Nat.div_lt_iff_lt_mul hden, Nat.add_mul]
    omega
  unfold tooLarge
  omega

end Exemplar.Binary64
