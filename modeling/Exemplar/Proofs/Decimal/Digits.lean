import Exemplar.Proofs.Decimal.Rounding
import Exemplar.Proofs.Lexer.Numbers

/-
  The digits of a double. Those that `shortest` finds are of the reals that round to the double, as
  a hit on a grid is and as the double itself is, which lies on the last grid; and a decimal of
  these reals is read as the double.
-/

namespace Exemplar.Binary64

theorem IsPositive.lower {x : Binary64} (hx : x.IsPositive) {r : ℚ} (h : x.RoundedFrom r) :
    (2 : ℚ) ^ (-1075 : Int) ≤ r := by
  have hm : (1 : ℚ) ≤ x.significand := by exact_mod_cast hx.significand
  have hgap := lowerGap_le x
  have hp := two_zpow_pos x.exponent
  have hq : -1074 ≤ x.exponent := by rcases significand_cases x with h | h <;> omega
  have hmono : (2 : ℚ) ^ (-1074 : Int) ≤ 2 ^ x.exponent := zpow_le_zpow_right₀ (by norm_num) hq
  calc (2 : ℚ) ^ (-1075 : Int) = 1 / 2 * 2 ^ (-1074 : Int) := by
        rw [show (-1075 : Int) = -1074 - 1 by norm_num, zpow_sub_one₀ (by norm_num)]
        ring
    _ ≤ 1 / 2 * 2 ^ x.exponent := by linarith
    _ ≤ (x.significand - x.lowerGap) * 2 ^ x.exponent := by nlinarith
    _ ≤ r := h.low

theorem IsPositive.upper {x : Binary64} (hx : x.IsPositive) {r : ℚ} (h : x.RoundedFrom r) :
    r < (2 : ℚ) ^ (1024 : Int) := by
  have hfraction := fraction_lt x
  have hfinite := hx.finite
  have hlt : x.significand < 9007199254740992 := by
    rcases significand_cases x with h | h <;> omega
  have hltq : (x.significand : ℚ) + 1 ≤ 9007199254740992 := by exact_mod_cast hlt
  have hp := two_zpow_pos x.exponent
  have hq : x.exponent ≤ 971 := by rcases significand_cases x with h | h <;> omega
  have hmono : (2 : ℚ) ^ x.exponent ≤ 2 ^ (971 : Int) := zpow_le_zpow_right₀ (by norm_num) hq
  calc r ≤ (x.significand + 1 / 2) * 2 ^ x.exponent := h.high
    _ < 9007199254740992 * 2 ^ x.exponent := by nlinarith
    _ ≤ 9007199254740992 * 2 ^ (971 : Int) := by linarith
    _ = 2 ^ (1024 : Int) := by
      rw [show (9007199254740992 : ℚ) = 2 ^ (53 : Int) by norm_num, ← zpow_add₀ (by norm_num)]
      norm_num

theorem IsPositive.digits_pos {x : Binary64} (hx : x.IsPositive) {n : Nat} {r : ℚ}
    (h : x.RoundedFrom (n * r)) : 0 < n := by
  refine Nat.pos_of_ne_zero fun h0 => ?_
  have hlow := hx.lower h
  rw [h0, Nat.cast_zero, zero_mul] at hlow
  exact absurd hlow (not_le.mpr (two_zpow_pos _))

/-- Decimals that round to a double have few zeros behind their digits. -/
theorem IsPositive.zeros_lt {x : Binary64} (hx : x.IsPositive) {n k : Nat}
    (h : x.RoundedFrom (n * 10 ^ (Int.ofNat k))) : k < 400 := by
  have hn : (1 : ℚ) ≤ n := by exact_mod_cast hx.digits_pos h
  by_contra hk
  have hbig : (2 : ℚ) ^ (1024 : Int) ≤ n * 10 ^ (Int.ofNat k) := calc
    (2 : ℚ) ^ (1024 : Int) ≤ 2 ^ (1200 : Int) := zpow_le_zpow_right₀ (by norm_num) (by norm_num)
    _ = (2 ^ 3) ^ 400 := by rw [← pow_mul, zpow_ofNat]
    _ ≤ 10 ^ 400 := pow_le_pow_left₀ (by norm_num) (by norm_num) 400
    _ ≤ 10 ^ k := pow_le_pow_right₀ (by norm_num) (Nat.not_lt.mp hk)
    _ = 10 ^ (Int.ofNat k) := by rw [Int.ofNat_eq_natCast, zpow_natCast]
    _ ≤ n * 10 ^ (Int.ofNat k) := le_mul_of_one_le_left (by positivity) hn
  exact absurd (hx.upper h) (not_lt.mpr hbig)

/-- Nor are they far behind the point. -/
theorem IsPositive.places_lt {x : Binary64} (hx : x.IsPositive) {n k : Nat}
    (h : x.RoundedFrom (n * 10 ^ (Int.negSucc k))) : k < Nat.log2 n + 2000 := by
  by_contra hk
  have hlog : (n : ℚ) < 2 ^ ((Nat.log2 n : Int) + 1) := by exact_mod_cast Nat.lt_log2_self
  have hten : (10 : ℚ) ^ (Int.negSucc k) ≤ 2 ^ (Int.negSucc k) := by
    rw [zpow_negSucc, zpow_negSucc]
    exact inv_anti₀ (by positivity) (pow_le_pow_left₀ (by norm_num) (by norm_num) _)
  have hsmall : (n * 10 ^ (Int.negSucc k) : ℚ) < 2 ^ (-1075 : Int) := calc
    (n * 10 ^ (Int.negSucc k) : ℚ) ≤ n * 2 ^ (Int.negSucc k) :=
      mul_le_mul_of_nonneg_left hten (by positivity)
    _ < 2 ^ ((Nat.log2 n : Int) + 1) * 2 ^ (Int.negSucc k) :=
      mul_lt_mul_of_pos_right hlog (two_zpow_pos _)
    _ = 2 ^ ((Nat.log2 n : Int) + 1 + Int.negSucc k) := (zpow_add₀ (by norm_num) _ _).symm
    _ ≤ 2 ^ (-1075 : Int) := zpow_le_zpow_right₀ (by norm_num) (by omega)
  exact absurd (hx.lower h) (not_le.mpr hsmall)

/-- A decimal of the reals that round to a double is read as the double. -/
theorem ofDecimal_eq {x : Binary64} (hx : x.IsPositive) {n : Nat} {e : Int}
    (h : x.RoundedFrom (n * 10 ^ e)) : ofDecimal false n e = x := by
  have hn := hx.digits_pos h
  have hne : ¬(n == 0) = true := by rw [beq_iff_eq]; omega
  unfold ofDecimal
  rw [if_neg hne]
  cases e with
  | ofNat k =>
    have hpow : (10 : ℚ) ^ (Int.ofNat k) = ((Nat.pow 10 k : Nat) : ℚ) := by
      rw [Int.ofNat_eq_natCast, zpow_natCast]
      exact_mod_cast rfl
    show (if 400 ≤ k then infinity false else ofRatio false (n * Nat.pow 10 k) 1) = x
    rw [if_neg (Nat.not_le.mpr (hx.zeros_lt h))]
    refine ofRatio_eq hx (Nat.mul_pos hn (Nat.pow_pos (by decide))) Nat.one_pos ?_
    rw [hpow] at h
    push_cast
    rw [div_one]
    exact_mod_cast h
  | negSucc k =>
    have hpow : (10 : ℚ) ^ (Int.negSucc k) = 1 / ((Nat.pow 10 (k + 1) : Nat) : ℚ) := by
      rw [zpow_negSucc, one_div, Nat.pow_eq]
      push_cast
      rfl
    show (if Nat.log2 n + 2000 ≤ k then ofParts false 0
      else ofRatio false n (Nat.pow 10 (k + 1))) = x
    rw [if_neg (Nat.not_le.mpr (hx.places_lt h))]
    refine ofRatio_eq hx hn (Nat.pow_pos (by decide)) ?_
    rw [hpow] at h
    rwa [mul_one_div] at h

end Exemplar.Binary64

namespace Exemplar.Decimal

open Binary64

theorem powerOfTen_pos (k : Int) : 0 < (powerOfTen k).1 ∧ 0 < (powerOfTen k).2 := by
  cases k with
  | ofNat k => exact ⟨Nat.pow_pos (by decide), Nat.one_pos⟩
  | negSucc k => exact ⟨Nat.one_pos, Nat.pow_pos (by decide)⟩

theorem powerOfTen_eq (k : Int) : ((powerOfTen k).1 : ℚ) / (powerOfTen k).2 = 10 ^ k := by
  cases k with
  | ofNat k =>
    show ((Nat.pow 10 k : Nat) : ℚ) / (1 : Nat) = _
    rw [Int.ofNat_eq_natCast, zpow_natCast, Nat.pow_eq]
    push_cast
    rw [div_one]
  | negSucc k =>
    show ((1 : Nat) : ℚ) / (Nat.pow 10 (k + 1) : Nat) = _
    rw [zpow_negSucc, Nat.pow_eq]
    push_cast
    rw [one_div]

theorem contains_power {x : Binary64} (hx : x.IsPositive) (d : Nat) (k : Int) :
    (intervalOf x).contains (d * (powerOfTen k).1) (powerOfTen k).2 = true ↔
      x.RoundedFrom (d * 10 ^ k) := by
  rw [contains_iff hx.significand (powerOfTen_pos k).2, ← powerOfTen_eq]
  push_cast
  rw [mul_div_assoc]

theorem neighbour_sound {x : Binary64} (hx : x.IsPositive) {place : Int} {n d : Nat}
    (h : (intervalOf x).neighbour? place n = some d) : x.RoundedFrom (d * 10 ^ (place - n)) := by
  rw [← contains_power hx]
  unfold Interval.neighbour? at h
  dsimp only at h
  split at h
  · rename_i hb
    rw [Bool.and_eq_true] at hb
    cases h
    split
    · exact hb.1
    · exact hb.2
  · split at h
    · cases h
      assumption
    · split at h
      · cases h
        assumption
      · cases h

/-- A double rounds to itself. -/
theorem roundedFrom_value {x : Binary64} : x.RoundedFrom x.value := by
  have hp := two_zpow_pos x.exponent
  have hgap : 0 < x.lowerGap := by
    unfold lowerGap
    split <;> norm_num
  have low : (x.significand - x.lowerGap) * 2 ^ x.exponent < x.value := by
    unfold value
    nlinarith
  have high : x.value < (x.significand + 1 / 2) * 2 ^ x.exponent := by
    unfold value
    nlinarith
  exact ⟨low.le, high.le, fun _ => ⟨low, high⟩⟩

theorem exponent_ge (x : Binary64) : -1074 ≤ x.exponent := by
  rcases significand_cases x with h | h <;> omega

theorem magnitude_dvd (x : Binary64) {j : Nat} (hj : 1074 ≤ j) : x.magnitude.2 ∣ 10 ^ j := by
  have hq := exponent_ge x
  unfold magnitude
  generalize x.exponent = q at hq ⊢
  cases q with
  | ofNat k => exact one_dvd _
  | negSucc k =>
    have hk : k + 1 ≤ j := by omega
    exact (pow_dvd_pow 2 hk).trans (pow_dvd_pow_of_dvd (by decide : 2 ∣ 10) j)

/-- On a fine grid a double is a grid point. -/
theorem value_on_grid (x : Binary64) {k : Int} (hk : k ≤ -1074) :
    (((intervalOf x).value * (powerOfTen k).2 / ((intervalOf x).den * (powerOfTen k).1) : Nat) : ℚ)
      * 10 ^ k = x.value := by
  obtain ⟨u, hu, hden, hnum, hunit⟩ := x.magnitude_units
  obtain ⟨j, rfl⟩ : ∃ j, k = Int.negSucc j := ⟨(-k - 1).toNat, by omega⟩
  obtain ⟨c, hc⟩ := magnitude_dvd x (j := j + 1) (by omega)
  have hdenq : (x.magnitude.2 : ℚ) ≠ 0 := by exact_mod_cast hden.ne'
  have hcq : (10 : ℚ) ^ (j + 1) = x.magnitude.2 * c := by exact_mod_cast hc
  have hcne : (c : ℚ) ≠ 0 := by
    intro h0
    rw [h0, mul_zero] at hcq
    exact absurd hcq (by positivity)
  have hgrid : (intervalOf x).value * (powerOfTen (Int.negSucc j)).2 /
      ((intervalOf x).den * (powerOfTen (Int.negSucc j)).1) = x.significand * u * c := by
    show 4 * x.magnitude.1 * 10 ^ (j + 1) / (4 * x.magnitude.2 * 1) = _
    rw [hc, hnum, show 4 * (x.significand * u) * (x.magnitude.2 * c) =
      4 * x.magnitude.2 * 1 * (x.significand * u * c) by ring]
    exact Nat.mul_div_cancel_left _ (by omega)
  rw [hgrid, zpow_negSucc, hcq]
  unfold value
  rw [← hunit]
  push_cast
  field_simp

theorem search_sound {x : Binary64} (hx : x.IsPositive) (place : Int) : ∀ fuel n : Nat,
    place - (n + fuel : Nat) ≤ -1074 → ∀ d k, (intervalOf x).search place fuel n = (d, k) →
      x.RoundedFrom (d * 10 ^ (place - k)) := by
  intro fuel
  induction fuel with
  | zero =>
    intro n hn d k h
    unfold Interval.search at h
    cases h
    rw [value_on_grid x (k := place - n) (by simpa using hn)]
    exact roundedFrom_value
  | succ fuel ih =>
    intro n hn d k h
    unfold Interval.search at h
    split at h
    · cases h
      exact neighbour_sound hx ‹_›
    · exact ih (n + 1) (by omega) d k h

/-! ## The digits -/

theorem ofDigits_append_zeros (ds : List Char) (t : Nat) :
    Numeral.ofDigits (ds ++ zeros t) = Numeral.ofDigits ds * 10 ^ t := by
  show Nat.ofDigitChars 10 (ds ++ List.replicate t '0') 0 = Nat.ofDigitChars 10 ds 0 * 10 ^ t
  rw [Nat.ofDigitChars_append, Nat.ofDigitChars_replicate_zero, Nat.mul_comm]

theorem dropTrailingZeros_append (ds : List Char) : ∃ t, ds = dropTrailingZeros ds ++ zeros t := by
  unfold dropTrailingZeros zeros
  have h := List.takeWhile_append_dropWhile (p := (· == '0')) (l := ds.reverse)
  refine ⟨(ds.reverse.takeWhile (· == '0')).length, ?_⟩
  have hall : ds.reverse.takeWhile (· == '0') =
      List.replicate (ds.reverse.takeWhile (· == '0')).length '0' := by
    refine List.eq_replicate_iff.mpr ⟨rfl, fun c hc => ?_⟩
    exact beq_iff_eq.mp (List.all_eq_true.mp List.all_takeWhile c hc)
  have := congrArg List.reverse h
  rw [List.reverse_append, List.reverse_reverse, hall, List.reverse_replicate] at this
  exact this.symm

/-- Digits that a positive double is read back from. -/
structure Digits.Reads (d : Digits) (x : Binary64) : Prop where
  digit : ∀ c ∈ d.digits, Syntax.isDigit c = true
  first : ∃ c r, d.digits = c :: r ∧ c ≠ '0'
  rounded : x.RoundedFrom (Numeral.ofDigits d.digits * 10 ^ (d.point - d.digits.length))

/-- The digits of a positive double are those that it is read back from. -/
theorem shortest_reads {x : Binary64} (hx : x.IsPositive) : (shortest x).Reads x := by
  unfold shortest
  dsimp only
  generalize hplace : placeOf (intervalOf x).value (intervalOf x).den = place
  generalize hs : (intervalOf x).search place (place + 1074).toNat 1 = r
  obtain ⟨d, n⟩ := r
  have hr := search_sound hx place _ _ (by omega) d n hs
  have hd : 0 < d := hx.digits_pos hr
  obtain ⟨t, ht⟩ := dropTrailingZeros_append (natDigits d)
  obtain ⟨c, s, hcs, hc⟩ := Syntax.natDigits_head hd
  have hall : ∀ c ∈ natDigits d, Syntax.isDigit c = true :=
    fun c hc => Syntax.isDigit_of_mem_natDigits hc
  have hvalue : Numeral.ofDigits (natDigits d) = d := Syntax.ofDigits_natDigits d
  change natDigits d = c :: s at hcs
  generalize natDigits d = ds at ht hcs hall hvalue ⊢
  generalize dropTrailingZeros ds = es at ht ⊢
  subst ht
  refine ⟨fun c hc => hall c (List.mem_append_left _ hc), ?_, ?_⟩
  · cases es with
    | nil =>
      exfalso
      rw [List.nil_append] at hcs
      have : c ∈ zeros t := hcs ▸ List.mem_cons_self ..
      exact hc (List.eq_of_mem_replicate this)
    | cons e es => exact ⟨e, es, rfl, (List.cons.inj hcs).1 ▸ hc⟩
  · rw [ofDigits_append_zeros] at hvalue
    rw [← hvalue] at hr
    have hlen : (zeros t).length = t := List.length_replicate
    rw [List.length_append, hlen]
    have : (Numeral.ofDigits es *
        10 ^ (place + ((es.length + t : Nat) : Int) - n - es.length) : ℚ) =
        (Numeral.ofDigits es * 10 ^ t : Nat) * 10 ^ (place - n) := by
      rw [show place + ((es.length + t : Nat) : Int) - n - es.length =
        (t : Int) + (place - n) by omega, zpow_add₀ (by norm_num), zpow_natCast]
      push_cast
      ring
    rw [this]
    exact hr

end Exemplar.Decimal
