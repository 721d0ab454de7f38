import Exemplar.Proofs.Decimal.Digits
import Exemplar.Syntax.Printer

/-
  The text of a double is read back. Both notations write the digits of `shortest` at their place,
  so that the number they write is of the reals that round to the double.
-/

namespace Exemplar.Decimal

open Binary64
open Syntax (WholeDigits IsExponent fractionText)

/-- A text that is scanned as one number and read as a double. -/
structure NumberText (s : List Char) (x : Binary64) : Prop where
  parts : ∃ whole part ex, s = whole ++ fractionText part ++ ex ∧ WholeDigits whole ∧
    (∀ c ∈ part, Syntax.isDigit c = true) ∧ IsExponent ex ∧ (part ≠ [] ∨ ex ≠ [])
  value : Numeral.readDecimal? false s = some x

theorem isDigit_zeros (n : Nat) : ∀ c ∈ zeros n, Syntax.isDigit c = true := by
  intro c hc
  rw [List.eq_of_mem_replicate hc]
  rfl

theorem ofDigits_zeros_append (n : Nat) (ds : List Char) :
    Numeral.ofDigits (zeros n ++ ds) = Numeral.ofDigits ds := by
  show Nat.ofDigitChars 10 (List.replicate n '0' ++ ds) 0 = Nat.ofDigitChars 10 ds 0
  rw [Nat.ofDigitChars_append, Nat.ofDigitChars_replicate_zero, Nat.mul_zero]

variable {d : Digits} {x : Binary64}

/-- Digits before and after a point. -/
theorem numberText_point (hx : x.IsPositive) (hd : d.Reads x) {whole p : List Char}
    (hw : WholeDigits whole) (hp : ∀ c ∈ p, Syntax.isDigit c = true) (hne : p ≠ [])
    (hvalue : (Numeral.ofDigits (whole ++ p) : ℚ) * 10 ^ (-(p.length : Int)) =
      Numeral.ofDigits d.digits * 10 ^ (d.point - d.digits.length)) :
    NumberText (whole ++ '.' :: p) x := by
  have htext : whole ++ '.' :: p = whole ++ fractionText p ++ [] := by
    obtain ⟨c, r, rfl⟩ := List.exists_cons_of_ne_nil hne
    rw [List.append_nil]
    rfl
  have hwne : whole ≠ [] := by
    obtain ⟨c, r, rfl, -⟩ := hw.exists_cons
    exact List.cons_ne_nil c r
  refine ⟨⟨whole, p, [], htext, hw, hp, .inl rfl, .inl hne⟩, ?_⟩
  rw [htext, Numeral.readDecimal_text hw.digit hwne hp (by simp [Numeral.EndsDigits]) (by decide)]
  refine congrArg some (ofDecimal_eq hx ?_)
  rw [hvalue]
  exact hd.rounded

theorem wholeDigits_append (hd : d.Reads x) {ds : List Char}
    (hds : ∀ c ∈ ds, Syntax.isDigit c = true) : WholeDigits (d.digits ++ ds) := by
  obtain ⟨c, r, hcr, hc⟩ := hd.first
  refine ⟨List.forall_mem_append.mpr ⟨hd.digit, hds⟩, .inr ⟨c, r ++ ds, ?_, hc⟩⟩
  rw [hcr]
  rfl

theorem wholeDigits_zero : WholeDigits ['0'] := ⟨List.forall_mem_singleton.mpr rfl, .inl rfl⟩

/-- The three places of the point: behind all digits, among them, and before them. -/
theorem positional_cases (hd : d.Reads x) :
    (∃ t : Nat, d.point = d.digits.length + t ∧ positional d = (d.digits ++ zeros t, [])) ∨
    (∃ a b, a ≠ [] ∧ b ≠ [] ∧ d.digits = a ++ b ∧ d.point = a.length ∧ positional d = (a, b)) ∨
    (∃ t : Nat, d.point = -(t : Int) ∧ positional d = (['0'], zeros t ++ d.digits)) := by
  have hlen : 0 < d.digits.length := by
    obtain ⟨c, r, hcr, -⟩ := hd.first
    rw [hcr]
    exact Nat.succ_pos _
  unfold positional
  cases d.point with
  | ofNat k =>
    dsimp only
    split
    · refine .inl ⟨k - d.digits.length, ?_, rfl⟩
      rw [Int.ofNat_eq_natCast]
      omega
    · rename_i hgt
      split
      · rename_i h0
        obtain rfl : k = 0 := by simpa using h0
        exact .inr (.inr ⟨0, rfl, rfl⟩)
      · rename_i h0
        have hk : k ≠ 0 := by simpa using h0
        refine .inr (.inl ⟨d.digits.take k, d.digits.drop k, ?_, ?_,
          (List.take_append_drop k d.digits).symm, ?_, rfl⟩)
        · rw [← List.length_pos_iff, List.length_take]
          omega
        · rw [← List.length_pos_iff, List.length_drop]
          omega
        · rw [List.length_take, Int.ofNat_eq_natCast]
          omega
  | negSucc k => exact .inr (.inr ⟨k + 1, rfl, rfl⟩)

/-- The text of digits in positional notation. -/
def positionalText (d : Digits) : List Char :=
  (positional d).1 ++ '.' :: (if (positional d).2.isEmpty then ['0'] else (positional d).2)

theorem numberText_positional (hx : x.IsPositive) (hd : d.Reads x) :
    NumberText (positionalText d) x := by
  unfold positionalText
  rcases positional_cases hd with
    ⟨t, hpoint, hpos⟩ | ⟨a, b, ha, hb, hab, hpoint, hpos⟩ | ⟨t, hpoint, hpos⟩
  · rw [hpos]
    refine numberText_point (p := ['0']) hx hd (wholeDigits_append hd (isDigit_zeros t))
      (List.forall_mem_singleton.mpr rfl) (List.cons_ne_nil _ _) ?_
    rw [List.append_assoc, show zeros t ++ ['0'] = zeros (t + 1) from List.replicate_succ'.symm,
      ofDigits_append_zeros, hpoint, add_sub_cancel_left, zpow_natCast, List.length_singleton,
      Nat.cast_one, zpow_neg_one, pow_succ]
    push_cast
    field_simp
  · obtain ⟨c, r, hcr, hc⟩ := hd.first
    obtain ⟨e, s, rfl⟩ := List.exists_cons_of_ne_nil ha
    obtain ⟨f, u, rfl⟩ := List.exists_cons_of_ne_nil hb
    have hdigit := List.forall_mem_append.mp (hab ▸ hd.digit)
    have he : e = c := (List.cons.inj (hab.symm.trans hcr)).1
    rw [hpos]
    refine numberText_point (p := f :: u) hx hd ⟨hdigit.1, .inr ⟨e, s, rfl, he ▸ hc⟩⟩ hdigit.2
      (List.cons_ne_nil _ _) ?_
    rw [← hab, hpoint]
    congr 2
    rw [hab, List.length_append]
    omega
  · have hne : zeros t ++ d.digits ≠ [] := by
      obtain ⟨c, r, hcr, -⟩ := hd.first
      rw [hcr]
      exact fun h => List.cons_ne_nil c r (List.append_eq_nil_iff.mp h).2
    have hempty : (zeros t ++ d.digits).isEmpty = false := by
      rw [← Bool.not_eq_true, List.isEmpty_iff]
      exact hne
    rw [hpos]
    dsimp only
    rw [hempty, if_neg Bool.false_ne_true]
    refine numberText_point hx hd wholeDigits_zero
      (List.forall_mem_append.mpr ⟨isDigit_zeros t, hd.digit⟩) hne ?_
    rw [show ['0'] ++ (zeros t ++ d.digits) = zeros (t + 1) ++ d.digits from rfl,
      ofDigits_zeros_append, hpoint]
    congr 2
    rw [List.length_append, show (zeros t).length = t from List.length_replicate]
    omega

/-- The exponent is read back. -/
theorem exponentText_eq (e : Int) : ∃ ds,
    exponentText e = (if decide (e < 0) then '-' else '+') :: ds ∧
    (∀ c ∈ ds, Syntax.isDigit c = true) ∧ ds ≠ [] ∧ Numeral.ofDigits ds = e.natAbs := by
  have hall : ∀ c ∈ natDigits e.natAbs, Syntax.isDigit c = true :=
    fun c hc => Syntax.isDigit_of_mem_natDigits hc
  have hvalue : Numeral.ofDigits (natDigits e.natAbs) = e.natAbs := Syntax.ofDigits_natDigits _
  have hne : natDigits e.natAbs ≠ [] := Nat.toDigits_ne_nil
  have hsign : (if e < 0 then '-' else '+') = (if decide (e < 0) then '-' else '+') := by simp
  unfold exponentText
  dsimp only
  rw [hsign]
  by_cases hlen : (natDigits e.natAbs).length < 2
  · rw [if_pos hlen]
    exact ⟨'0' :: natDigits e.natAbs, rfl, List.forall_mem_cons.mpr ⟨rfl, hall⟩,
      List.cons_ne_nil _ _, hvalue⟩
  · rw [if_neg hlen]
    exact ⟨natDigits e.natAbs, rfl, hall, hne, hvalue⟩

/-- The text of digits in scientific notation. -/
theorem numberText_scientific (hx : x.IsPositive) (hd : d.Reads x) :
    NumberText (scientific d) x := by
  obtain ⟨c, r, hcr, hc⟩ := hd.first
  obtain ⟨ds, hds, hdigit, hne, hvalue⟩ := exponentText_eq (d.point - 1)
  have hall := List.forall_mem_cons.mp (hcr ▸ hd.digit)
  have hsign : [if decide (d.point - 1 < 0) then '-' else '+'] = ['+'] ∨
      [if decide (d.point - 1 < 0) then '-' else '+'] = ['-'] := by
    split
    · exact .inr rfl
    · exact .inl rfl
  have htext : scientific d =
      [c] ++ fractionText r ++ 'e' :: (if decide (d.point - 1 < 0) then '-' else '+') :: ds := by
    unfold scientific
    rw [← hds, hcr]
    rfl
  refine ⟨⟨[c], r, _, htext, ⟨List.forall_mem_singleton.mpr hall.1, .inr ⟨c, [], rfl, hc⟩⟩, hall.2,
    .inr ⟨_, ds, rfl, .inr hsign, hdigit, hne⟩, .inr (List.cons_ne_nil _ _)⟩, ?_⟩
  have hend :
      Numeral.EndsDigits ('e' :: (if decide (d.point - 1 < 0) then '-' else '+') :: ds) := by
    intro c hc
    cases hc
    rfl
  rw [htext, Numeral.readDecimal_text (List.forall_mem_singleton.mpr hall.1)
    (List.cons_ne_nil _ _) hall.2 hend (by simp), Numeral.readExponent_signed _ _ _ hdigit hne]
  refine congrArg some (ofDecimal_eq hx ?_)
  have hscale : (-(r.length : Int) + if decide (d.point - 1 < 0) = true
      then -(Numeral.ofDigits ds : Int) else Numeral.ofDigits ds) = d.point - d.digits.length := by
    rw [hvalue, hcr, List.length_cons]
    split
    · rename_i h
      rw [decide_eq_true_eq] at h
      omega
    · rename_i h
      rw [decide_eq_true_eq] at h
      omega
  rw [hscale, List.singleton_append, ← hcr]
  exact hd.rounded

/-! ## Signs -/

theorem negative_iff (x : Binary64) : x.negative = true ↔ 9223372036854775808 ≤ x.bits.toNat := by
  unfold negative
  rw [decide_eq_true_eq]

theorem toNat_neg (x : Binary64) : x.neg.bits.toNat = x.bits.toNat % 9223372036854775808 +
    if x.negative then 0 else 9223372036854775808 := by
  have h63 : Nat.pow 2 63 = 9223372036854775808 := rfl
  show (UInt64.ofNat (x.bits.toNat % Nat.pow 2 63 +
    if !x.negative then Nat.pow 2 63 else 0)).toNat = _
  rw [UInt64.toNat_ofNat_of_lt' (by rw [h63]; split <;> (unfold UInt64.size; omega)), h63]
  cases x.negative <;> rfl

theorem negative_neg (x : Binary64) : x.neg.negative = !x.negative := by
  have hlt : x.bits.toNat < 18446744073709551616 := x.bits.toNat_lt
  have hbits := toNat_neg x
  cases h : x.negative with
  | false =>
    rw [h, if_neg Bool.false_ne_true] at hbits
    exact (negative_iff _).mpr (by omega)
  | true =>
    rw [h, if_pos rfl] at hbits
    show x.neg.negative = false
    rw [← Bool.not_eq_true, negative_iff]
    omega

theorem neg_neg (x : Binary64) : x.neg.neg = x := by
  have hlt : x.bits.toNat < 18446744073709551616 := x.bits.toNat_lt
  have hneg := negative_iff x
  have hbits : x.neg.neg.bits.toNat = x.bits.toNat := by
    rw [toNat_neg, toNat_neg, negative_neg]
    cases h : x.negative with
    | false =>
      rw [h] at hneg
      simp only [Bool.false_eq_true, false_iff, not_le] at hneg
      simp only [Bool.false_eq_true, if_false, Bool.not_false, if_true]
      omega
    | true =>
      rw [h] at hneg
      simp only [true_iff] at hneg
      simp only [if_true, Bool.not_true, Bool.false_eq_true, if_false]
      omega
  exact congrArg Binary64.mk (UInt64.toNat_inj.mp hbits)

theorem fields_neg (x : Binary64) :
    x.neg.exponentField = x.exponentField ∧ x.neg.fraction = x.fraction := by
  have hlt : x.bits.toNat < 18446744073709551616 := x.bits.toNat_lt
  have hbits := toNat_neg x
  have hE : ∀ y : Binary64, y.exponentField = y.bits.toNat / 4503599627370496 % 2048 := fun _ => rfl
  have hF : ∀ y : Binary64, y.fraction = y.bits.toNat % 4503599627370496 := fun _ => rfl
  rw [hE, hE, hF, hF, hbits]
  split <;> omega

/-- The size of a double is that of its opposite. -/
theorem interval_neg (x : Binary64) : intervalOf x.neg = intervalOf x := by
  obtain ⟨hE, hF⟩ := fields_neg x
  have hs : x.neg.significand = x.significand := by
    unfold significand
    rw [hE, hF]
  have he : x.neg.exponent = x.exponent := by
    unfold exponent
    rw [hE]
  have hm : x.neg.magnitude = x.magnitude := by
    unfold magnitude
    rw [hs, he]
  unfold intervalOf
  rw [hs, hm, hE]

theorem isNaN_neg (x : Binary64) : x.neg.isNaN = x.isNaN := by
  obtain ⟨hE, hF⟩ := fields_neg x
  unfold isNaN
  rw [hE, hF]

theorem isInfinite_neg (x : Binary64) : x.neg.isInfinite = x.isInfinite := by
  obtain ⟨hE, hF⟩ := fields_neg x
  unfold isInfinite
  rw [hE, hF]

theorem isZero_neg (x : Binary64) : x.neg.isZero = x.isZero := by
  obtain ⟨hE, hF⟩ := fields_neg x
  unfold isZero
  rw [hE, hF]

/-- The text of a double without its sign. -/
def sizeText (x : Binary64) : List Char :=
  if x.isInfinite then ['1', 'e', '3', '0', '9']
  else if x.isZero then ['0', '.', '0']
  else if -4 < (shortest x).point && (shortest x).point ≤ 16 then positionalText (shortest x)
  else scientific (shortest x)

theorem sizeText_neg (x : Binary64) : sizeText x.neg = sizeText x := by
  have h : shortest x.neg = shortest x := by
    unfold shortest
    rw [interval_neg]
  unfold sizeText
  rw [isInfinite_neg, isZero_neg, h]

theorem floatSource_eq {x : Binary64} (hx : x.isNaN = false) :
    (Syntax.floatSource x).toList = (if x.negative then ['-'] else []) ++ sizeText x := by
  unfold Syntax.floatSource sizeText floatText
  rw [hx]
  simp only [Bool.false_eq_true, if_false]
  cases x.negative <;> cases x.isInfinite <;> cases x.isZero <;> simp [positionalText]

/-- The bits of a double that is not negative. -/
theorem bits_of_fields {x : Binary64} (hx : x.negative = false) :
    x.bits.toNat = x.exponentField * 4503599627370496 + x.fraction := by
  have hneg := negative_iff x
  have hE : x.exponentField = x.bits.toNat / 4503599627370496 % 2048 := rfl
  have hF : x.fraction = x.bits.toNat % 4503599627370496 := rfl
  rw [hx] at hneg
  simp only [Bool.false_eq_true, false_iff, not_le] at hneg
  omega

theorem eq_of_fields {x y : Binary64} (hx : x.negative = false) (hy : y.negative = false)
    (hE : x.exponentField = y.exponentField) (hF : x.fraction = y.fraction) : x = y := by
  have : x.bits.toNat = y.bits.toNat := by rw [bits_of_fields hx, bits_of_fields hy, hE, hF]
  cases x
  cases y
  exact congrArg Binary64.mk (UInt64.toNat_inj.mp this)

theorem numberText_infinity : NumberText ['1', 'e', '3', '0', '9'] (infinity false) := by
  refine ⟨⟨['1'], [], ['e', '3', '0', '9'], rfl, ⟨?_, .inr ⟨'1', [], rfl, by decide⟩⟩, nofun,
    .inr ⟨[], ['3', '0', '9'], rfl, .inl rfl, ?_, nofun⟩, .inr (by decide)⟩, ?_⟩
  · exact List.all_eq_true.mp (by decide)
  · exact List.all_eq_true.mp (by decide)
  · decide +kernel

theorem numberText_zero : NumberText ['0', '.', '0'] zero := by
  refine ⟨⟨['0'], ['0'], [], rfl, wholeDigits_zero, ?_, .inl rfl, .inl (by decide)⟩, ?_⟩
  · exact List.all_eq_true.mp (by decide)
  · decide +kernel

/-- The text of a double that is not negative is read as the double. -/
theorem numberText_size {x : Binary64} (hn : x.isNaN = false) (hx : x.negative = false) :
    NumberText (sizeText x) x := by
  unfold sizeText
  split
  · rename_i h
    unfold isInfinite at h
    rw [Bool.and_eq_true, beq_iff_eq, beq_iff_eq] at h
    rw [eq_of_fields hx (y := infinity false) (by decide +kernel)
      (h.1.trans (by decide +kernel)) (h.2.trans (by decide +kernel))]
    exact numberText_infinity
  · rename_i hi
    split
    · rename_i h
      unfold isZero at h
      rw [Bool.and_eq_true, beq_iff_eq, beq_iff_eq] at h
      rw [eq_of_fields hx (y := zero) (by decide +kernel) (h.1.trans (by decide +kernel))
        (h.2.trans (by decide +kernel))]
      exact numberText_zero
    · rename_i hz
      have hpos : x.IsPositive := by
        refine ⟨hx, ?_, ?_⟩
        · have hlt : x.exponentField < 2048 := Nat.mod_lt _ (by decide)
          have hne : x.exponentField ≠ 2047 := by
            intro hE
            unfold isNaN at hn
            unfold isInfinite at hi
            rw [hE] at hn hi
            simp at hn hi
            exact hi hn
          omega
        · unfold isZero at hz
          rcases significand_cases x with ⟨h0, h1, -⟩ | ⟨-, h1, -⟩
          · rw [h0] at hz
            rw [h1]
            refine Nat.pos_of_ne_zero fun h => hz ?_
            rw [h]
            rfl
          · omega
      have hd := shortest_reads hpos
      split
      · exact numberText_positional hpos hd
      · exact numberText_scientific hpos hd

/-- The text of a double without its sign is read as the double without its sign. -/
theorem numberText_unsigned {x : Binary64} (hn : x.isNaN = false) :
    NumberText (sizeText x) (if x.negative then x.neg else x) := by
  cases hx : x.negative with
  | false => exact numberText_size hn hx
  | true =>
    rw [← sizeText_neg]
    exact numberText_size ((isNaN_neg x).trans hn) ((negative_neg x).trans (by rw [hx]; rfl))

theorem NumberText.head {s : List Char} {x : Binary64} (h : NumberText s x) :
    ∃ d t, Syntax.isDigit d = true ∧ s = d :: t := by
  obtain ⟨whole, part, ex, rfl, hw, -⟩ := h.parts
  obtain ⟨d, t, rfl, hd⟩ := hw.exists_cons
  exact ⟨d, _, hd, rfl⟩

/-! ## Integers -/

/-- An integer that has a text has no more digits than are read. -/
theorem natAbs_lt_of_short {n : Int} (h : isLong n = false) :
    n.natAbs < Nat.pow 10 maxDigits := by
  unfold isLong at h
  split at h
  · rename_i hlog
    have hpow : Nat.pow 2 shortBits ≤ Nat.pow 10 maxDigits := by decide +kernel
    have hexp : Nat.pow 2 (Nat.log2 n.natAbs + 1) ≤ Nat.pow 2 shortBits :=
      Nat.pow_le_pow_right (by decide) hlog
    have hlt : n.natAbs < Nat.pow 2 (Nat.log2 n.natAbs + 1) := Nat.lt_log2_self
    exact Nat.lt_of_lt_of_le hlt (Nat.le_trans hexp hpow)
  · exact Nat.lt_of_not_le (of_decide_eq_false h)

/-! ## The lexeme of a double -/

theorem plainDigits_eq {s : List Char} (h : '_' ∉ s) : Syntax.plainDigits s = s :=
  List.filter_eq_self.mpr fun _ hc => bne_iff_ne.mpr fun he => h (he ▸ hc)

theorem underscore_not_mem {ds : List Char} (h : ∀ c ∈ ds, Syntax.isDigit c = true) : '_' ∉ ds :=
  fun hc => absurd (h _ hc) (by decide)

theorem scans_float {s rest : List Char} (h : NumberText s x)
    (hr : Syntax.Behind Syntax.endsNumber rest) : Syntax.Scans s (.number (.float x)) rest := by
  obtain ⟨whole, part, ex, rfl, hw, hp, hex, hreal⟩ := h.parts
  have hno : '_' ∉ whole ++ fractionText part ++ ex := by
    simp only [List.mem_append, not_or]
    refine ⟨⟨underscore_not_mem hw.digit, ?_⟩, ?_⟩
    · unfold fractionText
      split
      · exact nofun
      · exact List.not_mem_cons_of_ne_of_not_mem (by decide) (underscore_not_mem hp)
    · rcases hex with rfl | ⟨sign, ds, rfl, hs, hds, -⟩
      · exact nofun
      · refine List.not_mem_cons_of_ne_of_not_mem (by decide) ?_
        rw [List.mem_append, not_or]
        refine ⟨?_, underscore_not_mem hds⟩
        rcases hs with rfl | rfl | rfl <;> decide
  have hlexeme :
      Syntax.realNumber (whole ++ fractionText part ++ ex) false = .number (.float x) := by
    unfold Syntax.realNumber
    rw [plainDigits_eq hno, h.value]
    rfl
  exact hlexeme ▸ Syntax.scans_real hw hp hex hreal hr

end Exemplar.Decimal
