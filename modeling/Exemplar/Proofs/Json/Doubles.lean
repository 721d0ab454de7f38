import Exemplar.Proofs.Decimal.Text
import Exemplar.Proofs.Json.Documents

/-
  Documents with doubles read back. The text of a double has a point or an exponent, so that it is
  read as a double again, and by `numberText_size` as the same one; with a sign in front it is read
  as its negative. A document is read from its written form if its integers are short enough and
  what is no number in it is the one that is read for the word (`Readable.read_toText`).
-/

namespace Exemplar

namespace Binary64

theorem ofParts_neg {n : Nat} (h : n < 9223372036854775808) :
    ofParts true n = (ofParts false n).neg := by
  have hbits : (ofParts false n).bits.toNat = n := by
    show (UInt64.ofNat (n + 0)).toNat = n
    exact UInt64.toNat_ofNat_of_lt' (by unfold UInt64.size; omega)
  have hnegative : (ofParts false n).negative = false := by
    rw [← Bool.not_eq_true, Decimal.negative_iff, hbits]
    omega
  have hmod : n % Nat.pow 2 63 = n := Nat.mod_eq_of_lt h
  unfold neg
  rw [hnegative, hbits, hmod]
  rfl

theorem infinity_neg : infinity true = (infinity false).neg := ofParts_neg (by decide)

theorem rounded_neg (n : Nat) :
    (if 2047 * Nat.pow 2 52 ≤ n then infinity true else ofParts true n) =
      (if 2047 * Nat.pow 2 52 ≤ n then infinity false else ofParts false n).neg := by
  have hmax : 2047 * Nat.pow 2 52 < 9223372036854775808 := by decide
  by_cases h : 2047 * Nat.pow 2 52 ≤ n
  · rw [if_pos h, if_pos h, infinity_neg]
  · rw [if_neg h, if_neg h]
    exact ofParts_neg (Nat.lt_trans (Nat.lt_of_not_le h) hmax)

theorem ofRatio_neg (num den : Nat) : ofRatio true num den = (ofRatio false num den).neg := by
  unfold ofRatio
  split
  · exact ofParts_neg (by decide)
  · exact rounded_neg _

theorem ofDecimal_neg (digits : Nat) (exponent : Int) :
    ofDecimal true digits exponent = (ofDecimal false digits exponent).neg := by
  unfold ofDecimal
  split
  · exact ofParts_neg (by decide)
  · split
    · split
      · exact infinity_neg
      · exact ofRatio_neg _ _
    · split
      · exact ofParts_neg (by decide)
      · exact ofRatio_neg _ _

end Binary64

namespace Json

open Numeral (EndsDigits ofDigits readExponent splitSign)
open Syntax (IsExponent WholeDigits fractionText)

/-! ## Numbers in parts -/

/-- The digits in front: a zero stands alone. -/
def splitWhole : List Char → List Char
  | '0' :: _ => ['0']
  | r => r.takeWhile Numeral.isDigit

/-- The digits after a point if there are any, and the rest. -/
def splitPart (s : List Char) : List Char × List Char :=
  match s with
  | '.' :: r =>
    let ds := r.takeWhile Numeral.isDigit
    if ds.isEmpty then ([], s) else (ds, r.drop ds.length)
  | r => ([], r)

/-- The exponent if there is one, and the rest. -/
def splitPower (s : List Char) : Option Int × List Char :=
  match s with
  | e :: r =>
    if e == 'e' || e == 'E' then
      let (down, t) := splitSign r
      let ds := t.takeWhile Numeral.isDigit
      if ds.isEmpty then (none, s)
      else
        let k : Int := ofDigits ds
        (some (if down then -k else k), t.drop ds.length)
    else (none, s)
  | [] => (none, s)

/-- The number from its parts; `s` is the whole text. -/
def ofParts (negative : Bool) (whole part : List Char) (power : Option Int) (rest s : List Char) :
    Read Json :=
  if part.isEmpty && power.isNone then
    if 4300 < whole.length then fail (.tooManyDigits whole.length) s
    else
      let n : Int := ofDigits whole
      .ok (.int (if negative then -n else n), rest)
  else
    let scale : Int := power.getD 0 - part.length
    .ok (.float (.ofDecimal negative (ofDigits (whole ++ part)) scale), rest)

/-- A number behind its sign. -/
def readUnsigned (negative : Bool) (s body : List Char) : Read Json :=
  let whole := splitWhole body
  if whole.isEmpty then fail .expectingValue s
  else
    let (part, rest) := splitPart (body.drop whole.length)
    let (power, rest) := splitPower rest
    ofParts negative whole part power rest s

theorem readNumber_signed (r : List Char) : readNumber ('-' :: r) = readUnsigned true ('-' :: r) r :=
  rfl

theorem readNumber_unsigned {c : Char} (hc : c ≠ '-') (r : List Char) :
    readNumber (c :: r) = readUnsigned false (c :: r) (c :: r) := by
  unfold readNumber
  split
  rename_i heq
  split at heq
  · exact absurd (List.cons.inj ‹_›).1 hc
  · cases heq
    rfl

variable {whole part ex rest : List Char}

theorem splitWhole_append (hw : WholeDigits whole) (hr : EndsDigits rest) :
    splitWhole (whole ++ rest) = whole := by
  have hspan := (Numeral.span_digits hw.digit hr).1
  rcases hw.first with rfl | ⟨d, t, rfl, hd⟩
  · rfl
  · unfold splitWhole
    split
    · rename_i heq
      exact absurd (List.cons.inj heq).1 hd
    · exact hspan

theorem splitPart_append (hp : ∀ c ∈ part, Numeral.isDigit c = true) (hr : EndsDigits rest)
    (hdot : rest.head? ≠ some '.') : splitPart (fractionText part ++ rest) = (part, rest) := by
  cases part with
  | nil =>
    show splitPart rest = _
    unfold splitPart
    split
    · exact absurd rfl hdot
    · rfl
  | cons d t =>
    have hspan := (Numeral.span_digits hp hr).1
    have hpoint (r : List Char) : splitPart ('.' :: r) =
        if (r.takeWhile Numeral.isDigit).isEmpty then ([], '.' :: r)
        else (r.takeWhile Numeral.isDigit, r.drop (r.takeWhile Numeral.isDigit).length) := rfl
    show splitPart ('.' :: (d :: t ++ rest)) = _
    rw [hpoint, hspan, List.drop_left]
    rfl

/-- The exponent is read as it is where nothing follows. -/
theorem splitPower_append (hex : IsExponent ex) (hr : Closes rest) :
    ∃ power, splitPower (ex ++ rest) = (power, rest) ∧ (power = none ↔ ex = []) ∧
      ∀ digits scale, readExponent digits scale ex =
        some (.ofDecimal false digits (scale + power.getD 0)) := by
  rcases hex with rfl | ⟨sign, ds, rfl, hsign, hds, hne⟩
  · refine ⟨none, ?_, by simp, fun digits scale => by simp [readExponent]⟩
    cases rest with
    | nil => rfl
    | cons c r =>
      have hc := hr c rfl
      unfold endsNumber at hc
      simp only [Bool.and_eq_true, bne_iff_ne] at hc
      simp [splitPower, hc.1.2, hc.2]
  · obtain ⟨d, t, rfl⟩ := List.exists_cons_of_ne_nil hne
    have hd := hds d (.head _)
    have hminus : d ≠ '-' := ne_of_isDigit hd rfl
    have hplus : d ≠ '+' := ne_of_isDigit hd rfl
    have hall : (d :: t).all Numeral.isDigit = true := List.all_eq_true.mpr hds
    have hspan := (Numeral.span_digits hds hr.endsDigits).1
    have hsplit (r : List Char) : splitSign (sign ++ (d :: t ++ r)) =
        (decide (sign = ['-']), d :: t ++ r) := by
      rcases hsign with rfl | rfl | rfl
      · unfold splitSign
        split
        · rename_i heq
          exact absurd (List.cons.inj heq).1 hminus
        · rename_i heq
          exact absurd (List.cons.inj heq).1 hplus
        · rfl
      · rfl
      · rfl
    have hplain := hsplit []
    rw [List.append_nil] at hplain
    refine ⟨some (if sign = ['-'] then -(ofDigits (d :: t) : Int) else ofDigits (d :: t)), ?_,
      by simp, fun digits scale => ?_⟩
    · show splitPower ('e' :: (sign ++ d :: t ++ rest)) = _
      rw [List.append_assoc]
      unfold splitPower
      simp only [hsplit, hspan, List.drop_left]
      simp
    · unfold readExponent
      simp only [hplain, hall]
      simp

/-- Neither a digit nor a point follows the digits in front of an exponent or of the end. -/
theorem ends_append (hex : IsExponent ex) (hr : Closes rest) :
    EndsDigits (ex ++ rest) ∧ (ex ++ rest).head? ≠ some '.' := by
  rcases hex with rfl | ⟨sign, ds, rfl, -⟩
  · refine ⟨hr.endsDigits, fun hdot => ?_⟩
    have hc := hr '.' (hdot ▸ rfl)
    cases hc
  · refine ⟨?_, by simp⟩
    rintro _ ⟨⟩
    rfl

/-! ## Doubles -/

theorem readUnsigned_real {x : Binary64} {text : List Char} (h : Decimal.NumberText text x)
    (hr : Closes rest) (negative : Bool) (s : List Char) :
    readUnsigned negative s (text ++ rest) =
      .ok (.float (if negative then x.neg else x), rest) := by
  obtain ⟨whole, part, ex, rfl, hw, hp, hex, hreal⟩ := h.parts
  obtain ⟨power, hpower, hnone, hvalue⟩ := splitPower_append hex hr
  obtain ⟨hends, hdot⟩ := ends_append hex hr
  have hne : whole ≠ [] := by
    obtain ⟨c, r, rfl, -⟩ := hw.exists_cons
    exact List.cons_ne_nil c r
  have hx : Binary64.ofDecimal false (ofDigits (whole ++ part)) (power.getD 0 - part.length) =
      x := by
    have hclosed : Closes [] := nofun
    obtain ⟨hends, hdot⟩ := ends_append hex hclosed
    rw [List.append_nil] at hends hdot
    have hread := Numeral.readDecimal_text hw.digit hne hp hends hdot
    rw [h.value, hvalue, Int.add_comm, ← Int.sub_eq_add_neg] at hread
    exact (Option.some.inj hread).symm
  have hwhole := splitWhole_append hw (Numeral.endsDigits_text part hends)
  have hparts : readUnsigned negative s (whole ++ (fractionText part ++ (ex ++ rest))) =
      ofParts negative whole part power rest s := by
    unfold readUnsigned
    simp only [hwhole, List.drop_left, splitPart_append hp hends hdot, hpower,
      List.isEmpty_eq_false_iff.mpr hne, Bool.false_eq_true, if_false]
  have hfloat : (part.isEmpty && power.isNone) = false := by
    rw [Bool.and_eq_false_iff, List.isEmpty_eq_false_iff, Option.isNone_eq_false_iff,
      Option.isSome_iff_ne_none, Ne, Ne, hnone]
    exact hreal
  rw [List.append_assoc, List.append_assoc, hparts, ofParts, if_neg (by simp [hfloat])]
  cases negative with
  | false => simp only [hx, Bool.false_eq_true, if_false]
  | true => simp only [Binary64.ofDecimal_neg, hx, if_true]

/-- The text of a finite double, with its sign. -/
theorem writeFloat_finite {x : Binary64} (hn : x.isNaN = false) (hi : x.isInfinite = false) :
    writeFloat x = (if x.negative then ['-'] else []) ++ Decimal.sizeText x := by
  rw [← Decimal.floatSource_eq hn]
  simp [writeFloat, Syntax.floatSource, hn, hi]

/-- Where a double is no number, it is the one that is read for the word. -/
def IsPlain (x : Binary64) : Prop := x.isNaN = true → x = .nan

theorem eq_infinity {x : Binary64} (h : x.isInfinite = true) : x = .infinity x.negative := by
  have positive {y : Binary64} (hi : y.isInfinite = true) (hy : y.negative = false) :
      y = .infinity false := by
    unfold Binary64.isInfinite at hi
    rw [Bool.and_eq_true, beq_iff_eq, beq_iff_eq] at hi
    exact Decimal.eq_of_fields hy (by decide +kernel) (hi.1.trans (by decide +kernel))
      (hi.2.trans (by decide +kernel))
  cases hx : x.negative with
  | false => exact positive h hx
  | true =>
    have hneg := positive ((Decimal.isInfinite_neg x).trans h)
      ((Decimal.negative_neg x).trans (by rw [hx]; rfl))
    rw [Binary64.infinity_neg, ← hneg, Decimal.neg_neg]

/-- The text of a finite double begins with a digit after its sign. -/
theorem writeFloat_head {x : Binary64} (hn : x.isNaN = false) (hi : x.isInfinite = false) :
    ∃ d t, Numeral.isDigit d = true ∧ (writeFloat x = d :: t ∨ writeFloat x = '-' :: d :: t) := by
  obtain ⟨d, t, hd, h⟩ := (Decimal.numberText_unsigned hn).head
  refine ⟨d, t, hd, ?_⟩
  rw [writeFloat_finite hn hi, h]
  split
  · exact .inr rfl
  · exact .inl rfl

/-- A word for a double is read when those before it are not there. -/
theorem readScalar_nan (rest : List Char) :
    readScalar ("NaN".toList ++ rest) = .ok (.float .nan, rest) := by
  have other {w : String} {c : Char} {t : List Char} (hw : w.toList = c :: t) (hc : c ≠ 'N') :
      word? w ("NaN".toList ++ rest) = none := word_ne _ _ hw hc
  simp only [readScalar, other (w := "null") rfl (by decide), other (w := "true") rfl (by decide),
    other (w := "false") rfl (by decide), word_append]

theorem readScalar_infinity (negative : Bool) (rest : List Char) :
    readScalar ((if negative then "-Infinity" else "Infinity").toList ++ rest) =
      .ok (.float (.infinity negative), rest) := by
  have other {w : String} {c : Char} {t : List Char} (hw : w.toList = c :: t)
      (hc : c ≠ 'I' ∧ c ≠ '-') :
      word? w ((if negative then "-Infinity" else "Infinity").toList ++ rest) = none := by
    cases negative with
    | false => exact word_ne _ _ hw hc.1
    | true => exact word_ne _ _ hw hc.2
  simp only [readScalar, other (w := "null") rfl (by decide), other (w := "true") rfl (by decide),
    other (w := "false") rfl (by decide), other (w := "NaN") rfl (by decide)]
  cases negative with
  | false => simp only [Bool.false_eq_true, if_false, word_append]
  | true =>
    have plain : word? "Infinity" ("-Infinity".toList ++ rest) = none :=
      word_ne _ _ rfl (by decide)
    simp only [if_true, plain, word_append]

theorem readScalar_finite {x : Binary64} (hn : x.isNaN = false) (hi : x.isInfinite = false)
    {rest : List Char} (hr : Closes rest) :
    readScalar (writeFloat x ++ rest) = .ok (.float x, rest) := by
  have htext := Decimal.numberText_unsigned hn
  obtain ⟨d, t, hd, hdt⟩ := htext.head
  have hread := fun negative s => readUnsigned_real htext hr negative s
  rw [writeFloat_finite hn hi]
  cases hx : x.negative with
  | false =>
    simp only [hx, hdt, Bool.false_eq_true, if_false, List.nil_append, List.cons_append] at hread ⊢
    rw [readScalar_number hd (.inl rfl), readNumber_unsigned (ne_of_isDigit hd rfl), hread]
    simp only [Bool.false_eq_true, if_false]
  | true =>
    simp only [hx, hdt, if_true, List.nil_append, List.cons_append] at hread ⊢
    rw [readScalar_number hd (.inr rfl), readNumber_signed, hread]
    simp only [if_true, Decimal.neg_neg]

theorem readScalar_float {x : Binary64} (hx : IsPlain x) {rest : List Char} (hr : Closes rest) :
    readScalar (writeFloat x ++ rest) = .ok (.float x, rest) := by
  cases hn : x.isNaN with
  | true =>
    rw [writeFloat, if_pos hn, readScalar_nan, hx hn]
  | false =>
    cases hi : x.isInfinite with
    | true =>
      rw [writeFloat, if_neg (by simp [hn]), if_pos hi, readScalar_infinity, ← eq_infinity hi]
    | false => exact readScalar_finite hn hi hr

/-! ## Documents -/

/-- The text of a double begins with a digit, a sign or one of two letters. -/
theorem writeFloat_begins (x : Binary64) : ∃ c r, writeFloat x = c :: r ∧
    beginsValue c = true ∧ c ≠ '"' ∧ c ≠ '[' ∧ c ≠ '\x7b' := by
  cases hn : x.isNaN with
  | true => exact ⟨'N', ['a', 'N'], by rw [writeFloat, if_pos hn]; rfl, rfl, by decide⟩
  | false =>
    cases hi : x.isInfinite with
    | true =>
      have hw : writeFloat x = (if x.negative then "-Infinity" else "Infinity").toList := by
        rw [writeFloat, if_neg (by simp [hn]), if_pos hi]
      rw [hw]
      cases x.negative with
      | false => exact ⟨'I', _, rfl, rfl, by decide⟩
      | true => exact ⟨'-', _, rfl, rfl, by decide⟩
    | false =>
      obtain ⟨d, t, hd, h | h⟩ := writeFloat_head hn hi
      · have other {c : Char} (hc : Numeral.isDigit c = false) : d ≠ c := ne_of_isDigit hd hc
        exact ⟨d, t, h, beginsValue_of_isDigit hd, other rfl, other rfl, other rfl⟩
      · exact ⟨'-', d :: t, h, rfl, by decide⟩

theorem ReadsBack.float {ascii : Bool} {x : Binary64} (hx : IsPlain x) :
    ReadsBack ascii (.float x) := by
  obtain ⟨c, r, hw, hc, hne⟩ := writeFloat_begins x
  exact .of_scalar hw hc hne fun _ => readScalar_float hx

/-- Documents that read back: no integer is longer than is read, and what is no number is plain. -/
inductive Readable : Json → Prop
  | null : Readable .null
  | bool (b : Bool) : Readable (.bool b)
  | int {n : Int} (h : IsShort n) : Readable (.int n)
  | float {x : Binary64} (h : IsPlain x) : Readable (.float x)
  | str (s : String) : Readable (.str s)
  | arr {items : List Json} (h : ∀ x ∈ items, Readable x) : Readable (.arr items)
  | obj {fields : List (String × Json)} (h : ∀ p ∈ fields, Readable p.2) : Readable (.obj fields)

namespace Readable

variable {ascii : Bool} {j : Json}

theorem begins (h : Readable j) : Begins ascii j := by
  cases h with
  | @float x _ =>
    obtain ⟨c, r, hw, hc, -⟩ := writeFloat_begins x
    exact ⟨c, r, hw, hc⟩
  | null => exact (Integral.null : Legible .null).begins
  | bool b => exact (Integral.bool b : Legible (.bool b)).begins
  | @int n hn => exact (Integral.int hn : Legible (.int n)).begins
  | str s => exact (Integral.str s : Legible (.str s)).begins
  | arr _ => exact ⟨_, _, rfl, rfl⟩
  | obj _ => exact ⟨_, _, rfl, rfl⟩

theorem readsBack (h : Readable j) : ReadsBack ascii j := by
  induction h with
  | null => exact .null
  | bool b => exact .bool b
  | int hn => exact .int hn
  | float hx => exact .float hx
  | str s => exact .str s
  | arr hl ih => exact .arr (fun x hx => (hl x hx).begins) ih
  | obj hl ih => exact .obj (fun p hp => (hl p hp).begins) ih

/-- A document is read from its text. -/
theorem read_toText (h : Readable j) : read? j.toText = some j := by
  have hread : read (write false j ++ []) = .ok j :=
    h.readsBack.read_written h.begins (List.forall_mem_nil _)
  rw [List.append_nil] at hread
  unfold read? toText
  rw [String.toList_ofList, hread]
  rfl

end Readable

end Json

end Exemplar
