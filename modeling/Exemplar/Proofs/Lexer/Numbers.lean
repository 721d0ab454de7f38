import Exemplar.Decimal.Numeral
import Exemplar.Proofs.Lexer.Lexing

/-
  Scanning numbers: integers in decimal digits, and numbers with a point or an exponent, in front of
  what goes on with no number.

  Reading a decimal: digits, a fraction and an exponent are read as the double nearest to the number
  that they write.
-/

namespace Exemplar.Syntax

/-! ## Digits -/

/-- A character that no number goes on with. -/
def endsNumber (c : Char) : Bool := endsWord c && c != '.'

/-- A character that no row of digits goes on with. -/
def endsDigits (c : Char) : Bool :=
  !isDigit c && c != '_' && !(['x', 'X', 'o', 'O', 'b', 'B'].contains c)

theorem digitsTail_all {ds rest : List Char} {digit : Char → Bool} (fault : Char → LexFault)
    (h : ∀ c ∈ ds, digit c = true) (hr : Behind (fun c => !digit c && c != '_') rest) :
    digitsTail digit fault (ds ++ rest) = .ok (ds, rest) := by
  induction ds with
  | nil =>
    obtain ⟨c, r, rfl, hc⟩ := hr
    simp only [Bool.and_eq_true, Bool.not_eq_true', bne_iff_ne] at hc
    simp [digitsTail, hc.1, hc.2]
  | cons c ds ih =>
    have hd := h c (.head _)
    rw [List.cons_append]
    unfold digitsTail
    rw [if_pos hd, ih fun x hx => h x (.tail _ hx)]
    rfl

theorem Behind.imp {p q : Char → Bool} {rest : List Char} (h : Behind p rest)
    (hpq : ∀ c, p c = true → q c = true) : Behind q rest := by
  obtain ⟨c, r, rfl, hc⟩ := h
  exact ⟨c, r, rfl, hpq c hc⟩

theorem decimalTail_all {ds rest : List Char} (h : ∀ c ∈ ds, isDigit c = true)
    (hr : Behind endsDigits rest) : decimalTail (ds ++ rest) = .ok (ds, rest) := by
  refine digitsTail_all _ h (hr.imp fun c hc => ?_)
  unfold endsDigits at hc
  simp only [Bool.and_eq_true] at hc ⊢
  exact hc.1

theorem isWordPart_of_isDigit {c : Char} (h : isDigit c = true) : isWordPart c = true := by
  unfold isDigit at h
  unfold isWordPart Char.isAlphanum
  have : c.isDigit = true := by
    unfold Char.isDigit
    simp only [Bool.and_eq_true, decide_eq_true_eq] at h ⊢
    exact h
  rw [this, Bool.or_true]
  rfl

theorem endsDigits_of_endsNumber {c : Char} (h : endsNumber c = true) : endsDigits c = true := by
  unfold endsNumber endsWord at h
  simp only [Bool.and_eq_true, Bool.not_eq_true', bne_iff_ne] at h
  obtain ⟨⟨⟨hpart, -⟩, -⟩, -⟩ := h
  have hd : isDigit c = false := Bool.eq_false_iff.mpr fun hd => by
    rw [isWordPart_of_isDigit hd] at hpart
    cases hpart
  have hne : ∀ d, isWordPart d = true → c ≠ d := by
    rintro d hd rfl
    rw [hd] at hpart
    cases hpart
  unfold endsDigits
  simp [hd, hne '_' rfl, hne 'x' rfl, hne 'X' rfl, hne 'o' rfl, hne 'O' rfl, hne 'b' rfl,
    hne 'B' rfl]

/-- Digits that a number can begin with: a zero stands alone. -/
structure WholeDigits (ds : List Char) : Prop where
  digit : ∀ c ∈ ds, isDigit c = true
  first : ds = ['0'] ∨ ∃ c r, ds = c :: r ∧ c ≠ '0'

theorem scanNumber_whole {ds rest : List Char} (h : WholeDigits ds) (hr : Behind endsDigits rest) :
    scanNumber (ds ++ rest) = scanFraction ds rest := by
  have tail := decimalTail_all h.digit hr
  rcases h.first with rfl | ⟨c, r, rfl, hc⟩
  · obtain ⟨d, r, rfl, hd⟩ := hr
    unfold endsDigits at hd
    simp only [Bool.and_eq_true, Bool.not_eq_true', List.contains_eq_mem, decide_eq_false_iff_not,
      List.mem_cons, List.not_mem_nil, or_false, not_or] at hd
    obtain ⟨-, hx, hX, ho, hO, hb, hB⟩ := hd
    unfold scanNumber
    rw [List.singleton_append] at tail ⊢
    simp only [tail]
    split
    · exact absurd (List.cons.inj ‹_›).1 hx
    · exact absurd (List.cons.inj ‹_›).1 hX
    · exact absurd (List.cons.inj ‹_›).1 ho
    · exact absurd (List.cons.inj ‹_›).1 hO
    · exact absurd (List.cons.inj ‹_›).1 hb
    · exact absurd (List.cons.inj ‹_›).1 hB
    · rfl
  · have hdot : c ≠ '.' := fun hdot => absurd (hdot ▸ h.digit c (.head _)) (by decide)
    unfold scanNumber
    rw [List.cons_append] at tail ⊢
    split
    · exact absurd (List.cons.inj ‹_›).1 hc
    · exact absurd (List.cons.inj ‹_›).1 hdot
    · rw [tail]
      rfl

/-! ## What follows the digits -/

/-- The lexeme of a number from its text, which holds no underscore. -/
def numberOf (isReal : Bool) (taken : List Char) : Lexeme :=
  if isReal then realNumber taken false else .number (.int (Numeral.ofDigits (plainDigits taken)))

theorem endNumber_ok {rest : List Char} (h : Behind endsNumber rest) (kind : String) :
    endNumber kind rest = .ok () := by
  obtain ⟨c, r, rfl, hc⟩ := h
  unfold endsNumber endsWord at hc
  simp only [Bool.and_eq_true, Bool.not_eq_true'] at hc
  simp [endNumber, hc.1.1.1]

theorem ne_of_endsNumber {c d : Char} (h : endsNumber c = true) (hd : isWordPart d = true) :
    (c == d) = false := by
  refine beq_false_of_ne ?_
  rintro rfl
  unfold endsNumber endsWord at h
  simp [hd] at h

theorem scanExponent_end {taken rest : List Char} {isReal : Bool} (h : Behind endsNumber rest)
    (hlen : isReal = true ∨ (plainDigits taken).length ≤ 4300) :
    scanExponent taken isReal rest = .ok (numberOf isReal taken, taken, rest) := by
  have hend := endNumber_ok h "decimal"
  obtain ⟨c, r, rfl, hc⟩ := h
  unfold scanExponent numberOf
  simp only [ne_of_endsNumber hc (d := 'e') rfl, ne_of_endsNumber hc (d := 'E') rfl,
    ne_of_endsNumber hc (d := 'j') rfl, ne_of_endsNumber hc (d := 'J') rfl, Bool.or_false,
    Bool.false_eq_true, if_false, hend]
  cases isReal with
  | true => rfl
  | false =>
    have hlen : ¬4300 < (plainDigits taken).length := by simpa using hlen
    show (if 4300 < (plainDigits taken).length then _ else _) = _
    rw [if_neg hlen]
    rfl

/-- The exponent of a number: none, or a letter and digits, with a sign or without. -/
def IsExponent (ex : List Char) : Prop :=
  ex = [] ∨ ∃ sign ds, ex = 'e' :: (sign ++ ds) ∧ (sign = [] ∨ sign = ['+'] ∨ sign = ['-']) ∧
    (∀ c ∈ ds, isDigit c = true) ∧ ds ≠ []

theorem scanExponent_real {taken ex rest : List Char} {isReal : Bool} (hex : IsExponent ex)
    (hreal : isReal = true ∨ ex ≠ []) (hr : Behind endsNumber rest) :
    scanExponent taken isReal (ex ++ rest) =
      .ok (realNumber (taken ++ ex) false, taken ++ ex, rest) := by
  rcases hex with rfl | ⟨sign, ds, rfl, hs, hds, hne⟩
  · obtain rfl : isReal = true := by simpa using hreal
    rw [List.append_nil, List.nil_append, scanExponent_end hr (.inl rfl)]
    rfl
  · have tail := decimalTail_all hds (hr.imp fun c => endsDigits_of_endsNumber)
    have hend := endNumber_ok hr "decimal"
    obtain ⟨d, t, rfl⟩ := List.exists_cons_of_ne_nil hne
    obtain ⟨c, r, rfl, hc⟩ := hr
    have hd := hds d (.head _)
    have hsigned : (d == '+' || d == '-') = false := by
      simp only [Bool.or_eq_false_iff, beq_eq_false_iff_ne]
      refine ⟨?_, ?_⟩ <;> rintro rfl <;> cases hd
    rw [List.cons_append] at tail
    rcases hs with rfl | rfl | rfl
    · rw [List.nil_append, List.cons_append, List.cons_append]
      unfold scanExponent
      simp only [hsigned, hd, if_true, Bool.false_eq_true, if_false, tail, beq_self_eq_true,
        Bool.true_or]
      show (if (c == 'j' || c == 'J') = true then _ else _) = _
      rw [ne_of_endsNumber hc (d := 'j') rfl, ne_of_endsNumber hc (d := 'J') rfl, hend]
      rfl
    all_goals
      rw [List.singleton_append, List.cons_append, List.cons_append, List.cons_append]
      unfold scanExponent
      simp only [hd, if_true, tail, beq_self_eq_true, Bool.true_or, Bool.or_true]
      show (if (c == 'j' || c == 'J') = true then _ else _) = _
      rw [ne_of_endsNumber hc (d := 'j') rfl, ne_of_endsNumber hc (d := 'J') rfl, hend]
      rfl

/-- The part of a number after its point. -/
def fractionText (part : List Char) : List Char := if part.isEmpty then [] else '.' :: part

theorem endsDigits_of_exponent {ex rest : List Char} (hex : IsExponent ex)
    (hr : Behind endsNumber rest) : Behind (fun c => endsDigits c && c != '.') (ex ++ rest) := by
  rcases hex with rfl | ⟨sign, ds, rfl, -⟩
  · refine hr.imp fun c hc => ?_
    have := (Bool.and_eq_true_iff.mp hc).2
    rw [endsDigits_of_endsNumber hc, this]
    rfl
  · exact ⟨'e', sign ++ ds ++ rest, rfl, rfl⟩

/-- A number with a point or an exponent. -/
theorem scanNumber_real {whole part ex rest : List Char} (hw : WholeDigits whole)
    (hp : ∀ c ∈ part, isDigit c = true) (hex : IsExponent ex) (hreal : part ≠ [] ∨ ex ≠ [])
    (hr : Behind endsNumber rest) :
    scanNumber (whole ++ (fractionText part ++ (ex ++ rest))) =
      .ok (realNumber (whole ++ fractionText part ++ ex) false, whole ++ fractionText part ++ ex,
        rest) := by
  have hend := endsDigits_of_exponent hex hr
  have hdigits : Behind endsDigits (ex ++ rest) :=
    hend.imp fun c hc => (Bool.and_eq_true_iff.mp hc).1
  cases part with
  | nil =>
    have hex' : ex ≠ [] := by simpa using hreal
    rw [show fractionText [] = [] from rfl, List.nil_append, List.append_nil,
      scanNumber_whole hw hdigits]
    obtain ⟨c, r, heq, hc⟩ := hend
    unfold scanFraction
    rw [heq]
    split
    · rename_i hdot
      rw [(List.cons.inj hdot).1] at hc
      cases hc
    · rw [← heq]
      exact scanExponent_real hex (.inr hex') hr
  | cons d t =>
    have tail := decimalTail_all hp hdigits
    have hd := hp d (.head _)
    rw [show fractionText (d :: t) = '.' :: d :: t from rfl, List.cons_append,
      scanNumber_whole hw ⟨'.', d :: t ++ (ex ++ rest), rfl, rfl⟩]
    rw [List.cons_append] at tail
    simp only [List.cons_append, scanFraction, hd, if_true, tail]
    exact scanExponent_real hex (.inl rfl) hr

/-- An integer. -/
theorem scanNumber_int {ds rest : List Char} (h : WholeDigits ds) (hr : Behind endsNumber rest)
    (hlen : ds.length ≤ 4300) :
    scanNumber (ds ++ rest) = .ok (.number (.int (Numeral.ofDigits ds)), ds, rest) := by
  have plain : plainDigits ds = ds := by
    refine List.filter_eq_self.mpr fun c hc => ?_
    have hd := h.digit c hc
    refine bne_iff_ne.mpr ?_
    rintro rfl
    cases hd
  rw [scanNumber_whole h (hr.imp fun c => endsDigits_of_endsNumber)]
  unfold scanFraction
  split
  · obtain ⟨c, r, heq, hc⟩ := hr
    rename_i hdot
    rw [(List.cons.inj heq).1.symm] at hc
    cases hc
  · rw [scanExponent_end hr (.inr (by rw [plain]; exact hlen))]
    unfold numberOf
    rw [plain]
    rfl

/-! ## Numbers at the front of a text -/

theorem scanLexeme_digit {c : Char} (hc : isDigit c = true) (p : Place) (r : List Char) :
    scanLexeme p (c :: r) = scanNumber (c :: r) := by
  have hval : c.toNat ≤ 57 := by
    unfold isDigit at hc
    simp only [Bool.and_eq_true, decide_eq_true_eq] at hc
    exact hc.2
  have halpha : c.isAlpha = false := Bool.eq_false_iff.mpr fun h => by
    replace h : (decide (c.val ≥ 'A'.val ∧ c.val ≤ 'Z'.val) ||
      decide (c.val ≥ 'a'.val) && decide (c.val ≤ 'z'.val)) = true := h
    simp only [Bool.or_eq_true, Bool.and_eq_true, decide_eq_true_eq, UInt32.le_iff_toNat_le,
      ge_iff_le] at h
    have : c.toNat = c.val.toNat := rfl
    have : 'A'.val.toNat = 65 := rfl
    have : 'a'.val.toNat = 97 := rfl
    omega
  have hne : ∀ d, isDigit d = false → (c == d) = false := by
    intro d hd
    refine beq_false_of_ne ?_
    rintro rfl
    rw [hc] at hd
    cases hd
  have hstart : isWordStart c = false := by
    unfold isWordStart
    rw [halpha, hne '_' rfl, Bool.or_false, Bool.false_or]
    simp only [decide_eq_false_iff_not]
    omega
  have hsplit : splitPrefix? (c :: r) = none := by
    unfold splitPrefix?
    simp [halpha, hne '\'' rfl, hne '"' rfl]
  unfold scanLexeme
  rw [hsplit]
  simp only [hstart, hc, Bool.false_eq_true, if_false, if_true]

theorem staysOnLine_of_isDigit {c : Char} (h : isDigit c = true) : staysOnLine c = true :=
  staysOnLine_of_isWordPart (isWordPart_of_isDigit h)

theorem beginsLexeme_of_isDigit {c : Char} (h : isDigit c = true) : beginsLexeme c = true := by
  unfold beginsLexeme isSkipped
  simp only [Bool.and_eq_true, Bool.not_eq_true', Bool.or_eq_false_iff, bne_iff_ne,
    beq_eq_false_iff_ne]
  refine ⟨⟨⟨⟨⟨?_, ?_⟩, ?_⟩, ?_⟩, ?_⟩, ?_⟩ <;> rintro rfl <;> cases h

theorem WholeDigits.exists_cons {ds : List Char} (h : WholeDigits ds) :
    ∃ c r, ds = c :: r ∧ isDigit c = true := by
  rcases h.first with rfl | ⟨c, r, rfl, -⟩
  · exact ⟨'0', [], rfl, rfl⟩
  · exact ⟨c, r, rfl, h.digit c (.head _)⟩

theorem staysOnLine_of_exponent {ex : List Char} (h : IsExponent ex) :
    ∀ c ∈ ex, staysOnLine c = true := by
  rcases h with rfl | ⟨sign, ds, rfl, hs, hds, -⟩
  · exact nofun
  · refine List.forall_mem_cons.mpr ⟨rfl, List.forall_mem_append.mpr ⟨?_, fun c hc =>
      staysOnLine_of_isDigit (hds c hc)⟩⟩
    rcases hs with rfl | rfl | rfl
    · exact nofun
    · exact List.forall_mem_singleton.mpr rfl
    · exact List.forall_mem_singleton.mpr rfl

theorem scans_real {whole part ex rest : List Char} (hw : WholeDigits whole)
    (hp : ∀ c ∈ part, isDigit c = true) (hex : IsExponent ex) (hreal : part ≠ [] ∨ ex ≠ [])
    (hr : Behind endsNumber rest) : Scans (whole ++ fractionText part ++ ex)
      (realNumber (whole ++ fractionText part ++ ex) false) rest := by
  have hscan := scanNumber_real hw hp hex hreal hr
  obtain ⟨c, r, hwhole, hc⟩ := hw.exists_cons
  refine ⟨fun p => ?_, ⟨c, r ++ fractionText part ++ ex, by rw [hwhole]; rfl,
    beginsLexeme_of_isDigit hc⟩, ?_⟩
  · rw [List.append_assoc, List.append_assoc]
    rw [hwhole] at hscan ⊢
    exact (scanLexeme_digit hc p _).trans hscan
  · refine List.forall_mem_append.mpr ⟨List.forall_mem_append.mpr ⟨fun c hc =>
      staysOnLine_of_isDigit (hw.digit c hc), ?_⟩, staysOnLine_of_exponent hex⟩
    unfold fractionText
    split
    · exact nofun
    · exact List.forall_mem_cons.mpr ⟨rfl, fun c hc => staysOnLine_of_isDigit (hp c hc)⟩

/-! ## Digits of naturals -/

theorem isDigit_of_mem_natDigits {n : Nat} {c : Char} (h : c ∈ Nat.toDigits 10 n) :
    isDigit c = true := by
  have := Nat.isDigit_of_mem_toDigits (by decide) (by decide) h
  unfold Char.isDigit at this
  unfold isDigit
  simp only [Bool.and_eq_true, decide_eq_true_eq] at this ⊢
  exact this

theorem digitChar_ne_zero : ∀ d < 10, d ≠ 0 → Nat.digitChar d ≠ '0' := by decide

/-- The digits of a positive number begin with another than zero. -/
theorem natDigits_head {n : Nat} (hn : 0 < n) : ∃ c r, Nat.toDigits 10 n = c :: r ∧ c ≠ '0' := by
  induction n using Nat.strongRecOn with
  | _ n ih =>
    rw [Nat.toDigits_eq_if (by decide)]
    split
    · exact ⟨_, [], rfl, digitChar_ne_zero n (by omega) (by omega)⟩
    · obtain ⟨c, r, h, hc⟩ := ih (n / 10) (by omega) (by omega)
      exact ⟨c, r ++ [Nat.digitChar (n % 10)], by rw [h]; rfl, hc⟩

theorem wholeDigits_natDigits (n : Nat) : WholeDigits (Nat.toDigits 10 n) := by
  refine ⟨fun c hc => isDigit_of_mem_natDigits hc, ?_⟩
  rcases Nat.eq_zero_or_pos n with rfl | hn
  · exact .inl (Nat.toDigits_zero 10)
  · exact .inr (natDigits_head hn)

theorem ofDigits_natDigits (n : Nat) : Numeral.ofDigits (Nat.toDigits 10 n) = n :=
  Nat.ofDigitChars_ten_toDigits

theorem scans_int {n : Nat} (hn : n < Nat.pow 10 Decimal.maxDigits) {rest : List Char}
    (hr : Behind endsNumber rest) : Scans (Nat.toDigits 10 n) (.number (.int n)) rest := by
  have hw := wholeDigits_natDigits n
  have hlen := (Nat.length_toDigits_le_iff (k := Decimal.maxDigits) (by decide) (by decide)).mpr hn
  have hscan := scanNumber_int hw hr hlen
  rw [ofDigits_natDigits] at hscan
  obtain ⟨c, r, hwhole, hc⟩ := hw.exists_cons
  refine ⟨fun p => ?_, ⟨c, r, hwhole, beginsLexeme_of_isDigit hc⟩, fun c hc =>
    staysOnLine_of_isDigit (hw.digit c hc)⟩
  rw [hwhole] at hscan ⊢
  exact (scanLexeme_digit hc p _).trans hscan

end Exemplar.Syntax

namespace Exemplar.Numeral

open Syntax (fractionText)

/-- A text that is at its end or goes on with no digit. -/
def EndsDigits (rest : List Char) : Prop := ∀ c ∈ rest.head?, isDigit c = false

theorem span_digits {ds rest : List Char} (h : ∀ c ∈ ds, isDigit c = true) (hr : EndsDigits rest) :
    (ds ++ rest).takeWhile isDigit = ds ∧ (ds ++ rest).dropWhile isDigit = rest := by
  rw [List.takeWhile_append_of_pos h, List.dropWhile_append_of_pos h]
  cases rest with
  | nil => exact ⟨List.append_nil ds, rfl⟩
  | cons c rest =>
    have hc := hr c rfl
    rw [List.takeWhile_cons_of_neg (by rw [hc]; exact Bool.false_ne_true),
      List.dropWhile_cons_of_neg (by rw [hc]; exact Bool.false_ne_true)]
    exact ⟨List.append_nil ds, rfl⟩

/-- What `readDecimal?` reads once digits and fraction are known. -/
def readExponent (digits : Nat) (scale : Int) : List Char → Option Binary64
  | [] => some (.ofDecimal false digits scale)
  | e :: r =>
    if e == 'e' || e == 'E' then
      if (splitSign r).2.isEmpty || !(splitSign r).2.all isDigit then none
      else
        some (.ofDecimal false digits
          (scale + if (splitSign r).1 then -(ofDigits (splitSign r).2 : Int)
            else ofDigits (splitSign r).2))
    else none

/-- The digits after a point, and the rest. -/
def splitFraction : List Char → List Char × List Char
  | '.' :: r => (r.takeWhile isDigit, r.dropWhile isDigit)
  | r => ([], r)

theorem readDecimal_eq (s : List Char) : readDecimal? false s =
    if (s.takeWhile isDigit).isEmpty && (splitFraction (s.dropWhile isDigit)).1.isEmpty then none
    else readExponent (ofDigits (s.takeWhile isDigit ++ (splitFraction (s.dropWhile isDigit)).1))
      (-((splitFraction (s.dropWhile isDigit)).1.length : Int))
      (splitFraction (s.dropWhile isDigit)).2 := by
  unfold readDecimal? readExponent splitFraction
  rfl

theorem splitFraction_text {part ex : List Char} (hp : ∀ c ∈ part, isDigit c = true)
    (hex : EndsDigits ex) (hdot : ex.head? ≠ some '.') :
    splitFraction (fractionText part ++ ex) = (part, ex) := by
  cases part with
  | nil =>
    rw [show fractionText [] = [] from rfl, List.nil_append]
    unfold splitFraction
    split
    · exact absurd rfl hdot
    · rfl
  | cons d t =>
    obtain ⟨h1, h2⟩ := span_digits hp hex
    show ((d :: t ++ ex).takeWhile isDigit, (d :: t ++ ex).dropWhile isDigit) = _
    rw [h1, h2]

theorem endsDigits_text (part : List Char) {ex : List Char} (hex : EndsDigits ex) :
    EndsDigits (fractionText part ++ ex) := by
  cases part with
  | nil => exact hex
  | cons d t =>
    intro c hc
    cases hc
    rfl

theorem readDecimal_text {whole part ex : List Char} (hw : ∀ c ∈ whole, isDigit c = true)
    (hne : whole ≠ []) (hp : ∀ c ∈ part, isDigit c = true) (hex : EndsDigits ex)
    (hdot : ex.head? ≠ some '.') : readDecimal? false (whole ++ fractionText part ++ ex) =
      readExponent (ofDigits (whole ++ part)) (-(part.length : Int)) ex := by
  obtain ⟨c, r, rfl⟩ := List.exists_cons_of_ne_nil hne
  obtain ⟨h1, h2⟩ := span_digits hw (endsDigits_text part hex)
  rw [List.append_assoc, readDecimal_eq, h1, h2, splitFraction_text hp hex hdot]
  rfl

theorem readExponent_signed (digits : Nat) (scale : Int) (down : Bool) {ds : List Char}
    (hds : ∀ c ∈ ds, isDigit c = true) (hne : ds ≠ []) :
    readExponent digits scale ('e' :: (if down then '-' else '+') :: ds) =
      some (.ofDecimal false digits
        (scale + if down then -(ofDigits ds : Int) else ofDigits ds)) := by
  obtain ⟨c, r, rfl⟩ := List.exists_cons_of_ne_nil hne
  have hall : (c :: r).all isDigit = true := List.all_eq_true.mpr hds
  unfold readExponent
  cases down with
  | false =>
    show (if ((c :: r).isEmpty || !(c :: r).all isDigit) = true then none else _) = _
    rw [hall]
    rfl
  | true =>
    show (if ((c :: r).isEmpty || !(c :: r).all isDigit) = true then none else _) = _
    rw [hall]
    rfl

end Exemplar.Numeral
