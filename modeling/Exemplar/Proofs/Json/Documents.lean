import Exemplar.Proofs.Json.Escapes
import Exemplar.Proofs.Lexer.Numbers

/-
  Documents read back. The written form of a document without doubles, whose integers have no more
  digits than are read, is read as the document itself, in front of any rest that no number goes on
  into. Reading takes fuel for each part; the length of the written form covers it, by induction on
  the document. With everything beyond ASCII escaped, the written form is one line of printable
  characters.
-/

namespace Exemplar.Json

open Numeral (ofDigits EndsDigits)

/-! ## Numbers -/

/-- A character that no number goes on with. -/
def endsNumber (c : Char) : Bool := !Numeral.isDigit c && c != '.' && c != 'e' && c != 'E'

/-- A text that no number goes on into. -/
def Closes (rest : List Char) : Prop := ∀ c ∈ rest.head?, endsNumber c = true

theorem Closes.cons {c : Char} (h : endsNumber c = true) (r : List Char) : Closes (c :: r) := by
  rintro _ ⟨⟩
  exact h

theorem Closes.endsDigits {rest : List Char} (h : Closes rest) : EndsDigits rest := by
  intro c hc
  have := h c hc
  unfold endsNumber at this
  simp only [Bool.and_eq_true, Bool.not_eq_true'] at this
  exact this.1.1.1

/-- The text of an integer: its digits, with a sign if it is negative. -/
theorem intText_eq (n : Int) :
    (toString n).toList = (if n < 0 then ['-'] else []) ++ Nat.toDigits 10 n.natAbs := by
  cases n with
  | ofNat m => simp [Int.toString_eq_repr, Int.repr, Nat.repr]
  | negSucc m => simp [Int.toString_eq_repr, Int.repr, Nat.repr]

theorem readNumber_digits {ds rest : List Char} (hw : Syntax.WholeDigits ds)
    (hlen : ds.length ≤ Decimal.maxDigits) (hr : Closes rest) (negative : Bool) :
    readNumber ((if negative then ['-'] else []) ++ (ds ++ rest)) =
      .ok (.int (if negative then -(ofDigits ds : Int) else ofDigits ds), rest) := by
  have hspan : (ds ++ rest).takeWhile Numeral.isDigit = ds :=
    (Numeral.span_digits hw.digit hr.endsDigits).1
  have hnext (c : Char) (r : List Char) (h : rest = c :: r) : c ≠ '.' ∧ c ≠ 'e' ∧ c ≠ 'E' := by
    have := hr c (by rw [h]; rfl)
    unfold endsNumber at this
    simp only [Bool.and_eq_true, bne_iff_ne] at this
    exact ⟨this.1.1.2, this.1.2, this.2⟩
  rcases hw.first with rfl | ⟨d, t, rfl, hd⟩
  · cases rest with
    | nil => cases negative <;> simp [readNumber]
    | cons c r =>
      obtain ⟨hdot, he, hE⟩ := hnext c r rfl
      cases negative <;> simp [readNumber, hdot, he, hE]
  · have hdash : d ≠ '-' := by
      rintro rfl
      exact absurd (hw.digit _ (.head _)) (by decide)
    have hlong : ¬4300 < t.length + 1 := Nat.not_lt.mpr hlen
    cases rest with
    | nil =>
      simp only [List.append_nil] at hspan ⊢
      cases negative <;> simp [readNumber, hdash, hd, hspan, hlong]
    | cons c r =>
      obtain ⟨hdot, he, hE⟩ := hnext c r rfl
      rw [List.cons_append] at hspan
      cases negative <;> simp [readNumber, hdash, hd, hspan, hlong, hdot, he, hE]

/-- An integer of no more digits than are read. -/
def IsShort (n : Int) : Prop := n.natAbs < Nat.pow 10 Decimal.maxDigits

theorem readNumber_int {n : Int} (hn : IsShort n) {rest : List Char} (hr : Closes rest) :
    readNumber ((toString n).toList ++ rest) = .ok (.int n, rest) := by
  have hw := Syntax.wholeDigits_natDigits n.natAbs
  unfold IsShort at hn
  rw [Nat.pow_eq] at hn
  have hlen := (Nat.length_toDigits_le_iff (k := Decimal.maxDigits) (by decide) (by decide)).mpr hn
  have h := readNumber_digits hw hlen hr (decide (n < 0))
  simp only [decide_eq_true_eq, Syntax.ofDigits_natDigits] at h
  rw [intText_eq, List.append_assoc, h]
  congr 3
  split <;> omega

/-- A digit, which is what the text of an integer begins with after its sign. -/
theorem intText_head (n : Int) : ∃ d t, Numeral.isDigit d = true ∧
    ((toString n).toList = d :: t ∨ (toString n).toList = '-' :: d :: t) := by
  obtain ⟨d, t, h, hd⟩ := (Syntax.wholeDigits_natDigits n.natAbs).exists_cons
  refine ⟨d, t, hd, ?_⟩
  rw [intText_eq, h]
  split
  · exact .inr rfl
  · exact .inl rfl

theorem ne_of_isDigit {d c : Char} (hd : Numeral.isDigit d = true) (hc : Numeral.isDigit c = false) :
    d ≠ c := by
  rintro rfl
  rw [hd] at hc
  cases hc

/-- No word begins with a digit, with or without a sign. -/
theorem readScalar_number {d : Char} {s t : List Char} (hd : Numeral.isDigit d = true)
    (h : s = d :: t ∨ s = '-' :: d :: t) : readScalar s = readNumber s := by
  have letter {c : Char} (hc : Numeral.isDigit c = false) : c ≠ d := (ne_of_isDigit hd hc).symm
  have words : ∀ w ∈ ["null", "true", "false", "NaN", "Infinity", "-Infinity"],
      word? w s = none := by
    rcases h with rfl | rfl <;>
      simp [word?, letter (c := 'n') rfl, letter (c := 't') rfl, letter (c := 'f') rfl,
        letter (c := 'N') rfl, letter (c := 'I') rfl, letter (c := '-') rfl]
  simp only [List.forall_mem_cons, List.not_mem_nil, false_imp_iff, implies_true, and_true] at words
  obtain ⟨hnull, htrue, hfalse, hnan, hinf, hneg⟩ := words
  simp only [readScalar, hnull, htrue, hfalse, hnan, hinf, hneg]

theorem readScalar_int {n : Int} (hn : IsShort n) {rest : List Char} (hr : Closes rest) :
    readScalar ((toString n).toList ++ rest) = .ok (.int n, rest) := by
  obtain ⟨d, t, hd, h⟩ := intText_head n
  refine (readScalar_number (t := t ++ rest) hd ?_).trans (readNumber_int hn hr)
  exact h.imp (congrArg (· ++ rest)) (congrArg (· ++ rest))

/-! ## Documents -/

/-- Documents without doubles, in which every integer is `ok`. -/
inductive Integral (ok : Int → Prop) : Json → Prop
  | null : Integral ok .null
  | bool (b : Bool) : Integral ok (.bool b)
  | int {n : Int} (h : ok n) : Integral ok (.int n)
  | str (s : String) : Integral ok (.str s)
  | arr {items : List Json} (h : ∀ x ∈ items, Integral ok x) : Integral ok (.arr items)
  | obj {fields : List (String × Json)} (h : ∀ p ∈ fields, Integral ok p.2) :
    Integral ok (.obj fields)

/-- Documents that read back: those without doubles and with no integer longer than is read. -/
abbrev Legible : Json → Prop := Integral IsShort

/-- A character that a document begins with, where an array or an object does not end. -/
def beginsValue (c : Char) : Bool := !isSpace c && c != ']' && c != '\x7d' && c != '\ufeff'

theorem skipSpace_begins {c : Char} (h : beginsValue c = true) (r : List Char) :
    skipSpace (c :: r) = c :: r := by
  unfold beginsValue at h
  simp only [Bool.and_eq_true, Bool.not_eq_true'] at h
  simp [skipSpace, h.1.1.1]

theorem beginsValue_of_isDigit {c : Char} (h : Numeral.isDigit c = true) : beginsValue c = true := by
  have other {d : Char} (hd : Numeral.isDigit d = false) : c ≠ d := ne_of_isDigit h hd
  simp [beginsValue, isSpace, other (d := ' ') rfl, other (d := '\t') rfl, other (d := '\n') rfl,
    other (d := '\r') rfl, other (d := ']') rfl, other (d := '\x7d') rfl,
    other (d := '\ufeff') rfl]

/-- The written form begins as documents do. -/
def Begins (ascii : Bool) (j : Json) : Prop := ∃ c r, write ascii j = c :: r ∧ beginsValue c = true

theorem Integral.begins {ascii : Bool} {ok : Int → Prop} {j : Json} (h : Integral ok j) :
    Begins ascii j := by
  cases h with
  | null => exact ⟨_, _, rfl, rfl⟩
  | bool b => cases b <;> exact ⟨_, _, rfl, rfl⟩
  | @int n _ =>
    obtain ⟨d, t, hd, h | h⟩ := intText_head n
    · exact ⟨d, t, h, beginsValue_of_isDigit hd⟩
    · exact ⟨'-', d :: t, h, rfl⟩
  | str s => exact ⟨_, _, rfl, rfl⟩
  | arr _ => exact ⟨_, _, rfl, rfl⟩
  | obj _ => exact ⟨_, _, rfl, rfl⟩

/-- The document is read from its written form, with fuel for the length of that. -/
def ReadsBack (ascii : Bool) (j : Json) : Prop :=
  ∀ fuel rest, Closes rest → (write ascii j).length ≤ fuel →
    readValue fuel (write ascii j ++ rest) = .ok (j, rest)

theorem writeItems_one (ascii : Bool) (x : Json) : writeItems ascii [x] = write ascii x := rfl

theorem writeItems_cons (ascii : Bool) (x y : Json) (ys : List Json) :
    writeItems ascii (x :: y :: ys) = write ascii x ++ ',' :: ' ' :: writeItems ascii (y :: ys) :=
  rfl

theorem Begins.items {ascii : Bool} {x : Json} (h : Begins ascii x) (xs : List Json) :
    ∃ c r, writeItems ascii (x :: xs) = c :: r ∧ beginsValue c = true := by
  obtain ⟨c, r, hw, hc⟩ := h
  cases xs with
  | nil => exact ⟨c, r, by rw [writeItems_one, hw], hc⟩
  | cons y ys => exact ⟨c, _, by rw [writeItems_cons, hw]; rfl, hc⟩

theorem readItems_last {fuel : Nat} {s r : List Char} {x : Json}
    (h : readValue fuel s = .ok (x, ']' :: r)) : readItems (fuel + 1) s = .ok ([x], r) := by
  unfold readItems
  rw [h]
  rfl

theorem readItems_more {fuel : Nat} {s r t : List Char} {x : Json} {xs : List Json}
    (h : readValue fuel s = .ok (x, ',' :: r)) (ht : readItems fuel (skipSpace r) = .ok (xs, t)) :
    readItems (fuel + 1) s = .ok (x :: xs, t) := by
  unfold readItems
  rw [h]
  show (readItems fuel (skipSpace r) >>= _) = _
  rw [ht]
  rfl

theorem readItems_written {ascii : Bool} {items : List Json} (hl : ∀ x ∈ items, Begins ascii x)
    (hb : ∀ x ∈ items, ReadsBack ascii x) (hne : items ≠ []) (rest : List Char) :
    ∀ fuel, (writeItems ascii items).length < fuel →
      readItems fuel (writeItems ascii items ++ ']' :: rest) = .ok (items, rest) := by
  induction items with
  | nil => exact absurd rfl hne
  | cons x xs ih =>
    intro fuel hf
    obtain ⟨fuel, rfl⟩ := Nat.exists_eq_succ_of_ne_zero (Nat.ne_of_gt (Nat.zero_lt_of_lt hf))
    have hx := hb x (.head _)
    cases xs with
    | nil =>
      rw [writeItems_one] at hf ⊢
      exact readItems_last (hx fuel (']' :: rest) (.cons rfl rest) (Nat.le_of_lt_succ hf))
    | cons y ys =>
      obtain ⟨c, r, hw, hc⟩ := (hl y (.tail _ (.head _))).items ys
      rw [writeItems_cons] at hf ⊢
      rw [List.length_append, List.length_cons, List.length_cons] at hf
      rw [List.append_assoc]
      refine readItems_more (hx fuel _ (.cons rfl _) (by omega)) ?_
      have hskip : skipSpace (' ' :: (writeItems ascii (y :: ys) ++ ']' :: rest)) =
          writeItems ascii (y :: ys) ++ ']' :: rest := by
        rw [hw]
        exact skipSpace_begins hc _
      refine (congrArg (readItems fuel) hskip).trans ?_
      exact ih (fun z hz => hl z (.tail _ hz)) (fun z hz => hb z (.tail _ hz))
        (List.cons_ne_nil _ _) fuel (by omega)

theorem readFields_last {fuel : Nat} {s r t : List Char} {k : String} {x : Json}
    (hk : readStringTail (s.length + 1) (s.length + 1) [] s = .ok (k, ':' :: r))
    (h : readValue fuel (skipSpace r) = .ok (x, '\x7d' :: t)) :
    readFields (fuel + 1) ('"' :: s) = .ok ([(k, x)], t) := by
  unfold readFields
  show Except.bind (readStringTail (s.length + 1) (s.length + 1) [] s) _ = _
  rw [hk]
  show (readValue fuel (skipSpace r) >>= _) = _
  rw [h]
  rfl

theorem readFields_more {fuel : Nat} {s r t u : List Char} {k : String} {x : Json}
    {xs : List (String × Json)}
    (hk : readStringTail (s.length + 1) (s.length + 1) [] s = .ok (k, ':' :: r))
    (h : readValue fuel (skipSpace r) = .ok (x, ',' :: t))
    (ht : readFields fuel (skipSpace t) = .ok (xs, u)) :
    readFields (fuel + 1) ('"' :: s) = .ok ((k, x) :: xs, u) := by
  unfold readFields
  show Except.bind (readStringTail (s.length + 1) (s.length + 1) [] s) _ = _
  rw [hk]
  show (readValue fuel (skipSpace r) >>= _) = _
  rw [h]
  show (readFields fuel (skipSpace t) >>= _) = _
  rw [ht]
  rfl

theorem writeFields_one (ascii : Bool) (k : String) (x : Json) (r : List Char) :
    writeFields ascii [(k, x)] ++ r =
      '"' :: (textTail ascii k ++ ':' :: ' ' :: (write ascii x ++ r)) := by
  show (writeString ascii k ++ ':' :: ' ' :: write ascii x) ++ r = _
  simp [writeString_eq]

theorem writeFields_cons (ascii : Bool) (k : String) (x : Json) (y : String × Json)
    (ys : List (String × Json)) (r : List Char) :
    writeFields ascii ((k, x) :: y :: ys) ++ r =
      '"' :: (textTail ascii k ++ ':' :: ' ' ::
        (write ascii x ++ ',' :: ' ' :: (writeFields ascii (y :: ys) ++ r))) := by
  show (writeString ascii k ++ ':' :: ' ' :: write ascii x ++
    ',' :: ' ' :: writeFields ascii (y :: ys)) ++ r = _
  simp [writeString_eq]

theorem writeFields_head (ascii : Bool) (p : String × Json) (ps : List (String × Json)) :
    ∃ r, writeFields ascii (p :: ps) = '"' :: r := by
  cases ps with
  | nil => exact ⟨_, (List.append_nil _).symm.trans (writeFields_one ascii p.1 p.2 [])⟩
  | cons q qs => exact ⟨_, (List.append_nil _).symm.trans (writeFields_cons ascii p.1 p.2 q qs [])⟩

theorem readFields_written {ascii : Bool} {fields : List (String × Json)}
    (hl : ∀ p ∈ fields, Begins ascii p.2) (hb : ∀ p ∈ fields, ReadsBack ascii p.2) (hne : fields ≠ [])
    (rest : List Char) : ∀ fuel, (writeFields ascii fields).length < fuel →
      readFields fuel (writeFields ascii fields ++ '\x7d' :: rest) = .ok (fields, rest) := by
  induction fields with
  | nil => exact absurd rfl hne
  | cons p xs ih =>
    obtain ⟨k, x⟩ := p
    intro fuel hf
    obtain ⟨fuel, rfl⟩ := Nat.exists_eq_succ_of_ne_zero (Nat.ne_of_gt (Nat.zero_lt_of_lt hf))
    have hx : ReadsBack ascii x := hb (k, x) (.head _)
    obtain ⟨c, r, hw, hc⟩ : Begins ascii x := hl (k, x) (.head _)
    have hskip (t : List Char) : skipSpace (' ' :: (write ascii x ++ t)) = write ascii x ++ t := by
      rw [hw]
      exact skipSpace_begins hc _
    rw [← List.append_nil (writeFields _ _)] at hf
    cases xs with
    | nil =>
      rw [writeFields_one] at hf ⊢
      simp only [List.length_cons, List.length_append] at hf
      refine readFields_last (readStringTail_written ascii k _ _) ?_
      rw [hskip]
      exact hx fuel _ (.cons rfl _) (by omega)
    | cons y ys =>
      rw [writeFields_cons] at hf ⊢
      simp only [List.length_cons, List.length_append] at hf
      refine readFields_more (readStringTail_written ascii k _ _) ?_ ?_ (t := ' ' ::
        (writeFields ascii (y :: ys) ++ '\x7d' :: rest))
      · rw [hskip]
        exact hx fuel _ (.cons rfl _) (by omega)
      · obtain ⟨r, hr⟩ := writeFields_head ascii y ys
        have hnext : skipSpace (' ' :: (writeFields ascii (y :: ys) ++ '\x7d' :: rest)) =
            writeFields ascii (y :: ys) ++ '\x7d' :: rest := by
          rw [hr]
          exact skipSpace_begins (c := '"') rfl _
        rw [hnext]
        exact ih (fun q hq => hl q (.tail _ hq)) (fun q hq => hb q (.tail _ hq))
          (List.cons_ne_nil _ _) fuel (by omega)

theorem word_append (w : String) (r : List Char) : word? w (w.toList ++ r) = some r := by
  unfold word?
  rw [if_pos (by simp), ← String.length_toList, List.drop_left]

theorem word_ne {c d : Char} {w : String} (t r : List Char) (hw : w.toList = c :: t)
    (hne : c ≠ d) : word? w (d :: r) = none := by
  simp [word?, hw, hne]

theorem readScalar_null (rest : List Char) :
    readScalar ("null".toList ++ rest) = .ok (.null, rest) := by
  unfold readScalar
  simp only [word_append]

theorem readScalar_bool (b : Bool) (rest : List Char) :
    readScalar ((if b then "true" else "false").toList ++ rest) = .ok (.bool b, rest) := by
  cases b with
  | true =>
    have hnull : word? "null" ("true".toList ++ rest) = none := word_ne _ _ rfl (by decide)
    simp only [readScalar, hnull, word_append, if_true]
  | false =>
    have hnull : word? "null" ("false".toList ++ rest) = none := word_ne _ _ rfl (by decide)
    have htrue : word? "true" ("false".toList ++ rest) = none := word_ne _ _ rfl (by decide)
    simp only [readScalar, hnull, htrue, word_append, Bool.false_eq_true, if_false]

/-- Anything but a text, an array or an object is read as it stands. -/
theorem readValue_scalar {c : Char} (h : c ≠ '"' ∧ c ≠ '[' ∧ c ≠ '\x7b') (fuel : Nat)
    (r : List Char) : readValue (fuel + 1) (c :: r) = readScalar (c :: r) := by
  unfold readValue
  split
  case h_1 heq => exact absurd (List.cons.inj heq).1 h.1
  case h_2 heq => exact absurd (List.cons.inj heq).1 h.2.1
  case h_3 heq => exact absurd (List.cons.inj heq).1 h.2.2
  case h_4 => rfl

theorem readValue_arr {fuel : Nat} {c : Char} {r t : List Char} {items : List Json}
    (hc : beginsValue c = true) (h : readItems fuel (c :: r) = .ok (items, t)) :
    readValue (fuel + 1) ('[' :: c :: r) = .ok (.arr items, t) := by
  have hskip := skipSpace_begins hc r
  unfold readValue
  split
  case h_1 heq => cases heq
  case h_2 heq =>
    cases heq
    split
    case h_1 heq =>
      rw [hskip] at heq
      cases heq
      cases hc
    case h_2 =>
      rw [hskip, h]
      rfl
  case h_3 heq => cases heq
  case h_4 hno _ => exact (hno _ rfl).elim

theorem readValue_obj {fuel : Nat} {r t : List Char} {fields : List (String × Json)}
    (h : readFields fuel ('"' :: r) = .ok (fields, t)) :
    readValue (fuel + 1) ('\x7b' :: '"' :: r) = .ok (.obj fields, t) := by
  unfold readValue
  show (readFields fuel ('"' :: r) >>= _) = _
  rw [h]
  rfl

namespace ReadsBack

variable {ascii : Bool} {j : Json}

theorem of_succ (hl : Begins ascii j)
    (h : ∀ fuel rest, Closes rest → (write ascii j).length ≤ fuel + 1 →
      readValue (fuel + 1) (write ascii j ++ rest) = .ok (j, rest)) : ReadsBack ascii j := by
  intro fuel rest hr hf
  obtain ⟨c, r, hw, -⟩ := hl
  cases fuel with
  | zero =>
    rw [hw] at hf
    cases hf
  | succ fuel => exact h fuel rest hr hf

/-- A document that is neither text, array nor object. -/
theorem of_scalar {c : Char} {r : List Char} (hw : write ascii j = c :: r)
    (hc : beginsValue c = true) (hne : c ≠ '"' ∧ c ≠ '[' ∧ c ≠ '\x7b')
    (h : ∀ rest, Closes rest → readScalar (write ascii j ++ rest) = .ok (j, rest)) :
    ReadsBack ascii j := by
  refine of_succ ⟨c, r, hw, hc⟩ fun fuel rest hr _ => ?_
  rw [← h rest hr, hw]
  exact readValue_scalar hne fuel _

theorem null : ReadsBack ascii .null :=
  of_scalar (c := 'n') rfl rfl (by decide) fun rest _ => readScalar_null rest

theorem bool (b : Bool) : ReadsBack ascii (.bool b) := by
  have hscalar (rest : List Char) (_ : Closes rest) := readScalar_bool b rest
  cases b with
  | true => exact of_scalar (c := 't') rfl rfl (by decide) hscalar
  | false => exact of_scalar (c := 'f') rfl rfl (by decide) hscalar

theorem int {n : Int} (hn : IsShort n) : ReadsBack ascii (.int n) := by
  obtain ⟨d, t, hd, h | h⟩ := intText_head n
  · have other {c : Char} (hc : Numeral.isDigit c = false) : d ≠ c := ne_of_isDigit hd hc
    exact of_scalar h (beginsValue_of_isDigit hd) ⟨other rfl, other rfl, other rfl⟩
      fun _ => readScalar_int hn
  · exact of_scalar h rfl (by decide) fun _ => readScalar_int hn

theorem str (s : String) : ReadsBack ascii (.str s) := by
  refine of_succ (Integral.str s : Legible (.str s)).begins fun fuel rest _ _ => ?_
  show readValue _ (writeString ascii s ++ rest) = _
  rw [writeString_eq, List.cons_append]
  unfold readValue
  show Except.bind (readStringTail _ _ [] (textTail ascii s ++ rest)) _ = _
  rw [readStringTail_written]
  rfl

theorem arr {items : List Json} (hl : ∀ x ∈ items, Begins ascii x)
    (hb : ∀ x ∈ items, ReadsBack ascii x) : ReadsBack ascii (.arr items) := by
  refine of_succ ⟨_, _, rfl, rfl⟩ fun fuel rest _ hf => ?_
  have text : write ascii (.arr items) = '[' :: writeItems ascii items ++ [']'] := rfl
  rw [text] at hf ⊢
  rw [List.cons_append, List.cons_append, List.append_assoc]
  cases items with
  | nil => rfl
  | cons x xs =>
    have hread := readItems_written hl hb (List.cons_ne_nil _ _) rest fuel (by
      simp only [List.length_cons, List.length_append] at hf
      omega)
    obtain ⟨c, r, hw, hc⟩ := (hl x (.head _)).items xs
    rw [hw] at hread ⊢
    exact readValue_arr hc hread

theorem obj {fields : List (String × Json)} (hl : ∀ p ∈ fields, Begins ascii p.2)
    (hb : ∀ p ∈ fields, ReadsBack ascii p.2) : ReadsBack ascii (.obj fields) := by
  refine of_succ ⟨_, _, rfl, rfl⟩ fun fuel rest _ hf => ?_
  have text : write ascii (.obj fields) = '\x7b' :: writeFields ascii fields ++ ['\x7d'] := rfl
  rw [text] at hf ⊢
  rw [List.cons_append, List.cons_append, List.append_assoc]
  cases fields with
  | nil => rfl
  | cons p ps =>
    have hread := readFields_written hl hb (List.cons_ne_nil _ _) rest fuel (by
      simp only [List.length_cons, List.length_append] at hf
      omega)
    obtain ⟨r, hw⟩ := writeFields_head ascii p ps
    rw [hw] at hread ⊢
    exact readValue_obj hread

end ReadsBack

theorem Legible.readsBack {ascii : Bool} {j : Json} (h : Legible j) : ReadsBack ascii j := by
  induction h with
  | null => exact .null
  | bool b => exact .bool b
  | int hn => exact .int hn
  | str s => exact .str s
  | arr hl ih => exact .arr (fun x hx => (hl x hx).begins) ih
  | obj hl ih => exact .obj (fun p hp => (hl p hp).begins) ih

theorem endsNumber_of_isSpace {c : Char} (h : isSpace c = true) : endsNumber c = true := by
  unfold isSpace at h
  simp only [Bool.or_eq_true, beq_iff_eq] at h
  rcases h with ((rfl | rfl) | rfl) | rfl <;> rfl

/-- A document is read from its written form, with white space behind it or not. -/
theorem ReadsBack.read_written {ascii : Bool} {j : Json} (h : ReadsBack ascii j)
    (hbegins : Begins ascii j) {rest : List Char} (hr : ∀ c ∈ rest, isSpace c = true) :
    read (write ascii j ++ rest) = .ok j := by
  obtain ⟨c, r, hw, hc⟩ := hbegins
  have hcloses : Closes rest := fun c hc => endsNumber_of_isSpace (hr c (List.mem_of_mem_head? hc))
  have hskip : skipSpace (write ascii j ++ rest) = write ascii j ++ rest := by
    rw [hw]
    exact skipSpace_begins hc _
  have hlen : (write ascii j).length ≤ (write ascii j ++ rest).length + 1 := by
    rw [List.length_append]
    omega
  have hvalue := h _ rest hcloses hlen
  have hspace : skipSpace rest = [] := by
    have h : (rest ++ []).dropWhile isSpace = [] := List.dropWhile_append_of_pos hr
    rwa [List.append_nil] at h
  unfold read
  split
  case h_1 heq =>
    rw [hw] at heq
    rw [(List.cons.inj heq).1] at hc
    cases hc
  case h_2 =>
    rw [hskip, hvalue]
    simp only [hspace]

theorem Legible.read_written {ascii : Bool} {j : Json} (h : Legible j) {rest : List Char}
    (hr : ∀ c ∈ rest, isSpace c = true) : read (write ascii j ++ rest) = .ok j :=
  h.readsBack.read_written h.begins hr

/-! ## Lines -/

theorem isPrintable_of_isDigit {c : Char} (h : Numeral.isDigit c = true) : isPrintable c = true := by
  unfold Numeral.isDigit at h
  simp only [Bool.and_eq_true, decide_eq_true_eq] at h
  have hlow : 48 ≤ c.toNat := h.1
  have hhigh : c.toNat ≤ 57 := h.2
  simp only [isPrintable, Bool.and_eq_true, decide_eq_true_eq]
  omega

theorem isPrintable_intText (n : Int) : ∀ c ∈ (toString n).toList, isPrintable c = true := by
  have digits : ∀ c ∈ Nat.toDigits 10 n.natAbs, isPrintable c = true := fun c hc =>
    isPrintable_of_isDigit (Syntax.isDigit_of_mem_natDigits hc)
  rw [intText_eq]
  refine List.forall_mem_append.mpr ⟨?_, digits⟩
  split
  · exact List.forall_mem_singleton.mpr rfl
  · exact List.forall_mem_nil _

theorem isPrintable_writeItems {items : List Json}
    (h : ∀ x ∈ items, ∀ c ∈ write true x, isPrintable c = true) :
    ∀ c ∈ writeItems true items, isPrintable c = true := by
  induction items with
  | nil => exact List.forall_mem_nil _
  | cons x xs ih =>
    have hx := h x (.head _)
    cases xs with
    | nil => exact hx
    | cons y ys =>
      have hxs := ih fun z hz => h z (.tail _ hz)
      rw [writeItems_cons]
      exact List.forall_mem_append.mpr ⟨hx, List.forall_mem_cons.mpr ⟨rfl,
        List.forall_mem_cons.mpr ⟨rfl, hxs⟩⟩⟩

theorem isPrintable_writeFields {fields : List (String × Json)}
    (h : ∀ p ∈ fields, ∀ c ∈ write true p.2, isPrintable c = true) :
    ∀ c ∈ writeFields true fields, isPrintable c = true := by
  induction fields with
  | nil => exact List.forall_mem_nil _
  | cons p ps ih =>
    obtain ⟨k, x⟩ := p
    have hx : ∀ c ∈ write true x, isPrintable c = true := h (k, x) (.head _)
    have hk := List.forall_mem_cons.mp (isPrintable_writeString k)
    have part (r : List Char) (hr : ∀ c ∈ r, isPrintable c = true) :
        ∀ c ∈ '"' :: (textTail true k ++ ':' :: ' ' :: (write true x ++ r)),
          isPrintable c = true :=
      List.forall_mem_cons.mpr ⟨rfl, List.forall_mem_append.mpr ⟨hk.2, List.forall_mem_cons.mpr
        ⟨rfl, List.forall_mem_cons.mpr ⟨rfl, List.forall_mem_append.mpr ⟨hx, hr⟩⟩⟩⟩⟩
    rw [← List.append_nil (writeFields _ _)]
    cases ps with
    | nil =>
      rw [writeFields_one]
      exact part [] (List.forall_mem_nil _)
    | cons q qs =>
      have hps := ih fun z hz => h z (.tail _ hz)
      rw [writeFields_cons, List.append_nil]
      exact part _ (List.forall_mem_cons.mpr ⟨rfl, List.forall_mem_cons.mpr ⟨rfl, hps⟩⟩)

theorem Integral.isPrintable {ok : Int → Prop} {j : Json} (h : Integral ok j) :
    ∀ c ∈ write true j, isPrintable c = true := by
  induction h with
  | null => exact List.all_eq_true.mp (by decide)
  | bool b => cases b <;> exact List.all_eq_true.mp (by decide)
  | int => exact isPrintable_intText _
  | str s => exact isPrintable_writeString s
  | arr _ ih =>
    exact List.forall_mem_cons.mpr ⟨rfl, List.forall_mem_append.mpr
      ⟨isPrintable_writeItems ih, List.forall_mem_singleton.mpr rfl⟩⟩
  | obj _ ih =>
    exact List.forall_mem_cons.mpr ⟨rfl, List.forall_mem_append.mpr
      ⟨isPrintable_writeFields ih, List.forall_mem_singleton.mpr rfl⟩⟩

theorem Legible.read_toAscii {j : Json} (h : Legible j) : read? j.toAscii = some j := by
  have hread : read (write true j ++ []) = .ok j := h.read_written (List.forall_mem_nil _)
  rw [List.append_nil] at hread
  unfold read? toAscii
  rw [String.toList_ofList, hread]
  rfl

end Exemplar.Json
