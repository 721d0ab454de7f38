import Exemplar.Proofs.Offsets

/-
  Places and offsets convert into each other. An offset stands in one line, with some characters of
  that line in front of it (`exists_line`); the bytes of those characters lead back to the offset.
  A byte column leads to the characters that lie wholly in front of it (`charsWithin_eq`), so that
  one inside a character stands for the start of that character. Offsets grow with lines and byte
  columns (`offset_le_offset`).
-/

namespace Exemplar.LineIndex

/-- How many characters of a line end within its first `b` bytes. -/
def wholeWithin (line : List Char) (b : Nat) : Nat :=
  (List.range line.length).countP fun i => byteLength (line.take (i + 1)) ≤ b

/-! ## Characters and bytes of a line -/

theorem byteLength_cons (c : Char) (l : List Char) :
    byteLength (c :: l) = c.utf8Size + byteLength l := rfl

theorem wholeWithin_cons (c : Char) (l : List Char) (b : Nat) :
    wholeWithin (c :: l) b = if c.utf8Size ≤ b then wholeWithin l (b - c.utf8Size) + 1 else 0 := by
  have hends : ∀ i, byteLength ((c :: l).take (i + 1)) = c.utf8Size + byteLength (l.take i) :=
    fun _ => rfl
  unfold wholeWithin
  rw [List.length_cons, List.range_succ_eq_map, List.countP_cons, List.countP_map]
  by_cases hc : c.utf8Size ≤ b
  · rw [if_pos hc, if_pos (decide_eq_true (hends 0 ▸ hc))]
    refine congrArg (· + 1) (List.countP_congr fun i _ => ?_)
    rw [Function.comp_apply, decide_eq_true_iff, decide_eq_true_iff, hends]
    omega
  · have hnone : ∀ i, ¬byteLength ((c :: l).take (i + 1)) ≤ b := fun i => by rw [hends]; omega
    rw [if_neg hc, if_neg (mt of_decide_eq_true (hnone 0)), List.countP_eq_zero.mpr]
    exact fun i _ => mt of_decide_eq_true (hnone (i + 1))

theorem charsWithin_eq (b : Nat) (l : List Char) : charsWithin b l = wholeWithin l b := by
  induction l generalizing b with
  | nil => rfl
  | cons c l ih => rw [wholeWithin_cons, charsWithin, ih]

theorem charsWithin_mono {b b' : Nat} (h : b ≤ b') (l : List Char) :
    charsWithin b l ≤ charsWithin b' l := by
  rw [charsWithin_eq, charsWithin_eq]
  refine List.countP_mono_left fun i _ hi => ?_
  exact decide_eq_true (Nat.le_trans (of_decide_eq_true hi) h)

/-- The bytes of the first characters hold just these. -/
theorem charsWithin_take (l : List Char) {k : Nat} (h : k ≤ l.length) :
    charsWithin (byteLength (l.take k)) l = k := by
  induction l generalizing k with
  | nil => exact (Nat.le_zero.mp h).symm
  | cons c l ih =>
    cases k with
    | zero => exact charsWithin_zero (c :: l)
    | succ k =>
      rw [List.take_succ_cons, byteLength_cons, charsWithin, if_pos (Nat.le_add_right ..),
        Nat.add_sub_cancel_left, ih (Nat.le_of_succ_le_succ h)]

/-- A column in front of the end of a line does not reach its last character. -/
theorem charsWithin_lt {b : Nat} {l : List Char} (h : b < byteLength l) :
    charsWithin b l < l.length := by
  induction l generalizing b with
  | nil => exact absurd h (Nat.not_lt_zero b)
  | cons c l ih =>
    rw [byteLength_cons] at h
    unfold charsWithin
    split
    · exact Nat.succ_lt_succ (ih (by omega))
    · exact Nat.succ_pos _

/-! ## Lines of a text -/

variable {x : LineIndex} {i j : Nat} {l : List Char}

theorem start_succ (h : x.lines[i]? = some l) : x.start (i + 1) = x.start i + l.length := by
  unfold start
  rw [List.take_add_one, h, List.flatten_append, List.length_append]
  simp

theorem start_le_start (x : LineIndex) (h : i ≤ j) : x.start i ≤ x.start j := by
  obtain ⟨d, rfl⟩ := Nat.exists_eq_add_of_le h
  unfold start
  rw [List.take_add, List.flatten_append, List.length_append]
  exact Nat.le_add_right _ _

theorem offset_line (h : x.lines[i]? = some l) (b : Nat) :
    x.offset (i + 1 : Nat) b = x.start i + charsWithin b l := by
  have hoffset := offsetOf_succ x i b
  rw [h] at hoffset
  exact hoffset

/-- By induction on the lines in front, of which the walk passes each. -/
theorem positionFrom_line {ls : List (List Char)} (h : ls[i]? = some l) {k : Nat}
    (hk : k < l.length) : positionFrom ls ((ls.take i).flatten.length + k) = (i + 1, k + 1) := by
  induction ls generalizing i with
  | nil => cases h
  | cons m ls ih =>
    cases i with
    | zero =>
      cases h
      rw [List.take_zero, List.flatten_nil, List.length_nil, Nat.zero_add]
      cases ls with
      | nil => rfl
      | cons m ms => exact (positionFrom_cons l (List.cons_ne_nil m ms) k).trans (if_pos hk)
    | succ i =>
      have hls : ls ≠ [] := List.ne_nil_of_mem (List.mem_of_getElem? h)
      rw [List.take_succ_cons, List.flatten_cons, List.length_append,
        show m.length + (ls.take i).flatten.length + k =
          (ls.take i).flatten.length + k + m.length by omega,
        positionFrom_below hls rfl, ih h]

/-- An offset stands in a line with some of its characters in front, all of them only at the end of
the text. -/
theorem exists_line {ls : List (List Char)} (h : ls ≠ []) {o : Nat} (ho : o ≤ ls.flatten.length) :
    ∃ i l k, ls[i]? = some l ∧ k ≤ l.length ∧ o = (ls.take i).flatten.length + k ∧
      positionFrom ls o = (i + 1, k + 1) := by
  induction ls generalizing o with
  | nil => exact absurd rfl h
  | cons m ls ih =>
    cases ls with
    | nil => exact ⟨0, m, o, rfl, by simpa using ho, (Nat.zero_add o).symm, rfl⟩
    | cons m' ms =>
      have hls : m' :: ms ≠ [] := List.cons_ne_nil m' ms
      by_cases hm : o < m.length
      · exact ⟨0, m, o, rfl, Nat.le_of_lt hm, (Nat.zero_add o).symm,
          (positionFrom_cons m hls o).trans (if_pos hm)⟩
      · rw [List.flatten_cons, List.length_append] at ho
        obtain ⟨i, l, k, hi, hk, heq, hpos⟩ := ih hls (o := o - m.length) (by omega)
        refine ⟨i + 1, l, k, hi, hk, ?_, ?_⟩
        · rw [List.take_succ_cons, List.flatten_cons, List.length_append]
          omega
        · rw [positionFrom_cons m hls, if_neg hm, hpos]

theorem position_of_le {text : List Char} {o : Nat} (h : o ≤ text.length) :
    (ofText text).position o = positionFrom (Text.sourceLines text) o := by
  have hclamp : (min (max (o : Int) 0) (text.length : Int)).toNat = o := by omega
  unfold position
  rw [size_ofText, hclamp]
  rfl

/-! ## Both ways -/

/-- The bytes of the characters in front of an offset on its line lead back to it. -/
theorem offset_position {text : List Char} {o : Nat} (h : o ≤ text.length) :
    let (line, column) := (ofText text).position o
    (ofText text).offset line
      (byteLength (((ofText text).lines.getD (line - 1) []).take (column - 1))) = o := by
  rw [position_of_le h]
  by_cases hlines : Text.sourceLines text = []
  · have hflat := Text.flatten_sourceLines text
    rw [hlines] at hflat
    subst hflat
    cases Nat.le_zero.mp h
    rfl
  · rw [← Text.flatten_sourceLines text] at h
    obtain ⟨i, l, k, hi, hk, ho, hpos⟩ := exists_line hlines h
    rw [hpos]
    have hline : (ofText text).lines[i]? = some l := hi
    dsimp only
    rw [Nat.add_sub_cancel, Nat.add_sub_cancel, List.getD_eq_getElem?_getD, hline,
      Option.getD_some, offset_line hline, charsWithin_take l hk]
    exact ho.symm

/-- A byte column in front of the end of a line stands for the characters that end in front of
it. -/
theorem position_offset {text l : List Char} (h : (ofText text).lines[i]? = some l) {b : Nat}
    (hb : b < byteLength l) :
    (ofText text).position ((ofText text).offset (i + 1 : Nat) b) =
      (i + 1, wholeWithin l b + 1) := by
  have hlt := charsWithin_lt hb
  have hle := start_add_length_le h
  rw [size_ofText] at hle
  rw [offset_line h, position_of_le (by omega), ← charsWithin_eq]
  exact positionFrom_line h hlt

/-- Offsets grow with lines, and with byte columns on a line. -/
theorem offset_le_offset {m : List Char} (hl : x.lines[i]? = some l) (hm : x.lines[j]? = some m)
    {b b' : Nat} (h : i < j ∨ i = j ∧ b ≤ b') :
    x.offset (i + 1 : Nat) b ≤ x.offset (j + 1 : Nat) b' := by
  rw [offset_line hl, offset_line hm]
  obtain h | ⟨rfl, h⟩ := h
  · have hstart := start_le_start x (Nat.succ_le_of_lt h)
    have hline := charsWithin_le b l
    rw [start_succ hl] at hstart
    omega
  · cases hl.symm.trans hm
    exact Nat.add_le_add_left (charsWithin_mono h l) _

/-- For every text: the place of each offset leads back to it by the bytes in front on its line; a
byte column on a line leads to the place behind the characters that end there or before, also from
inside a character; and later places have no smaller offsets. -/
theorem places_convert (text : List Char) :
    (∀ o ≤ text.length, ∀ line column, (ofText text).position o = (line, column) →
      (ofText text).offset line
        (byteLength (((ofText text).lines.getD (line - 1) []).take (column - 1))) = o) ∧
    (∀ i l, (ofText text).lines[i]? = some l → ∀ b < byteLength l,
      (ofText text).position ((ofText text).offset (i + 1 : Nat) b) =
        (i + 1, 1 + wholeWithin l b)) ∧
    ∀ i j, i < (ofText text).lines.length → j < (ofText text).lines.length →
      ∀ b b' : Nat, (i < j ∨ i = j ∧ b ≤ b') →
        (ofText text).offset (i + 1 : Nat) b ≤ (ofText text).offset (j + 1 : Nat) b' := by
  refine ⟨fun o ho line column h => ?_, fun i l hl b hb => ?_, fun i j hi hj b b' h => ?_⟩
  · have hback := offset_position ho
    rw [h] at hback
    exact hback
  · rw [position_offset hl hb, Nat.add_comm 1 (wholeWithin l b)]
  · exact offset_le_offset (List.getElem?_eq_getElem hi) (List.getElem?_eq_getElem hj) h

/-- An accented letter in front of a pair of line ends, and a sign of three bytes behind it. -/
def accented : List Char := "é\r\na€".toList

/-- The end of the text, the column behind the second byte of the sign, and the pair of line ends
against the line below it. -/
theorem places_convert_accented :
    (ofText accented).position 5 = (2, 3) ∧ (ofText accented).offset 2 4 = 5 ∧
    (3 < byteLength ['a', '€'] ∧
      (ofText accented).position ((ofText accented).offset 2 3) = (2, 2)) ∧
    (ofText accented).offset 1 4 ≤ (ofText accented).offset 2 0 := by
  obtain ⟨hback, hforth, hgrow⟩ := places_convert accented
  have hend : (ofText accented).position (5 : Nat) = (2, 3) := by decide
  have hinside : 3 < byteLength ['a', '€'] := by decide
  exact ⟨hend, hback 5 (by decide) 2 3 hend, ⟨hinside, hforth 1 ['a', '€'] (by decide) 3 hinside⟩,
    hgrow 0 1 (by decide) (by decide) 4 0 (.inl Nat.zero_lt_one)⟩

end Exemplar.LineIndex
