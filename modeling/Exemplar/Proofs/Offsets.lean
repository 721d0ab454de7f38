import Exemplar.Proofs.LineIndex
import Exemplar.Syntax.Token

/-
  Places of tokens as offsets into the text. Tokens are read off a text whose line ends have all
  become line feeds, and their places count lines and bytes of it; the index of lines counts
  characters of the text as it was. Up to the `n`-th character the one text is as long as
  `Text.rawLength` says in the other, and that is the offset of the place after `n` characters
  (`LineIndex.offsetOf_afterAll`), whatever ends the lines. Back from that offset, the index gives
  the line and the characters on it (`LineIndex.position_rawLength`). Both go by recursion on the
  text, a line end or another character at a time.
-/

namespace Exemplar

namespace Text

/-- Whether a character ends a line of a source. -/
def isLineEnd (c : Char) : Bool := c == '\n' || c == '\r'

/-- How many characters of a text make the first `n` of it with its line ends unified. -/
@[simp] def rawLength : List Char → Nat → Nat
  | _, 0 => 0
  | [], _ + 1 => 0
  | '\r' :: '\n' :: r, n + 1 => rawLength r n + 2
  | _ :: r, n + 1 => rawLength r n + 1

/-- How many lines of a text have ended. -/
def lineEnds (s : List Char) : Nat := (unifyLineEnds s).count '\n'

/-- How many characters stand behind the last line end of a text. -/
def sinceLineEnd (s : List Char) : Nat := (s.reverse.takeWhile (!isLineEnd ·)).length

/-- A character in front that is not the first of a pair ends a line, or stays as it is. -/
theorem unifyLineEnds_cons {c : Char} {r : List Char}
    (h : ∀ t, c = '\r' → r = '\n' :: t → False) :
    unifyLineEnds (c :: r) = (if isLineEnd c then '\n' else c) :: unifyLineEnds r := by
  by_cases hr : c = '\r'
  · subst hr
    rw [unifyLineEnds]
    · rfl
    · exact fun t ht => h t rfl ht
  · rw [unifyLineEnds]
    · by_cases hn : c = '\n'
      · subst hn
        rfl
      · unfold isLineEnd
        rw [beq_false_of_ne hn, beq_false_of_ne hr]
        rfl
    · exact fun t hc _ => hr hc
    · exact hr

theorem sourceLines_lineEnd {c : Char} {r : List Char}
    (h : ∀ t, c = '\r' → r = '\n' :: t → False) (hc : isLineEnd c = true) :
    sourceLines (c :: r) = [c] :: sourceLines r := by
  obtain hn | hr := Bool.or_eq_true_iff.mp hc
  · rw [beq_iff_eq.mp hn, sourceLines]
  · obtain rfl := beq_iff_eq.mp hr
    rw [sourceLines]
    exact fun t ht => h t rfl ht

/-- A character that ends no line joins the first line behind it. -/
theorem sourceLines_cons {c : Char} (r : List Char) (hc : isLineEnd c = false) :
    ∃ l ls, sourceLines (c :: r) = (c :: l) :: ls ∧
      (sourceLines r = l :: ls ∨ (sourceLines r = [] ∧ l = [] ∧ ls = [])) := by
  obtain ⟨hn, hr⟩ := Bool.or_eq_false_iff.mp hc
  rw [sourceLines.eq_5]
  · split
    · rename_i heq
      exact ⟨[], [], rfl, .inr ⟨heq, rfl, rfl⟩⟩
    · rename_i l ls heq
      exact ⟨l, ls, rfl, .inl heq⟩
  · exact ne_of_beq_false hn
  · exact fun t hc _ => ne_of_beq_false hr hc
  · exact ne_of_beq_false hr

theorem not_pair_take {c : Char} {r : List Char} (h : ∀ t, c = '\r' → r = '\n' :: t → False)
    {n : Nat} : ∀ t, c = '\r' → r.take n = '\n' :: t → False := by
  intro t hc ht
  obtain ⟨v, hv⟩ := List.take_prefix n r
  rw [ht] at hv
  exact h _ hc hv.symm

theorem unifyLineEnds_take (s : List Char) (n : Nat) :
    unifyLineEnds (s.take (rawLength s n)) = (unifyLineEnds s).take n := by
  fun_induction rawLength s n with
  | case1 => rw [List.take_zero, List.take_zero]; rfl
  | case2 => rfl
  | case3 r n ih =>
    show '\n' :: unifyLineEnds (r.take (rawLength r n)) = '\n' :: (unifyLineEnds r).take n
    rw [ih]
  | case4 c r n h ih =>
    rw [List.take_succ_cons, unifyLineEnds_cons (not_pair_take h), ih, unifyLineEnds_cons h,
      List.take_succ_cons]

theorem unifyLineEnds_drop (s : List Char) (n : Nat) :
    unifyLineEnds (s.drop (rawLength s n)) = (unifyLineEnds s).drop n := by
  fun_induction rawLength s n with
  | case1 => rfl
  | case2 => rfl
  | case3 r n ih => exact ih
  | case4 c r n h ih => rw [List.drop_succ_cons, ih, unifyLineEnds_cons h, List.drop_succ_cons]

theorem rawLength_cons {c : Char} {r : List Char} (h : ∀ t, c = '\r' → r = '\n' :: t → False)
    (n : Nat) : rawLength (c :: r) (n + 1) = rawLength r n + 1 := by
  rw [rawLength]
  exact h

theorem rawLength_succ_pos {s : List Char} (h : s ≠ []) (n : Nat) : 0 < rawLength s (n + 1) := by
  unfold rawLength
  split
  · rename_i heq
    cases heq
  · exact absurd rfl h
  · exact Nat.succ_pos _
  · exact Nat.succ_pos _

theorem rawLength_lt {s : List Char} {n m : Nat} (h : n < m) (hn : n < (unifyLineEnds s).length) :
    rawLength s n < rawLength s m := by
  fun_induction rawLength s n generalizing m with
  | case1 s =>
    obtain ⟨m, rfl⟩ := Nat.exists_eq_succ_of_ne_zero (Nat.ne_zero_of_lt h)
    exact rawLength_succ_pos (by rintro rfl; exact absurd hn (Nat.not_lt_zero 0)) m
  | case2 n => exact absurd hn (Nat.not_lt_zero _)
  | case3 r n ih =>
    obtain ⟨m, rfl⟩ := Nat.exists_eq_succ_of_ne_zero (Nat.ne_zero_of_lt h)
    exact Nat.add_lt_add_right (ih (Nat.lt_of_succ_lt_succ h) (Nat.lt_of_succ_lt_succ hn)) 2
  | case4 c r n hc ih =>
    obtain ⟨m, rfl⟩ := Nat.exists_eq_succ_of_ne_zero (Nat.ne_zero_of_lt h)
    rw [unifyLineEnds_cons hc] at hn
    rw [rawLength_cons hc]
    exact Nat.add_lt_add_right (ih (Nat.lt_of_succ_lt_succ h) (Nat.lt_of_succ_lt_succ hn)) 1

theorem rawLength_mono {s : List Char} {n m : Nat} (h : n ≤ m) : rawLength s n ≤ rawLength s m := by
  fun_induction rawLength s n generalizing m with
  | case1 => exact Nat.zero_le _
  | case2 => exact Nat.zero_le _
  | case3 r n ih =>
    obtain ⟨m, rfl⟩ := Nat.exists_eq_succ_of_ne_zero (Nat.ne_zero_of_lt h)
    exact Nat.add_le_add_right (ih (Nat.le_of_succ_le_succ h)) 2
  | case4 c r n hc ih =>
    obtain ⟨m, rfl⟩ := Nat.exists_eq_succ_of_ne_zero (Nat.ne_zero_of_lt h)
    rw [rawLength_cons hc]
    exact Nat.add_le_add_right (ih (Nat.le_of_succ_le_succ h)) 1

theorem rawLength_le (s : List Char) (n : Nat) : rawLength s n ≤ s.length := by
  fun_induction rawLength s n with
  | case1 => exact Nat.zero_le _
  | case2 => exact Nat.le_refl 0
  | case3 r n ih => exact Nat.add_le_add_right ih 2
  | case4 c r n h ih => exact Nat.add_le_add_right ih 1

theorem lineEnds_eq_zero {s : List Char} : lineEnds s = 0 ↔ ∀ c ∈ s, isLineEnd c = false := by
  unfold lineEnds
  rw [List.count_eq_zero]
  fun_induction unifyLineEnds s with
  | case1 => simp
  | case2 r ih =>
    refine iff_of_false (fun h => h List.mem_cons_self) fun h => ?_
    exact absurd (h '\r' List.mem_cons_self) (by decide)
  | case3 r _ ih =>
    refine iff_of_false (fun h => h List.mem_cons_self) fun h => ?_
    exact absurd (h '\r' List.mem_cons_self) (by decide)
  | case4 c r _ hr ih =>
    rw [List.forall_mem_cons, ← ih, List.mem_cons, not_or]
    refine and_congr_left fun _ => ?_
    unfold isLineEnd
    rw [beq_false_of_ne hr, Bool.or_false, beq_eq_false_iff_ne]
    exact ne_comm

/-- A text without line ends stays as it is. -/
theorem unifyLineEnds_of_not_mem {s : List Char} (h : '\n' ∉ unifyLineEnds s) :
    unifyLineEnds s = s := by
  refine unifyLineEnds_eq fun c hc hr => ?_
  have hend := lineEnds_eq_zero.mp (List.count_eq_zero.mpr h) c hc
  rw [hr] at hend
  cases hend

theorem sinceLineEnd_lineEnd {c : Char} (s : List Char) (hc : isLineEnd c = true) :
    sinceLineEnd (c :: s) = sinceLineEnd s := by
  unfold sinceLineEnd
  rw [List.reverse_cons, List.takeWhile_append]
  split
  · rename_i h
    rw [List.takeWhile_cons_of_neg (by rw [hc]; decide), List.append_nil, List.length_reverse, h,
      List.length_reverse]
  · rfl

theorem sinceLineEnd_cons {c : Char} (s : List Char) (hc : isLineEnd c = false) :
    sinceLineEnd (c :: s) = if lineEnds s = 0 then sinceLineEnd s + 1 else sinceLineEnd s := by
  have hlast : [c].takeWhile (!isLineEnd ·) = [c] := List.takeWhile_cons_of_pos (by rw [hc]; rfl)
  have hwhole : (s.reverse.takeWhile (!isLineEnd ·)).length = s.reverse.length ↔
      lineEnds s = 0 := by
    rw [lineEnds_eq_zero]
    constructor
    · intro h c hmem
      have hself := (List.takeWhile_prefix (!isLineEnd ·)).eq_of_length h
      have hall : (s.reverse.takeWhile (!isLineEnd ·)).all (!isLineEnd ·) = true :=
        List.all_takeWhile
      rw [hself] at hall
      simpa using List.all_eq_true.mp hall c (List.mem_reverse.mpr hmem)
    · intro h
      have hall : ∀ c ∈ s.reverse, (!isLineEnd c) = true := fun c hmem => by
        rw [h c (List.mem_reverse.mp hmem)]
        rfl
      have hself : (s.reverse ++ []).takeWhile (!isLineEnd ·) = s.reverse ++ [] :=
        List.takeWhile_append_of_pos hall
      rw [List.append_nil] at hself
      rw [hself]
  unfold sinceLineEnd
  rw [List.reverse_cons, List.takeWhile_append, hlast]
  by_cases h : lineEnds s = 0
  · rw [if_pos h, if_pos (hwhole.mpr h), hwhole.mpr h, List.length_append]
    rfl
  · rw [if_neg h, if_neg (mt hwhole.mp h)]

theorem lineEnds_lineEnd {c : Char} {s : List Char} (h : ∀ t, c = '\r' → s = '\n' :: t → False)
    (hc : isLineEnd c = true) : lineEnds (c :: s) = lineEnds s + 1 := by
  unfold lineEnds
  rw [unifyLineEnds_cons h, if_pos hc, List.count_cons_self]

theorem lineEnds_pair (s : List Char) : lineEnds ('\r' :: '\n' :: s) = lineEnds s + 1 :=
  List.count_cons_self

theorem lineEnds_cons {c : Char} (s : List Char) (hc : isLineEnd c = false) :
    lineEnds (c :: s) = lineEnds s := by
  obtain ⟨hn, hr⟩ := Bool.or_eq_false_iff.mp hc
  unfold lineEnds
  rw [unifyLineEnds_cons fun _ h _ => ne_of_beq_false hr h, hc, if_neg Bool.false_ne_true,
    List.count_cons_of_ne (ne_of_beq_false hn)]

theorem sourceLines_ne_nil (s : List Char) : ∀ l ∈ sourceLines s, l ≠ [] := by
  fun_induction sourceLines s with
  | case1 => exact List.forall_mem_nil _
  | case2 r ih | case3 r ih | case4 r _ ih =>
    exact List.forall_mem_cons.mpr ⟨List.cons_ne_nil _ _, ih⟩
  | case5 c r _ _ _ _ _ => exact List.forall_mem_singleton.mpr (List.cons_ne_nil _ _)
  | case6 c r _ _ _ l ls h ih =>
    rw [h] at ih
    exact List.forall_mem_cons.mpr ⟨List.cons_ne_nil _ _, (List.forall_mem_cons.mp ih).2⟩

end Text

/-! ## Places -/

namespace Syntax.Place

theorem afterAll_cons (p : Place) (c : Char) (cs : List Char) :
    p.afterAll (c :: cs) = (p.after c).afterAll cs := rfl

theorem afterAll_append (p : Place) (cs ds : List Char) :
    p.afterAll (cs ++ ds) = (p.afterAll cs).afterAll ds := List.foldl_append

theorem after_newline (p : Place) : p.after '\n' = ⟨p.line + 1, 0⟩ := rfl

theorem after_other (p : Place) {c : Char} (h : c ≠ '\n') :
    p.after c = ⟨p.line, p.column + c.utf8Size⟩ := if_neg (mt beq_iff_eq.mp h)

theorem afterAll_line (p : Place) (cs : List Char) :
    (p.afterAll cs).line = p.line + cs.count '\n' := by
  induction cs generalizing p with
  | nil => rfl
  | cons c cs ih =>
    rw [afterAll_cons, ih]
    by_cases hc : c = '\n'
    · subst hc
      rw [after_newline, List.count_cons_self]
      show p.line + 1 + _ = _
      omega
    · rw [after_other p hc, List.count_cons_of_ne hc]

theorem line_le_afterAll (p : Place) (cs : List Char) : p.line ≤ (p.afterAll cs).line := by
  rw [afterAll_line]
  exact Nat.le_add_right _ _

/-- The same characters a line below. -/
theorem afterAll_below (l k : Nat) (cs : List Char) :
    (⟨l + 1, k⟩ : Place).afterAll cs =
      ⟨((⟨l, k⟩ : Place).afterAll cs).line + 1, ((⟨l, k⟩ : Place).afterAll cs).column⟩ := by
  induction cs generalizing l k with
  | nil => rfl
  | cons c cs ih =>
    rw [afterAll_cons, afterAll_cons]
    unfold after
    split
    · exact ih (l + 1) 0
    · exact ih l (k + c.utf8Size)

/-- The same characters behind others on their line. -/
theorem afterAll_beside (l b k : Nat) (cs : List Char) :
    (⟨l, b + k⟩ : Place).afterAll cs =
      if ((⟨l, k⟩ : Place).afterAll cs).line = l then ⟨l, b + ((⟨l, k⟩ : Place).afterAll cs).column⟩
      else (⟨l, k⟩ : Place).afterAll cs := by
  induction cs generalizing k with
  | nil => exact (if_pos rfl).symm
  | cons c cs ih =>
    rw [afterAll_cons, afterAll_cons]
    by_cases hc : c = '\n'
    · subst hc
      rw [after_newline, after_newline, if_neg]
      exact Nat.ne_of_gt (line_le_afterAll ⟨l + 1, 0⟩ cs)
    · rw [after_other _ hc, after_other _ hc, ← ih (k + c.utf8Size), Nat.add_assoc]

end Syntax.Place

open Syntax (Place)

namespace LineIndex

/-- The offset of a place. -/
def offsetOf (x : LineIndex) (p : Place) : Nat := x.offset p.line p.column

theorem offsetOf_succ (x : LineIndex) (k b : Nat) : x.offsetOf ⟨k + 1, b⟩ =
    (x.lines[k]?).elim x.size fun l => x.start k + charsWithin b l := by
  have hk : ((k + 1 : Nat) : Int).toNat - 1 = k := Nat.add_sub_cancel k 1
  show x.offset (k + 1 : Nat) b = _
  unfold offset
  rw [if_neg (by omega), hk]
  cases x.lines[k]? with
  | none => rfl
  | some l =>
    show x.start k + charsWithin (bytesUpTo l b) l = x.start k + charsWithin b l
    unfold bytesUpTo
    rw [if_neg (by omega), Int.toNat_natCast]

/-- A line in front. -/
theorem offsetOf_below (l : List Char) (ls : List (List Char)) {q : Place} (hq : 1 ≤ q.line) :
    offsetOf ⟨l :: ls⟩ ⟨q.line + 1, q.column⟩ = offsetOf ⟨ls⟩ q + l.length := by
  obtain ⟨k, b⟩ := q
  obtain ⟨k, rfl⟩ := Nat.exists_eq_add_of_le' hq
  rw [offsetOf_succ, offsetOf_succ]
  show (ls[k]?).elim _ _ = _
  cases ls[k]? with
  | none =>
    show (l :: ls).flatten.length = ls.flatten.length + l.length
    rw [List.flatten_cons, List.length_append, Nat.add_comm]
  | some m =>
    show ((l :: ls).take (k + 1)).flatten.length + charsWithin b m =
      (ls.take k).flatten.length + charsWithin b m + l.length
    rw [List.take_succ_cons, List.flatten_cons, List.length_append]
    omega

/-- A character in front of the first line. -/
theorem offsetOf_beside (c : Char) (l : List Char) (ls : List (List Char)) {q : Place}
    (hq : 1 ≤ q.line) :
    offsetOf ⟨(c :: l) :: ls⟩ (if q.line = 1 then ⟨1, c.utf8Size + q.column⟩ else q) =
      offsetOf ⟨l :: ls⟩ q + 1 := by
  obtain ⟨k, b⟩ := q
  obtain ⟨k, rfl⟩ := Nat.exists_eq_add_of_le' hq
  cases k with
  | zero =>
    rw [if_pos rfl, offsetOf_succ, offsetOf_succ]
    show 0 + charsWithin (c.utf8Size + b) (c :: l) = 0 + charsWithin b l + 1
    rw [charsWithin, if_pos (Nat.le_add_right ..), Nat.add_sub_cancel_left, Nat.add_assoc]
  | succ k =>
    rw [if_neg (by show ¬k + 1 + 1 = 1; omega), offsetOf_succ, offsetOf_succ]
    show (ls[k]?).elim _ _ = (ls[k]?).elim _ _ + 1
    cases ls[k]? with
    | none =>
      show ((c :: l) :: ls).flatten.length = (l :: ls).flatten.length + 1
      simp only [List.flatten_cons, List.length_append, List.length_cons]
      omega
    | some m =>
      show (((c :: l) :: ls).take (k + 1)).flatten.length + _ =
        ((l :: ls).take (k + 1)).flatten.length + _ + 1
      simp only [List.take_succ_cons, List.flatten_cons, List.length_append, List.length_cons]
      omega

/-- There is nothing in an empty line. -/
theorem offsetOf_empty {q : Place} (hq : 1 ≤ q.line) : offsetOf ⟨[[]]⟩ q = offsetOf ⟨[]⟩ q := by
  obtain ⟨k, b⟩ := q
  obtain ⟨k, rfl⟩ := Nat.exists_eq_add_of_le' hq
  rw [offsetOf_succ, offsetOf_succ]
  cases k <;> rfl

theorem charsWithin_zero (l : List Char) : charsWithin 0 l = 0 := by
  cases l with
  | nil => rfl
  | cons c l => exact if_neg (Nat.not_le.mpr c.utf8Size_pos)

theorem offsetOf_origin (x : LineIndex) : x.offsetOf ⟨1, 0⟩ = 0 := by
  obtain ⟨ls⟩ := x
  show offsetOf ⟨ls⟩ ⟨0 + 1, 0⟩ = 0
  rw [offsetOf_succ]
  cases ls with
  | nil => rfl
  | cons l ls =>
    show 0 + charsWithin 0 l = 0
    rw [charsWithin_zero]

/-- The place that unified characters of a text end at is where those characters end in it. -/
theorem offsetOf_afterAll (s : List Char) (n : Nat) :
    (ofText s).offsetOf ((⟨1, 0⟩ : Place).afterAll ((Text.unifyLineEnds s ++ ['\n']).take n)) =
      Text.rawLength s n := by
  fun_induction Text.rawLength s n with
  | case1 s => exact offsetOf_origin _
  | case2 n =>
    show (ofText []).offsetOf ((⟨1, 0⟩ : Place).afterAll ('\n' :: ([] : List Char).take n)) = 0
    rw [List.take_nil]
    rfl
  | case3 r n ih =>
    have hline := Place.line_le_afterAll ⟨1, 0⟩ ((Text.unifyLineEnds r ++ ['\n']).take n)
    show offsetOf ⟨['\r', '\n'] :: Text.sourceLines r⟩ ((⟨2, 0⟩ : Place).afterAll
      ((Text.unifyLineEnds r ++ ['\n']).take n)) = _
    rw [Place.afterAll_below, offsetOf_below _ _ hline]
    exact congrArg (· + 2) ih
  | case4 c r n h ih =>
    have hline := Place.line_le_afterAll ⟨1, 0⟩ ((Text.unifyLineEnds r ++ ['\n']).take n)
    rw [Text.unifyLineEnds_cons h, List.cons_append, List.take_succ_cons, Place.afterAll_cons]
    cases hc : Text.isLineEnd c with
    | true =>
      rw [if_pos rfl, Place.after_newline]
      show offsetOf ⟨Text.sourceLines (c :: r)⟩ ((⟨2, 0⟩ : Place).afterAll _) = _
      rw [Text.sourceLines_lineEnd h hc, Place.afterAll_below, offsetOf_below _ _ hline]
      exact congrArg (· + 1) ih
    | false =>
      have hne : c ≠ '\n' := by
        rintro rfl
        cases hc
      obtain ⟨l, ls, hlines, hrest⟩ := Text.sourceLines_cons r hc
      rw [if_neg Bool.false_ne_true, Place.after_other _ hne]
      show offsetOf ⟨Text.sourceLines (c :: r)⟩ ((⟨1, 0 + c.utf8Size⟩ : Place).afterAll _) = _
      rw [hlines, Nat.add_comm 0, Place.afterAll_beside, offsetOf_beside _ _ _ hline, ← ih]
      obtain hrest | ⟨hrest, rfl, rfl⟩ := hrest
      · exact congrArg (fun ls => offsetOf ⟨ls⟩ _ + 1) hrest.symm
      · rw [offsetOf_empty hline]
        exact congrArg (fun ls => offsetOf ⟨ls⟩ _ + 1) hrest.symm

theorem offsetOf_prefix {s cs : List Char} (h : cs <+: Text.unifyLineEnds s ++ ['\n']) :
    (ofText s).offsetOf ((⟨1, 0⟩ : Place).afterAll cs) = Text.rawLength s cs.length := by
  have hoffset := offsetOf_afterAll s cs.length
  rwa [← List.prefix_iff_eq_take.mp h] at hoffset

theorem positionFrom_zero {ls : List (List Char)} (h : ∀ l ∈ ls, l ≠ []) :
    positionFrom ls 0 = (1, 1) := by
  unfold positionFrom
  split
  · rfl
  · rfl
  · exact if_pos (List.length_pos_iff.mpr (h _ List.mem_cons_self))

theorem positionFrom_cons (l : List Char) {ls : List (List Char)} (h : ls ≠ []) (o : Nat) :
    positionFrom (l :: ls) o = if o < l.length then (1, o + 1)
      else ((positionFrom ls (o - l.length)).1 + 1, (positionFrom ls (o - l.length)).2) := by
  rw [positionFrom]
  exact h

theorem positionFrom_below {l : List Char} {ls : List (List Char)} (h : ls ≠ []) {k : Nat}
    (hk : l.length = k) (o : Nat) :
    positionFrom (l :: ls) (o + k) = ((positionFrom ls o).1 + 1, (positionFrom ls o).2) := by
  rw [positionFrom_cons l h, hk, if_neg (by omega), Nat.add_sub_cancel]

theorem one_le_positionFrom (ls : List (List Char)) (o : Nat) : 1 ≤ (positionFrom ls o).1 := by
  unfold positionFrom
  split
  · exact Nat.le_refl 1
  · exact Nat.le_refl 1
  · split
    · exact Nat.le_refl 1
    · exact Nat.le_add_left 1 _

theorem positionFrom_beside (c : Char) (l : List Char) (ls : List (List Char)) (o : Nat) :
    positionFrom ((c :: l) :: ls) (o + 1) =
      if (positionFrom (l :: ls) o).1 = 1 then (1, (positionFrom (l :: ls) o).2 + 1)
      else positionFrom (l :: ls) o := by
  cases ls with
  | nil => exact (if_pos rfl).symm
  | cons m ms =>
    have hpos := one_le_positionFrom (m :: ms) (o - l.length)
    rw [positionFrom_cons _ (List.cons_ne_nil m ms), positionFrom_cons _ (List.cons_ne_nil m ms),
      List.length_cons, Nat.add_sub_add_right]
    by_cases h : o < l.length
    · rw [if_pos h, if_pos (Nat.succ_lt_succ h), if_pos rfl]
    · rw [if_neg h, if_neg (mt Nat.lt_of_succ_lt_succ h), if_neg]
      exact Nat.ne_of_gt (Nat.succ_lt_succ hpos)

theorem sourceLines_of_lt {s : List Char} {n : Nat} (h : n < (Text.unifyLineEnds s).length) :
    Text.sourceLines s ≠ [] := by
  intro hnil
  have hs : s = [] := by rw [← Text.flatten_sourceLines s, hnil]; rfl
  rw [hs] at h
  exact absurd h (Nat.not_lt_zero n)

/-- The place in characters of where unified characters of a text end. -/
theorem positionFrom_rawLength {s : List Char} {n : Nat} (hn : n < (Text.unifyLineEnds s).length) :
    positionFrom (Text.sourceLines s) (Text.rawLength s n) =
      (Text.lineEnds (s.take (Text.rawLength s n)) + 1,
        Text.sinceLineEnd (s.take (Text.rawLength s n)) + 1) := by
  fun_induction Text.rawLength s n with
  | case1 s => exact positionFrom_zero (Text.sourceLines_ne_nil s)
  | case2 n => exact absurd hn (Nat.not_lt_zero _)
  | case3 r n ih =>
    have hn' := Nat.lt_of_succ_lt_succ hn
    have hr : Text.sourceLines r ≠ [] := sourceLines_of_lt hn'
    show positionFrom (['\r', '\n'] :: Text.sourceLines r) (Text.rawLength r n + 2) =
      (Text.lineEnds ('\r' :: '\n' :: r.take (Text.rawLength r n)) + 1,
        Text.sinceLineEnd ('\r' :: '\n' :: r.take (Text.rawLength r n)) + 1)
    rw [positionFrom_below (k := 2) hr rfl, ih hn', Text.sinceLineEnd_lineEnd _ rfl,
      Text.sinceLineEnd_lineEnd _ rfl, Text.lineEnds_pair]
  | case4 c r n h ih =>
    rw [Text.unifyLineEnds_cons h] at hn
    have hn' := Nat.lt_of_succ_lt_succ hn
    have hr : Text.sourceLines r ≠ [] := sourceLines_of_lt hn'
    rw [List.take_succ_cons]
    cases hc : Text.isLineEnd c with
    | true =>
      rw [Text.sourceLines_lineEnd h hc, positionFrom_below (k := 1) hr rfl, ih hn',
        Text.sinceLineEnd_lineEnd _ hc, Text.lineEnds_lineEnd _ hc]
      exact Text.not_pair_take h
    | false =>
      obtain ⟨l, ls, hlines, hrest | ⟨hnil, -⟩⟩ := Text.sourceLines_cons r hc
      · rw [hlines, positionFrom_beside, ← hrest, ih hn', Text.sinceLineEnd_cons _ hc,
          Text.lineEnds_cons _ hc]
        by_cases hz : Text.lineEnds (r.take (Text.rawLength r n)) = 0
        · rw [if_pos (congrArg (· + 1) hz), if_pos hz, hz]
        · rw [if_neg (mt Nat.succ.inj hz), if_neg hz]
      · exact absurd hnil hr

theorem position_rawLength {s : List Char} {n : Nat} (hn : n < (Text.unifyLineEnds s).length) :
    (ofText s).position (Text.rawLength s n) =
      (Text.lineEnds (s.take (Text.rawLength s n)) + 1,
        Text.sinceLineEnd (s.take (Text.rawLength s n)) + 1) := by
  have hle := Text.rawLength_le s n
  have hclamp : (min (max (Text.rawLength s n : Int) 0) (s.length : Int)).toNat =
      Text.rawLength s n := by omega
  unfold position
  rw [size_ofText, hclamp]
  exact positionFrom_rawLength hn

end LineIndex

end Exemplar
