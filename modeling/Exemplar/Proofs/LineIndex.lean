import Exemplar.LineIndex

/-
  Places in a text by its lines. An offset and the place of it lie within the text.
-/

namespace Exemplar

namespace Text

theorem unifyLineEnds_eq {cs : List Char} (h : ∀ c ∈ cs, c ≠ '\r') : unifyLineEnds cs = cs := by
  induction cs with
  | nil => rfl
  | cons c cs ih =>
    obtain ⟨hc, hcs⟩ := List.forall_mem_cons.mp h
    rw [unifyLineEnds, ih hcs]
    · rintro r rfl
      exact absurd rfl hc
    · exact hc

theorem length_unifyLineEnds_le (cs : List Char) : (unifyLineEnds cs).length ≤ cs.length := by
  fun_induction unifyLineEnds cs with
  | case1 => exact Nat.le_refl _
  | case2 r ih => exact Nat.succ_le_succ (Nat.le_succ_of_le ih)
  | case3 r _ ih | case4 c r _ _ ih => exact Nat.succ_le_succ ih

theorem length_sourceLines_le (s : List Char) : (sourceLines s).length ≤ s.length := by
  fun_induction sourceLines s with
  | case1 => exact Nat.le_refl 0
  | case2 r ih | case4 r _ ih => exact Nat.succ_le_succ ih
  | case3 r ih =>
    simp only [List.length_cons]
    omega
  | case5 c r => simp
  | case6 c r _ _ _ l ls h ih =>
    rw [h] at ih
    simp only [List.length_cons] at ih ⊢
    omega

end Text

namespace LineIndex

theorem charsWithin_le (n : Nat) (l : List Char) : charsWithin n l ≤ l.length := by
  induction l generalizing n with
  | nil => exact Nat.le_refl 0
  | cons c r ih =>
    unfold charsWithin
    have := ih (n - c.utf8Size)
    split <;> simp only [List.length_cons] <;> omega

/-- A line lies within the text. -/
theorem start_add_length_le {x : LineIndex} {i : Nat} {l : List Char} (h : x.lines[i]? = some l) :
    x.start i + l.length ≤ x.size := by
  obtain ⟨hi, rfl⟩ := List.getElem?_eq_some_iff.mp h
  have hsplit : x.lines = x.lines.take i ++ x.lines[i] :: x.lines.drop (i + 1) := by
    rw [List.getElem_cons_drop, List.take_append_drop]
  have hlen := congrArg (fun ls => ls.flatten.length) hsplit
  simp only [List.flatten_append, List.flatten_cons, List.length_append] at hlen
  unfold start size
  omega

theorem offset_le (x : LineIndex) (line column : Int) : x.offset line column ≤ x.size := by
  unfold offset
  split
  · exact Nat.le_refl _
  · split
    · exact Nat.le_refl _
    · rename_i l hl
      have hline := start_add_length_le hl
      have hchars := charsWithin_le (bytesUpTo l column) l
      omega

theorem positionFrom_le (ls : List (List Char)) (o : Nat) :
    (positionFrom ls o).1 ≤ ls.length + 1 ∧ (positionFrom ls o).2 ≤ o + 1 := by
  fun_induction positionFrom ls o with
  | case1 o => simp
  | case2 o l => simp
  | case3 o l ls _ h => simp
  | case4 o l ls _ h line column heq ih =>
    rw [heq] at ih
    simp only [List.length_cons] at ih ⊢
    omega

theorem size_ofText (text : List Char) : (ofText text).size = text.length :=
  congrArg List.length (Text.flatten_sourceLines text)

/-- The place of an offset lies within the text, or just behind it. -/
theorem position_le (text : List Char) (o : Int) :
    ((ofText text).position o).1 ≤ text.length + 1 ∧
      ((ofText text).position o).2 ≤ text.length + 1 := by
  have hlines := Text.length_sourceLines_le text
  have hpos := positionFrom_le (Text.sourceLines text)
    (min (max o 0) (ofText text).size).toNat
  rw [size_ofText] at hpos
  have hclamp : (min (max o 0) (text.length : Int)).toNat ≤ text.length := by omega
  unfold position
  rw [size_ofText]
  show (positionFrom (Text.sourceLines text) _).1 ≤ _ ∧
    (positionFrom (Text.sourceLines text) _).2 ≤ _
  omega

end LineIndex

end Exemplar
