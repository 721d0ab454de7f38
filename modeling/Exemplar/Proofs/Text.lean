import Exemplar.Text.CharSet
import Exemplar.Text.Identifier
import Exemplar.Text.Lines
import Mathlib.Data.List.Basic

/-
  The front of a text as long as a property of its characters holds, and the blanks around a text:
  what `takeWhile`, `dropWhile` and the trims make of texts put together. A place in two texts put
  together is in one of them (`append_eq_append_cons`).

  No white space is a word character (`not_isWordChar_of_isBlank`), begins an identifier or stands
  in one (`not_isIdentifierStart_of_isBlank`, `not_isIdentifierContinue_of_isBlank`). Within ASCII
  this is seen from the classes themselves; beyond, the tables are gone through once. A set by its
  bounds holds the characters between the first bound and the second, the third and the fourth, and
  so on, where the bounds ascend (`even_of_spansFree`): so it is enough that no wide blank lies in
  such a span.
-/

namespace Exemplar.Text

section

variable {p : Char → Bool} {a b : List Char}

theorem takeWhile_run (h : ∀ c ∈ a, p c = true) (hb : ∀ c ∈ b.head?, p c = false) :
    (a ++ b).takeWhile p = a := by
  rw [List.takeWhile_append_of_pos h]
  cases b with
  | nil => simp
  | cons c b => simp [hb c rfl]

theorem dropWhile_run (h : ∀ c ∈ a, p c = true) (hb : ∀ c ∈ b.head?, p c = false) :
    (a ++ b).dropWhile p = b := by
  rw [List.dropWhile_append_of_pos h]
  cases b with
  | nil => rfl
  | cons c b => simp [hb c rfl]

theorem mem_takeWhile {c : Char} (h : c ∈ a.takeWhile p) : p c = true :=
  List.all_eq_true.1 List.all_takeWhile c h

theorem takeWhile_append_drop (p : Char → Bool) (cs : List Char) :
    cs.takeWhile p ++ cs.drop (cs.takeWhile p).length = cs :=
  List.prefix_iff_eq_append.1 (List.takeWhile_prefix p)

theorem head?_drop_takeWhile (p : Char → Bool) (cs : List Char) :
    ∀ c ∈ (cs.drop (cs.takeWhile p).length).head?, p c = false := by
  intro c hc
  rw [List.append_cancel_left
    ((takeWhile_append_drop p cs).trans List.takeWhile_append_dropWhile.symm)] at hc
  have h := List.head?_dropWhile_not p cs
  rwa [hc] at h

theorem dropWhile_append_of_mem {c : Char} (hc : c ∈ a) (hp : p c = false) :
    (a ++ b).dropWhile p = a.dropWhile p ++ b ∧ c ∈ a.dropWhile p := by
  induction a with
  | nil => cases hc
  | cons d a ih =>
    by_cases hd : p d = true
    · have hca : c ∈ a := by
        rcases List.mem_cons.1 hc with rfl | hca
        · simp [hp] at hd
        · exact hca
      simpa [hd] using ih hca
    · simpa [hd] using hc

end

theorem append_eq_append_cons {α : Type} {a b x y : List α} {c : α} (h : a ++ b = x ++ c :: y) :
    (∃ k, a = x ++ c :: k ∧ y = k ++ b) ∨ ∃ k, x = a ++ k ∧ b = k ++ c :: y := by
  obtain ⟨k, hx, hb⟩ | ⟨k, ha, hk⟩ := List.append_eq_append_iff.1 h
  · exact .inr ⟨k, hx, hb⟩
  · cases k with
    | nil => exact .inr ⟨[], by simpa using ha.symm, hk.symm⟩
    | cons d k =>
      obtain ⟨rfl, rfl⟩ := List.cons.inj hk
      exact .inl ⟨k, ha, rfl⟩

/-! ## Blanks -/

variable {a b cs : List Char} {c : Char}

theorem exists_blanks_trimLeft (cs : List Char) :
    ∃ front, (∀ c ∈ front, isBlank c = true) ∧ cs = front ++ trimLeft cs :=
  ⟨cs.takeWhile isBlank, fun _ => mem_takeWhile, List.takeWhile_append_dropWhile.symm⟩

theorem trimLeft_of_head? (h : ∀ c ∈ cs.head?, isBlank c = false) : trimLeft cs = cs :=
  dropWhile_run (a := []) nofun h

theorem trimLeft_append (hc : c ∈ a) (hblank : isBlank c = false) :
    trimLeft (a ++ b) = trimLeft a ++ b :=
  (dropWhile_append_of_mem hc hblank).1

theorem mem_trimLeft_of_mem (hc : c ∈ a) (hblank : isBlank c = false) : c ∈ trimLeft a :=
  (dropWhile_append_of_mem (b := []) hc hblank).2

theorem trimRight_append (hc : c ∈ b) (hblank : isBlank c = false) :
    trimRight (a ++ b) = a ++ trimRight b := by
  rw [trimRight, List.reverse_append,
    (dropWhile_append_of_mem (List.mem_reverse.2 hc) hblank).1, List.reverse_append,
    List.reverse_reverse]
  rfl

theorem trimRight_isPrefix (cs : List Char) : trimRight cs <+: cs := by
  rw [trimRight, ← List.reverse_suffix, List.reverse_reverse]
  exact List.dropWhile_suffix _

theorem trimRight_of_getLast? (h : ∀ c ∈ cs.getLast?, isBlank c = false) : trimRight cs = cs := by
  rw [trimRight, ← List.head?_reverse] at *
  rw [show cs.reverse.dropWhile isBlank = cs.reverse from trimLeft_of_head? h, List.reverse_reverse]

theorem trimRight_append_of_getLast? (h : ∀ c ∈ a.getLast?, isBlank c = false) :
    trimRight (a ++ b) = a ++ trimRight b := by
  by_cases hb : ∀ c ∈ b, isBlank c = true
  · have hall : ∀ c ∈ b.reverse, isBlank c = true := fun c hc => hb c (List.mem_reverse.1 hc)
    have hnil : trimRight b = [] := by
      simpa [trimRight] using dropWhile_run (b := []) hall nofun
    rw [hnil, List.append_nil, trimRight, List.reverse_append, List.dropWhile_append_of_pos hall]
    exact trimRight_of_getLast? h
  · obtain ⟨c, hc, hblank⟩ : ∃ c ∈ b, isBlank c = false := by simpa using hb
    exact trimRight_append hc hblank

/-- A text without blanks at its ends. -/
structure Trimmed (cs : List Char) : Prop where
  head : ∀ c ∈ cs.head?, isBlank c = false
  last : ∀ c ∈ cs.getLast?, isBlank c = false

theorem Trimmed.trim (h : Trimmed cs) : trim cs = cs := by
  rw [Text.trim, trimLeft_of_head? h.head, trimRight_of_getLast? h.last]

end Exemplar.Text

namespace Exemplar.Text

/-! ## Classes of characters -/

/-! ## Spans of a table -/

/-- The bounds ascend, and none of the codes lies from a bound of even place up to the next. -/
def spansFree (codes : List Nat) : List Nat → Bool
  | [] => true
  | [_] => false
  | a :: b :: r =>
    Nat.ble a b && codes.all (fun n => Nat.blt n a || Nat.ble b n) &&
      r.head?.all (Nat.ble b) && spansFree codes r

theorem pairwise_of_spansFree {codes bounds : List Nat} (h : spansFree codes bounds = true) :
    bounds.Pairwise (· ≤ ·) := by
  rw [← List.isChain_iff_pairwise]
  induction bounds using spansFree.induct with
  | case1 => exact .nil
  | case2 a => exact .singleton a
  | case3 a b r ih =>
    simp only [spansFree, Bool.and_eq_true, Nat.ble_eq] at h
    obtain ⟨⟨⟨hab, -⟩, hr⟩, hrest⟩ := h
    refine .cons_cons hab ?_
    cases r with
    | nil => exact .singleton b
    | cons c r => exact .cons_cons (by simpa using hr) (ih hrest)

/-- The count of the bounds at or below a code that lies in no span is even. -/
theorem even_of_spansFree {codes bounds : List Nat} (h : spansFree codes bounds = true) {n r : Nat}
    (hn : n ∈ codes) (hr : r ≤ bounds.length) (hbelow : ∀ i < r, bounds.getD i 0 ≤ n)
    (habove : ∀ i, r ≤ i → i < bounds.length → n < bounds.getD i 0) : r % 2 = 0 := by
  induction bounds using spansFree.induct generalizing r with
  | case1 => simp at hr; simp [hr]
  | case2 a => simp [spansFree] at h
  | case3 a b rest ih =>
    simp only [spansFree, Bool.and_eq_true, List.all_eq_true] at h
    obtain ⟨⟨⟨-, hfree⟩, -⟩, hrest⟩ := h
    match r with
    | 0 => rfl
    | 1 =>
      have ha := hbelow 0 (by omega)
      have hb := habove 1 (by omega) (by simp)
      have := hfree n hn
      simp [Nat.blt] at this ha hb
      omega
    | r + 2 =>
      have := ih hrest (r := r) (by simpa using hr)
        (fun i hi => by simpa using hbelow (i + 2) (by omega))
        fun i hi hlt => by simpa using habove (i + 2) (by omega) (by simpa using hlt)
      omega

namespace CharSet

/-- The bisection counts the bounds at or below a code. -/
theorem rank_bounds {bounds : Array Nat} (hsorted : bounds.toList.Pairwise (· ≤ ·)) (n lo hi : Nat)
    (hlo : lo ≤ hi) (hhi : hi ≤ bounds.size) :
    lo ≤ rank bounds n lo hi ∧ rank bounds n lo hi ≤ hi ∧
      (∀ i, lo ≤ i → i < rank bounds n lo hi → bounds.getD i 0 ≤ n) ∧
      ∀ i, rank bounds n lo hi ≤ i → i < hi → n < bounds.getD i 0 := by
  have hmono : ∀ i j, i ≤ j → j < bounds.size → bounds.getD i 0 ≤ bounds.getD j 0 := by
    intro i j hij hj
    rcases Nat.lt_or_eq_of_le hij with hlt | rfl
    · have := List.pairwise_iff_getElem.1 hsorted i j (by simp; omega) (by simpa using hj) hlt
      simpa [Array.getD, hj, Nat.lt_of_lt_of_le hlt (Nat.le_of_lt hj)] using this
    · exact Nat.le_refl _
  fun_induction rank bounds n lo hi with
  | case1 lo hi h mid hle ih =>
    obtain ⟨h1, h2, h3, h4⟩ := ih (by omega) hhi
    refine ⟨by omega, h2, fun i hi' hlt => ?_, h4⟩
    by_cases hi'' : mid + 1 ≤ i
    · exact h3 i hi'' hlt
    · exact Nat.le_trans (hmono i mid (by omega) (by omega)) hle
  | case2 lo hi h mid hle ih =>
    obtain ⟨h1, h2, h3, h4⟩ := ih (by omega) (by omega)
    refine ⟨h1, by omega, h3, fun i hi' hlt => ?_⟩
    by_cases hi'' : i < mid
    · exact h4 i hi' hi''
    · exact Nat.lt_of_lt_of_le (Nat.lt_of_not_le hle) (hmono mid i (by omega) (by omega))
  | case3 lo hi h => exact ⟨Nat.le_refl _, hlo, fun i _ _ => by omega, fun i _ _ => by omega⟩

end CharSet

/-! ## Reading a table -/

/-- The value of a hexadecimal digit by its code. -/
def codeDigit? (n : Nat) : Option Nat :=
  bif Nat.ble 48 n && Nat.ble n 57 then some (n - 48)
  else bif Nat.ble 97 n && Nat.ble n 102 then some (n - 87)
  else none

theorem hexDigit?_eq (c : Char) : hexDigit? c = codeDigit? c.toNat := by
  have h (a b : Char) : a ≤ b ↔ a.toNat ≤ b.toNat := Iff.rfl
  simp only [hexDigit?, codeDigit?, h, Bool.cond_eq_ite, Bool.and_eq_true, decide_eq_true_eq,
    Nat.ble_eq]
  rfl

/-- The numbers of a line, after the digits of a number that is open. -/
def numbers (open? : Option Nat) : List Char → List Nat
  | [] => open?.toList
  | c :: cs =>
    match codeDigit? c.toNat with
    | some d => numbers (some (16 * open?.getD 0 + d)) cs
    | none => open?.toList ++ numbers none cs

/-- The state after one more character: the numbers that are done, and the one that is open. -/
def readStep (x : Array Nat × Option Nat) (c : Char) : Array Nat × Option Nat :=
  match hexDigit? c, x.2 with
  | some d, some n => (x.1, some (16 * n + d))
  | some d, none => (x.1, some d)
  | none, some n => (x.1.push n, none)
  | none, none => (x.1, none)

/-- The numbers, the open one among them. -/
def allRead (x : Array Nat × Option Nat) : Array Nat :=
  match x.2 with
  | some n => x.1.push n
  | none => x.1

theorem toList_allRead (cs : List Char) (x : Array Nat × Option Nat) :
    (allRead (cs.foldl readStep x)).toList = x.1.toList ++ numbers x.2 cs := by
  induction cs generalizing x with
  | nil => obtain ⟨done, _ | n⟩ := x <;> simp [numbers, allRead]
  | cons c cs ih =>
    obtain ⟨done, open?⟩ := x
    rw [List.foldl_cons, ih, numbers, ← hexDigit?_eq, readStep]
    cases hexDigit? c <;> cases open? <;> simp

theorem toList_readLine (s : String) : (readLine s).toList = numbers none s.toList := by
  have hfold : readLine s = allRead (s.toList.foldl readStep (#[], none)) := rfl
  rw [hfold, toList_allRead]
  rfl

theorem toList_readBounds (lines : List String) :
    (readBounds lines).toList = ((lines.map String.toList).map (numbers none)).flatten := by
  simp [readBounds, Function.comp_def, toList_readLine]

/-- Text by text: the characters of a written text are at hand, without its bytes. -/
theorem map_toList_cons {cs : List Char} {lines : List String} {texts : List (List Char)}
    (h : lines.map String.toList = texts) :
    (String.ofList cs :: lines).map String.toList = cs :: texts := by
  simp [h]

theorem spansFree_ofBounds {codes : List Nat} {lines : List String} {texts : List (List Char)}
    (hlines : lines.map String.toList = texts)
    (hfree : spansFree codes (texts.map (numbers none)).flatten = true) :
    spansFree codes (CharSet.ofBounds lines).bounds.toList = true := by
  rwa [CharSet.ofBounds, toList_readBounds, hlines]

theorem CharSet.not_contains_of_spansFree {s : CharSet} {codes : List Nat}
    (hfree : spansFree codes s.bounds.toList = true) {c : Char} (hc : c.toNat ∈ codes) :
    s.contains c = false := by
  obtain ⟨-, hle, hbelow, habove⟩ := rank_bounds (pairwise_of_spansFree hfree) c.toNat 0
    _ (Nat.zero_le _) (Nat.le_refl _)
  have := even_of_spansFree hfree hc (by simpa using hle)
    (fun i hi => by simpa [Array.getD_eq_getD_getElem?] using hbelow i (Nat.zero_le _) hi)
    fun i hi hlt => by
      simpa [Array.getD_eq_getD_getElem?] using habove i hi (by simpa using hlt)
  simp [contains, this]

/-! ## White space -/

/-- White space beyond ASCII. -/
def wideBlanks : List Nat :=
  [0x85, 0xa0, 0x1680, 0x2000, 0x2001, 0x2002, 0x2003, 0x2004, 0x2005, 0x2006, 0x2007, 0x2008,
    0x2009, 0x200a, 0x2028, 0x2029, 0x202f, 0x205f, 0x3000]

theorem mem_wideBlanks {c : Char} (h : isBlank c = true) (hc : ¬ c.toNat < 128) :
    c.toNat ∈ wideBlanks := by
  simp only [isBlank, Bool.or_eq_true, Bool.and_eq_true, decide_eq_true_eq, beq_iff_eq] at h
  simp only [wideBlanks, List.mem_cons, List.not_mem_nil, or_false]
  omega

theorem not_isAlphanum_of_isBlank {c : Char} (h : isBlank c = true) (hc : c.toNat < 128) :
    (c.isAlphanum || c == '_') = false := by
  have key : ∀ n < 128, isBlank (.ofNat n) = true →
      ((Char.ofNat n).isAlphanum || Char.ofNat n == '_') = false := by decide
  simpa using key c.toNat hc (by simpa using h)

theorem spansFree_wideWordChars : spansFree wideBlanks wideWordChars.bounds.toList = true := by
  apply spansFree_ofBounds
  case hlines =>
    repeat apply map_toList_cons
    rfl
  case hfree => decide +kernel

theorem spansFree_wideIdentifierStart :
    spansFree wideBlanks wideIdentifierStart.bounds.toList = true := by
  apply spansFree_ofBounds
  case hlines =>
    repeat apply map_toList_cons
    rfl
  case hfree => decide +kernel

theorem spansFree_wideIdentifierContinue :
    spansFree wideBlanks wideIdentifierContinue.bounds.toList = true := by
  apply spansFree_ofBounds
  case hlines =>
    repeat apply map_toList_cons
    rfl
  case hfree => decide +kernel

theorem not_isWordChar_of_isBlank {c : Char} (h : isBlank c = true) : isWordChar c = false := by
  unfold isWordChar
  split
  case isTrue hc => exact not_isAlphanum_of_isBlank h hc
  case isFalse hc =>
    exact CharSet.not_contains_of_spansFree spansFree_wideWordChars (mem_wideBlanks h hc)

theorem not_isIdentifierStart_of_isBlank {c : Char} (h : isBlank c = true) :
    isIdentifierStart c = false := by
  unfold isIdentifierStart
  split
  case isTrue hc =>
    have := not_isAlphanum_of_isBlank h hc
    unfold Char.isAlphanum at this
    simp only [Bool.or_eq_false_iff] at this ⊢
    exact ⟨this.1.1, this.2⟩
  case isFalse hc =>
    exact CharSet.not_contains_of_spansFree spansFree_wideIdentifierStart (mem_wideBlanks h hc)

theorem not_isIdentifierContinue_of_isBlank {c : Char} (h : isBlank c = true) :
    isIdentifierContinue c = false := by
  unfold isIdentifierContinue
  split
  case isTrue hc => exact not_isAlphanum_of_isBlank h hc
  case isFalse hc =>
    exact CharSet.not_contains_of_spansFree spansFree_wideIdentifierContinue (mem_wideBlanks h hc)

end Exemplar.Text
