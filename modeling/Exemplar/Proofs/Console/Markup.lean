import Exemplar.Console

/-
  Tags that act. A backslash in front of a tag marks it, unless the backslash is marked itself; so a
  tag acts behind an even number of backslashes (`tags`). Marking puts one more than there are in
  front of each tag, which makes an odd number, and makes no tag of what was none. So no tag of an
  escaped text acts, whatever the text holds (`tags_escape`); and a text behind another one changes
  nothing about its tags if it closes none (`tagsFrom_append`).
-/

namespace Exemplar.Markup

/-- The tags that act, in their order; `slashes` backslashes have just been passed. -/
def tagsFrom (slashes : Nat) : List Char → List (List Char)
  | [] => []
  | c :: r =>
    if c == '\\' then tagsFrom (slashes + 1) r
    else if c == '[' && isTag r && slashes % 2 == 0 then r.takeWhile (· != ']') :: tagsFrom 0 r
    else tagsFrom 0 r

/-- The tags of a markup that act. -/
def tags (s : String) : List String := (tagsFrom 0 s.toList).map String.ofList

/-! ## One character after the other -/

theorem tagsFrom_cons (slashes : Nat) (c : Char) (r : List Char) :
    tagsFrom slashes (c :: r) =
      if c == '\\' then tagsFrom (slashes + 1) r
      else if c == '[' && isTag r && slashes % 2 == 0 then r.takeWhile (· != ']') :: tagsFrom 0 r
      else tagsFrom 0 r := rfl

theorem markTags_cons (slashes : Nat) (c : Char) (r : List Char) :
    markTags slashes (c :: r) =
      if c == '\\' then c :: markTags (slashes + 1) r
      else if c == '[' && isTag r then List.replicate (slashes + 1) '\\' ++ c :: markTags 0 r
      else c :: markTags 0 r := rfl

theorem closes_cons (c : Char) (r : List Char) :
    closes (c :: r) = if c == ']' then true else if c == '[' then false else closes r := rfl

theorem isTag_cons (c : Char) (r : List Char) : isTag (c :: r) = (opensTag c && closes r) := rfl

/-! ## Marking tags -/

theorem tagsFrom_slash (slashes : Nat) (cs : List Char) :
    tagsFrom slashes ('\\' :: cs) = tagsFrom (slashes + 1) cs := by
  rw [tagsFrom_cons, if_pos (by decide)]

theorem tagsFrom_slashes (slashes n : Nat) (cs : List Char) :
    tagsFrom slashes (List.replicate n '\\' ++ cs) = tagsFrom (slashes + n) cs := by
  induction n generalizing slashes with
  | zero => rfl
  | succ n ih =>
    rw [List.replicate_succ, List.cons_append, tagsFrom_slash, ih]
    congr 1
    omega

/-- A bracket that is no tag, or is marked. -/
theorem tagsFrom_bracket {slashes : Nat} {cs : List Char}
    (h : isTag cs = false ∨ slashes % 2 = 1) : tagsFrom slashes ('[' :: cs) = tagsFrom 0 cs := by
  have inert : ('[' == '[' && isTag cs && slashes % 2 == 0) = false := by
    rcases h with h | h <;> simp [h]
  rw [tagsFrom_cons, if_neg (by decide), inert, if_neg Bool.false_ne_true]

theorem tagsFrom_plain {slashes : Nat} {c : Char} (hslash : c ≠ '\\') (hbracket : c ≠ '[')
    (cs : List Char) : tagsFrom slashes (c :: cs) = tagsFrom 0 cs := by
  have inert : (c == '[' && isTag cs && slashes % 2 == 0) = false := by simp [hbracket]
  rw [tagsFrom_cons, if_neg (by simpa using hslash), inert, if_neg Bool.false_ne_true]

/-- The backslashes that marking puts in stand in front of brackets that open, so they are no part
of a tag. -/
theorem closes_markTags (cs : List Char) (slashes : Nat) :
    closes (markTags slashes cs) = closes cs := by
  induction cs generalizing slashes with
  | nil => rfl
  | cons c cs ih =>
    have slash : ∀ n (r : List Char), closes (List.replicate n '\\' ++ '[' :: r) = false := by
      intro n r
      induction n with
      | zero => rfl
      | succ n ihn => exact ihn
    rw [markTags_cons]
    split
    · rw [closes_cons, closes_cons, ih]
    · split
      · rename_i htag
        have hc : c = '[' := by simpa using (Bool.and_eq_true_iff.mp htag).1
        subst hc
        rw [slash]
        rfl
      · rw [closes_cons, closes_cons, ih]

theorem isTag_markTags (cs : List Char) : isTag (markTags 0 cs) = isTag cs := by
  cases cs with
  | nil => rfl
  | cons c cs =>
    rw [markTags_cons]
    split
    · rename_i hc
      rw [beq_iff_eq.mp hc]
      rfl
    · split
      · rename_i htag
        have hc : c = '[' := by simpa using (Bool.and_eq_true_iff.mp htag).1
        subst hc
        rfl
      · rw [isTag_cons, isTag_cons, closes_markTags]

/-- By induction on the text: in front of each tag there are as many backslashes as there were, and
one more than that, which is an odd number. -/
theorem tagsFrom_markTags (cs : List Char) (slashes : Nat) :
    tagsFrom slashes (markTags slashes cs) = [] := by
  induction cs generalizing slashes with
  | nil => rfl
  | cons c cs ih =>
    rw [markTags_cons]
    split
    · rename_i hc
      rw [beq_iff_eq.mp hc, tagsFrom_slash, ih]
    · rename_i hslash
      split
      · rename_i htag
        have hc : c = '[' := by simpa using (Bool.and_eq_true_iff.mp htag).1
        rw [tagsFrom_slashes, hc, tagsFrom_bracket (.inr (by omega)), ih]
      · rename_i htag
        by_cases hc : c = '['
        · subst hc
          have plain : isTag (markTags 0 cs) = false := by
            rw [isTag_markTags]
            simpa using htag
          rw [tagsFrom_bracket (.inl plain), ih]
        · rw [tagsFrom_plain (by simpa using hslash) hc, ih]

/-! ## Texts one behind the other -/

/-- A tag does not end in a text that closes none. -/
theorem closes_append {b : List Char} (hb : closes b = false) (a : List Char) :
    closes (a ++ b) = closes a := by
  induction a with
  | nil => exact hb
  | cons c a ih => rw [List.cons_append, closes_cons, closes_cons, ih]

theorem isTag_append {b : List Char} (hb : closes b = false) (a : List Char) :
    isTag (a ++ b) = isTag a := by
  cases a with
  | nil =>
    cases b with
    | nil => rfl
    | cons c b =>
      rw [closes_cons] at hb
      show (opensTag c && closes b) = false
      split at hb
      · cases hb
      · split at hb
        · rename_i hc
          rw [beq_iff_eq.mp hc]
          rfl
        · rw [hb, Bool.and_false]
  | cons c a => rw [List.cons_append, isTag_cons, isTag_cons, closes_append hb]

theorem tagText_append {a : List Char} (ha : closes a = true) (b : List Char) :
    (a ++ b).takeWhile (· != ']') = a.takeWhile (· != ']') := by
  induction a with
  | nil => cases ha
  | cons c a ih =>
    rw [closes_cons] at ha
    rw [List.cons_append, List.takeWhile_cons, List.takeWhile_cons]
    split at ha
    · rename_i hc
      rw [beq_iff_eq.mp hc]
      rfl
    · split at ha
      · cases ha
      · rw [ih ha]

/-- The tags of a text, and of one behind it that closes none and does not depend on how many
backslashes stand in front of it. -/
theorem tagsFrom_append {b : List Char} {ts : List (List Char)} (hb : closes b = false)
    (hts : ∀ n, tagsFrom n b = ts) (a : List Char) (slashes : Nat) :
    tagsFrom slashes (a ++ b) = tagsFrom slashes a ++ ts := by
  induction a generalizing slashes with
  | nil => exact hts slashes
  | cons c a ih =>
    rw [List.cons_append, tagsFrom_cons, tagsFrom_cons, isTag_append hb, ih, ih]
    split
    · rfl
    · split
      · rename_i htag
        have hclosed : closes a = true := by
          rw [Bool.and_eq_true, Bool.and_eq_true] at htag
          cases a with
          | nil => cases htag.1.2
          | cons d a =>
            obtain ⟨hd, ha⟩ := Bool.and_eq_true_iff.mp htag.1.2
            have hne : d ≠ '[' := by
              rintro rfl
              cases hd
            rw [closes_cons, ha]
            simp [hne]
        rw [tagText_append hclosed, List.cons_append]
      · rfl

/-- A last backslash is doubled in front of no tag. -/
theorem tagsFrom_closeSlash (cs : List Char) : tagsFrom 0 (closeSlash cs) = tagsFrom 0 cs := by
  have slash : ∀ n, tagsFrom n ['\\'] = [] := fun _ => rfl
  unfold closeSlash
  split
  · rfl
  · rw [tagsFrom_append rfl slash, List.append_nil]
  · rfl

/-- No tag of a text acts once the text is escaped. -/
theorem tags_escape (s : String) : tags (escape s) = [] := by
  unfold tags escape
  rw [String.toList_ofList, tagsFrom_closeSlash, tagsFrom_markTags]
  rfl

end Exemplar.Markup
