import Exemplar.Proofs.Docstring.Entries

/-
  The clean-up of the text of a type, step by step: what each of its steps makes of a text in front
  of another, without the fuel that bounds its rounds. The word `optional` is dropped at the end of
  a text only; a text whose commas all stand in brackets (`Sheltered`) loses nothing to it. But it
  loses what follows a comma in front of the letters of `default` (`SaysDefault`), wherever that
  comma stands. Where a text `Parts` from what is in front of it, each of both loses its own.
-/

namespace Exemplar.Docstring

open Exemplar.Text

variable {a b cs rest : List Char} {c : Char}

/-! ## Fuel -/

/-- Rounds that each take a character make the same of a text with any fuel that has a round for
every character. -/
theorem eq_of_fuel {f : Nat → List Char → List Char} (hnil : ∀ n, f n [] = [])
    (hcons : ∀ n m c r, (∀ t : List Char, t.length ≤ r.length → f n t = f m t) →
      f (n + 1) (c :: r) = f (m + 1) (c :: r)) (n : Nat) :
    ∀ m (cs : List Char), cs.length ≤ n → cs.length ≤ m → f n cs = f m cs := by
  induction n with
  | zero =>
    intro m cs hn _
    obtain rfl := List.length_eq_zero_iff.1 (Nat.le_zero.1 hn)
    rw [hnil, hnil]
  | succ n ih =>
    intro m cs hn hm
    cases cs with
    | nil => rw [hnil, hnil]
    | cons c r =>
      rw [List.length_cons] at hn hm
      obtain ⟨m, rfl⟩ : ∃ k, m = k + 1 := ⟨m - 1, by omega⟩
      exact hcons n m c r fun t ht => ih m t (by omega) (by omega)

/-! ## Roles -/

theorem takeRole?_eq_some {name : List Char} :
    takeRole? cs = some (name, rest) ↔
      ∃ w, cs = ':' :: (w ++ ':' :: '`' :: (name ++ '`' :: rest)) ∧ w ≠ [] ∧
        (∀ c ∈ w, isWordChar c = true) ∧ '`' ∉ name := by
  constructor
  · intro h
    simp only [takeRole?, Option.bind_eq_bind, Option.bind_eq_some_iff, after?_eq_some] at h
    obtain ⟨r, hcolon, h⟩ := h
    split at h
    case isTrue => exact absurd h nofun
    case isFalse hne =>
      simp only [Option.bind_eq_some_iff, after?_eq_some] at h
      obtain ⟨r', hopen, r'', hclose, heq⟩ := h
      obtain ⟨rfl, rfl⟩ := Prod.mk.inj (Option.some.inj heq)
      have hword : ∀ c ∈ r.takeWhile isWordChar, isWordChar c = true := fun c => mem_takeWhile
      have hname : '`' ∉ r'.takeWhile (· != '`') := fun h => by simpa using mem_takeWhile h
      have hr := takeWhile_append_drop isWordChar r
      have hr' := takeWhile_append_drop (· != '`') r'
      generalize r.takeWhile isWordChar = w at hne hopen hword hr
      generalize r'.takeWhile (· != '`') = name at hclose hname hr' ⊢
      refine ⟨w, ?_, by simpa using hne, hword, hname⟩
      rw [hcolon, ← hr, hopen, ← hr', hclose]
      rfl
  · rintro ⟨w, rfl, hne, hword, hname⟩
    have hw : (w ++ ':' :: '`' :: (name ++ '`' :: rest)).takeWhile isWordChar = w :=
      takeWhile_run hword (by rintro c ⟨⟩; decide)
    have hn : (name ++ '`' :: rest).takeWhile (· != '`') = name :=
      takeWhile_run (by rintro c hc; simpa using by rintro rfl; exact hname hc)
        (by rintro c ⟨⟩; rfl)
    simp only [takeRole?, Option.bind_eq_bind, Option.bind_eq_some_iff, after?_eq_some]
    refine ⟨w ++ ':' :: '`' :: (name ++ '`' :: rest), rfl, ?_⟩
    rw [hw, if_neg (by simpa using hne), List.drop_left]
    simp only [Option.bind_eq_some_iff, after?_eq_some]
    refine ⟨name ++ '`' :: rest, rfl, rest, ?_, ?_⟩
    · rw [hn, List.drop_left]
      rfl
    · rw [hn]

theorem takeRole?_length {name : List Char} (h : takeRole? cs = some (name, rest)) :
    rest.length < cs.length := by
  obtain ⟨w, rfl, -⟩ := takeRole?_eq_some.1 h
  simp only [List.length_cons, List.length_append]
  omega

/-- There is fuel for every character. -/
theorem dropRolesUpTo_eq (n : Nat) (cs : List Char) (hn : cs.length ≤ n) :
    dropRolesUpTo n cs = dropRoles cs := by
  refine eq_of_fuel (fun n => by cases n <;> rfl) (fun n m c r ih => ?_) n _ cs hn (Nat.le_refl _)
  rw [dropRolesUpTo, dropRolesUpTo]
  cases h : takeRole? (c :: r) with
  | none => exact congrArg (c :: ·) (ih r (Nat.le_refl _))
  | some x => exact congrArg (x.1 ++ ·) (ih x.2 (Nat.le_of_lt_succ (takeRole?_length h)))

theorem dropRoles_of_role {name : List Char} (h : takeRole? cs = some (name, rest)) :
    dropRoles cs = name ++ dropRoles rest := by
  have hlen := takeRole?_length h
  cases cs with
  | nil => simp at hlen
  | cons c r =>
    simp only [List.length_cons] at hlen
    rw [dropRoles, List.length_cons, dropRolesUpTo, h]
    dsimp only
    rw [dropRolesUpTo_eq _ _ (by omega)]

theorem dropRoles_cons (h : takeRole? (c :: b) = none) : dropRoles (c :: b) = c :: dropRoles b := by
  rw [dropRoles, List.length_cons, dropRolesUpTo, h]
  rfl

theorem dropRoles_append (h : ':' ∉ a) : dropRoles (a ++ b) = a ++ dropRoles b := by
  induction a with
  | nil => rfl
  | cons c a ih =>
    rw [List.mem_cons, not_or] at h
    rw [List.cons_append, dropRoles_cons, ih h.2, List.cons_append]
    refine Option.eq_none_iff_forall_ne_some.2 fun ⟨name, rest⟩ hr => ?_
    obtain ⟨w, heq, -⟩ := takeRole?_eq_some.1 hr
    exact h.1 (List.cons.inj heq).1.symm

/-- Nothing comes into a text when roles are dropped. -/
theorem dropRoles_subset : ∀ cs : List Char, dropRoles cs ⊆ cs
  | [] => fun _ => id
  | c :: r => by
    cases h : takeRole? (c :: r) with
    | none =>
      rw [dropRoles_cons h]
      exact List.cons_subset_cons c (dropRoles_subset r)
    | some x =>
      obtain ⟨name, rest⟩ := x
      have hlen := takeRole?_length h
      have hrest := dropRoles_subset rest
      obtain ⟨w, heq, -⟩ := takeRole?_eq_some.1 h
      rw [dropRoles_of_role h, heq]
      intro d hd
      rcases List.mem_append.1 hd with hd | hd
      · simp [hd]
      · simp [hrest hd]
termination_by cs => cs.length
decreasing_by
  · exact Nat.lt_succ_self _
  · exact hlen

/-! ## Backticks -/

/-- A text without roles and backticks. -/
def unmark (cs : List Char) : List Char := (dropRoles cs).filter (· != '`')

theorem cleanType_eq (cs : List Char) : cleanType cs =
    trim (barsForOr (dropNote defaultNote (dropNote optionalNote (trim (unmark cs))))) := rfl

theorem unmark_append (h : ∀ c ∈ a, c ≠ ':' ∧ c ≠ '`') (b : List Char) :
    unmark (a ++ b) = a ++ unmark b := by
  unfold unmark
  rw [dropRoles_append fun hc => (h _ hc).1 rfl, List.filter_append, List.filter_eq_self.2]
  exact fun c hc => by simpa using (h c hc).2

theorem unmark_eq_self (h : ∀ c ∈ a, c ≠ ':' ∧ c ≠ '`') : unmark a = a := by
  have := unmark_append h []
  rwa [List.append_nil, show unmark [] = [] from rfl, List.append_nil] at this

theorem unmark_subset (cs : List Char) : unmark cs ⊆ cs := fun _ hc =>
  dropRoles_subset cs (List.mem_filter.1 hc).1

/-! ## Words in any case -/

theorem afterFolded?_eq_some {w : String} :
    afterFolded? w cs = some rest ↔ ∃ t, cs = t ++ rest ∧ t.map foldCase = w.toList := by
  unfold afterFolded?
  constructor
  · intro h
    split at h
    case isTrue heq =>
      obtain rfl := Option.some.inj h
      exact ⟨cs.take w.length, (List.take_append_drop _ _).symm, by simpa using heq⟩
    case isFalse => cases h
  · rintro ⟨t, rfl, ht⟩
    have hlen : w.length = t.length := by
      rw [← String.length_toList, ← ht, List.length_map]
    simp [hlen, ht]

theorem mem_of_afterFolded? {w : String} (h : afterFolded? w cs = some rest) (hc : c ∈ cs)
    (hw : foldCase c ∉ w.toList) : c ∈ rest := by
  obtain ⟨t, rfl, ht⟩ := afterFolded?_eq_some.1 h
  rcases List.mem_append.1 hc with hc | hc
  · exact absurd (ht ▸ List.mem_map_of_mem hc) hw
  · exact hc

/-! ## Notes -/

theorem dropNote_append {isNote : List Char → Option (List Char)}
    (h : ∀ x y, a = x ++ ',' :: y → isNote (trimLeft (y ++ b)) = none) :
    dropNote isNote (a ++ b) = a ++ dropNote isNote b := by
  induction a with
  | nil => rfl
  | cons c a ih =>
    have hrest := ih fun x y heq => h (c :: x) y (by rw [heq]; rfl)
    rw [List.cons_append, dropNote, hrest]
    split
    case isTrue hcomma =>
      obtain rfl := eq_of_beq hcomma
      rw [h [] a rfl]
      rfl
    case isFalse => rfl

theorem dropNote_eq_self {isNote : List Char → Option (List Char)}
    (h : ∀ x y, a = x ++ ',' :: y → isNote (trimLeft y) = none) : dropNote isNote a = a := by
  have happend : dropNote isNote (a ++ []) = a ++ dropNote isNote [] :=
    dropNote_append fun x y heq => by
      rw [List.append_nil]
      exact h x y heq
  rwa [List.append_nil, show dropNote isNote [] = [] from rfl, List.append_nil] at happend

/-- A text behind which no note goes on that begins in front of it. -/
structure Parts (w : String) (cs : List Char) : Prop where
  head : ∀ c ∈ cs.head?, foldCase c ∉ w.toList
  start : afterFolded? w (trimLeft cs) = none

theorem Parts.of_head {w : String} (hblank : isBlank c = false) (hc : foldCase c ∉ w.toList)
    (hw : w.toList ≠ []) (cs : List Char) : Parts w (c :: cs) := by
  refine ⟨by rintro d ⟨⟩; exact hc, Option.eq_none_iff_forall_ne_some.2 fun rest h => ?_⟩
  rw [trimLeft_of_head? (by rintro d ⟨⟩; exact hblank)] at h
  obtain ⟨t, heq, ht⟩ := afterFolded?_eq_some.1 h
  cases t with
  | nil => exact hw ht.symm
  | cons d t =>
    obtain ⟨rfl, -⟩ := List.cons.inj heq
    exact hc (ht ▸ .head _)

/-- Whether a word stands in front is decided by what stands in front of such a text. -/
theorem Parts.afterFolded?_append {w : String} (hb : Parts w b) (a : List Char) :
    afterFolded? w (trimLeft (a ++ b)) = (afterFolded? w (trimLeft a)).map (· ++ b) := by
  by_cases hall : ∀ c ∈ a, isBlank c = true
  · have hab : trimLeft (a ++ b) = trimLeft b := List.dropWhile_append_of_pos hall
    have ha : trimLeft a = [] := by
      simpa [trimLeft] using dropWhile_run (b := []) hall (by simp)
    have hnil : afterFolded? w [] = none := Option.eq_none_iff_forall_ne_some.2 fun rest h => by
      obtain ⟨t, heq, ht⟩ := afterFolded?_eq_some.1 h
      obtain ⟨rfl, rfl⟩ := List.append_eq_nil_iff.1 heq.symm
      have hempty : afterFolded? w (trimLeft b) = some (trimLeft b) :=
        afterFolded?_eq_some.2 ⟨[], rfl, ht⟩
      rw [hb.start] at hempty
      cases hempty
    rw [hab, ha, hnil, hb.start]
    rfl
  · obtain ⟨d, hd, hblank⟩ : ∃ d ∈ a, isBlank d = false := by simpa using hall
    rw [trimLeft_append hd hblank]
    ext s
    simp only [Option.map_eq_some_iff, afterFolded?_eq_some]
    constructor
    · rintro ⟨t, heq, ht⟩
      obtain ⟨k, hk, hb'⟩ | ⟨k, hk, hs⟩ := List.append_eq_append_iff.1 heq
      · cases k with
        | nil => exact ⟨[], ⟨t, by simpa using hk.symm, ht⟩, hb'⟩
        | cons c k =>
          have hc : foldCase c ∈ w.toList := ht ▸ List.mem_map_of_mem (by simp [hk])
          exact absurd hc (hb.head c (by simp [hb']))
      · exact ⟨k, ⟨t, hk, ht⟩, hs.symm⟩
    · rintro ⟨r, ⟨t, heq, ht⟩, rfl⟩
      exact ⟨t, by rw [heq, List.append_assoc], ht⟩

/-! ### The word optional -/

/-- The word `optional` with nothing but blanks behind it follows no comma. -/
def NoteFree (cs : List Char) : Prop :=
  ∀ x y, cs = x ++ ',' :: y → optionalNote (trimLeft y) = none

theorem dropNote_optional_of_noteFree (h : NoteFree a) : dropNote optionalNote a = a :=
  dropNote_eq_self h

/-- In front of more text the word is no note. -/
theorem optionalNote_append (hb : Parts "optional" b) (hc : c ∈ b) (hblank : isBlank c = false)
    (a : List Char) : optionalNote (trimLeft (a ++ b)) = none := by
  unfold optionalNote
  rw [hb.afterFolded?_append]
  cases afterFolded? "optional" (trimLeft a) with
  | none => rfl
  | some rest =>
    have hall : ¬ (rest ++ b).all isBlank = true := fun hall => by
      simp [List.all_eq_true.1 hall c (List.mem_append_right rest hc)] at hblank
    exact if_neg hall

theorem dropNote_optional_append (hb : Parts "optional" b) (hc : c ∈ b)
    (hblank : isBlank c = false) (a : List Char) :
    dropNote optionalNote (a ++ b) = a ++ dropNote optionalNote b :=
  dropNote_append fun _ y _ => optionalNote_append hb hc hblank y

/-- Every comma has a closing bracket somewhere behind it. -/
def Sheltered (cs : List Char) : Prop := ∀ a b, cs = a ++ ',' :: b → ')' ∈ b ∨ ']' ∈ b

theorem Sheltered.of_cons (h : Sheltered (c :: cs)) : Sheltered cs :=
  fun a b heq => h (c :: a) b (by rw [heq]; rfl)

theorem sheltered_of_not_mem (h : ',' ∉ cs) : Sheltered cs := by
  rintro a b rfl
  simp at h

theorem Sheltered.append (ha : Sheltered a) (hb : Sheltered b) : Sheltered (a ++ b) := by
  intro x y heq
  obtain ⟨k, hk, rfl⟩ | ⟨k, -, hk⟩ := append_eq_append_cons heq
  · exact (ha x k hk).imp (List.mem_append_left b) (List.mem_append_left b)
  · exact hb k y hk

theorem Sheltered.noteFree (h : Sheltered a) : NoteFree a := by
  intro x y heq
  obtain ⟨c, hc, hblank, hoptional⟩ : ∃ c ∈ y, isBlank c = false ∧
      foldCase c ∉ "optional".toList := by
    rcases h x y heq with hc | hc
    · exact ⟨')', hc, by decide, by decide⟩
    · exact ⟨']', hc, by decide, by decide⟩
  unfold optionalNote
  cases hf : afterFolded? "optional" (trimLeft y) with
  | none => rfl
  | some rest =>
    have hmem := mem_of_afterFolded? hf (mem_trimLeft_of_mem hc hblank) hoptional
    exact if_neg fun hall => by simp [List.all_eq_true.1 hall c hmem] at hblank

/-! ### The word default -/

/-- Some comma stands in front of the letters of the word `default` in any case, with nothing but
blanks between; the word may go on. -/
def SaysDefault (cs : List Char) : Prop :=
  ∃ a b, cs = a ++ ',' :: b ∧ (afterFolded? "default" (trimLeft b)).isSome = true

theorem saysDefault_cons : SaysDefault (c :: cs) ↔
    c = ',' ∧ (afterFolded? "default" (trimLeft cs)).isSome = true ∨ SaysDefault cs := by
  constructor
  · rintro ⟨a, b, heq, h⟩
    cases a with
    | nil =>
      obtain ⟨rfl, rfl⟩ := List.cons.inj heq
      exact .inl ⟨rfl, h⟩
    | cons d a =>
      obtain ⟨rfl, rfl⟩ := List.cons.inj heq
      exact .inr ⟨a, b, rfl, h⟩
  · rintro (⟨rfl, h⟩ | ⟨a, b, rfl, h⟩)
    · exact ⟨[], cs, rfl, h⟩
    · exact ⟨c :: a, b, rfl, h⟩

instance SaysDefault.decide : DecidablePred SaysDefault
  | [] => isFalse fun ⟨a, b, heq, _⟩ => by cases a <;> cases heq
  | _ :: cs =>
    have := SaysDefault.decide cs
    decidable_of_iff _ saysDefault_cons.symm

theorem defaultNote_of_none (h : afterFolded? "default" cs = none) : defaultNote cs = none := by
  simp [defaultNote, h]

/-- On one line the note goes up to the end. -/
theorem defaultNote_of_isSome (hline : '\n' ∉ cs)
    (h : (afterFolded? "default" cs).isSome = true) : defaultNote cs = some [] := by
  obtain ⟨rest, hrest⟩ := Option.isSome_iff_exists.1 h
  obtain ⟨t, rfl, -⟩ := afterFolded?_eq_some.1 hrest
  have hrest' : '\n' ∉ rest := fun hmem => hline (List.mem_append_right t hmem)
  have hnone {r : List Char} (hr : r ⊆ rest) : r.dropWhile (· != '\n') = [] := by
    have h := dropWhile_run (a := r) (b := []) (p := (· != '\n')) (fun c hc => by
      simpa using by rintro rfl; exact hrest' (hr hc)) nofun
    rwa [List.append_nil] at h
  simp only [defaultNote, hrest, Option.bind_eq_bind, Option.bind_some]
  cases rest with
  | nil => rfl
  | cons c r =>
    have hr : trimLeft r ⊆ c :: r := fun d hd => .tail _ (List.dropWhile_sublist _ |>.subset hd)
    have hcr : trimLeft (c :: r) ⊆ c :: r := (List.dropWhile_sublist _).subset
    dsimp only
    split <;> simp [hnone hr, hnone hcr]

theorem dropNote_default_of_not (h : ¬ SaysDefault a) : dropNote defaultNote a = a :=
  dropNote_eq_self fun x y heq => defaultNote_of_none (by
    simpa using fun hsome => h ⟨x, y, heq, hsome⟩)

theorem dropNote_default_cons (hline : '\n' ∉ cs) : dropNote defaultNote (c :: cs) =
    if c = ',' ∧ (afterFolded? "default" (trimLeft cs)).isSome = true then []
    else c :: dropNote defaultNote cs := by
  have htrim : '\n' ∉ trimLeft cs := fun hmem => hline ((List.dropWhile_sublist _).subset hmem)
  rw [dropNote]
  by_cases hc : c = ','
  · cases hf : afterFolded? "default" (trimLeft cs) with
    | none => simp [hc, defaultNote_of_none hf]
    | some rest => simp [hc, defaultNote_of_isSome htrim (by simp [hf])]
  · simp [hc]

/-- Once the word is found, all behind its comma is gone. -/
theorem dropNote_default_of_says (hline : '\n' ∉ cs) (h : SaysDefault cs) :
    ∃ x y, cs = x ++ ',' :: y ∧ dropNote defaultNote cs = x := by
  induction cs with
  | nil =>
    obtain ⟨a, b, heq, -⟩ := h
    simp at heq
  | cons c cs ih =>
    rw [List.mem_cons, not_or] at hline
    rw [dropNote_default_cons hline.2]
    split
    case isTrue hhere => exact ⟨[], cs, by rw [hhere.1]; rfl, rfl⟩
    case isFalse hhere =>
      obtain ⟨x, y, heq, hx⟩ := ih hline.2 ((saysDefault_cons.1 h).resolve_left hhere)
      exact ⟨c :: x, y, by rw [heq]; rfl, by rw [hx]⟩

theorem dropNote_default_append (hb : Parts "default" b) (hline : '\n' ∉ a ++ b) :
    dropNote defaultNote (a ++ b) =
      if SaysDefault a then dropNote defaultNote a else a ++ dropNote defaultNote b := by
  induction a with
  | nil => rfl
  | cons c a ih =>
    rw [List.cons_append, List.mem_cons, not_or] at hline
    have hline' : '\n' ∉ a := fun hmem => hline.2 (List.mem_append_left b hmem)
    rw [List.cons_append, dropNote_default_cons hline.2, dropNote_default_cons hline', ih hline.2,
      hb.afterFolded?_append, Option.isSome_map]
    by_cases hhere : c = ',' ∧ (afterFolded? "default" (trimLeft a)).isSome = true
    · simp [saysDefault_cons, hhere]
    · simp only [saysDefault_cons, hhere, false_or, if_false]
      split <;> rfl

/-- What the notes on defaults leave is a front of the text. -/
theorem dropNote_default_isPrefix (hline : '\n' ∉ cs) : dropNote defaultNote cs <+: cs := by
  by_cases h : SaysDefault cs
  · obtain ⟨x, y, rfl, hx⟩ := dropNote_default_of_says hline h
    exact ⟨',' :: y, by rw [hx]⟩
  · exact (dropNote_default_of_not h).symm ▸ List.prefix_rfl

/-! ## The word or -/

/-- What stands behind the word `or` and blanks, if the text is so far blanks and the word. -/
def orBehind? (cs : List Char) : Option (List Char) :=
  match after? "or" (trimLeft cs) with
  | some rest => if rest.head?.any isBlank then some (trimLeft rest) else none
  | none => none

theorem orBehind?_eq_some : orBehind? cs = some rest ↔
    ∃ gap d r, cs = gap ++ 'o' :: 'r' :: d :: r ∧ (∀ c ∈ gap, isBlank c = true) ∧
      isBlank d = true ∧ rest = trimLeft r := by
  constructor
  · intro h
    obtain ⟨gap, hgap, hcs⟩ := exists_blanks_trimLeft cs
    unfold orBehind? at h
    split at h
    case h_1 r hr =>
      rw [after?_eq_some] at hr
      split at h
      case isTrue hd =>
        obtain ⟨d, hd, hblank⟩ := Option.any_eq_true .. |>.1 hd
        obtain ⟨r, rfl⟩ := List.head?_eq_some_iff.1 hd
        refine ⟨gap, d, r, by rw [hcs, hr]; rfl, hgap, hblank, ?_⟩
        rw [← Option.some.inj h, trimLeft, List.dropWhile_cons_of_pos hblank]
        rfl
      case isFalse => cases h
    case h_2 => cases h
  · rintro ⟨gap, d, r, rfl, hgap, hblank, rfl⟩
    have htrim : trimLeft (gap ++ 'o' :: 'r' :: d :: r) = "or".toList ++ d :: r :=
      dropWhile_run hgap (by rintro c ⟨⟩; decide)
    have hr : trimLeft (d :: r) = trimLeft r := List.dropWhile_cons_of_pos hblank
    rw [orBehind?, after?_eq_some.2 htrim]
    simp [hblank, hr]

theorem orBehind?_length (h : orBehind? cs = some rest) : rest.length < cs.length := by
  obtain ⟨gap, d, r, rfl, -, -, rfl⟩ := orBehind?_eq_some.1 h
  have : (trimLeft r).length ≤ r.length := (List.dropWhile_sublist _).length_le
  simp only [List.length_append, List.length_cons]
  omega

theorem barsForOrUpTo_cons (n : Nat) : barsForOrUpTo (n + 1) (c :: b) =
    if isBlank c then
      match orBehind? b with
      | some rest => ' ' :: '|' :: ' ' :: barsForOrUpTo n rest
      | none => c :: barsForOrUpTo n b
    else c :: barsForOrUpTo n b := by
  rw [barsForOrUpTo, orBehind?]
  cases after? "or" (trimLeft b) with
  | none => rfl
  | some rest => dsimp only; cases rest.head?.any isBlank <;> rfl

/-- There is fuel for every character. -/
theorem barsForOrUpTo_eq (n : Nat) (cs : List Char) (hn : cs.length ≤ n) :
    barsForOrUpTo n cs = barsForOr cs := by
  refine eq_of_fuel (fun n => by cases n <;> rfl) (fun n m c r ih => ?_) n _ cs hn (Nat.le_refl _)
  rw [barsForOrUpTo_cons, barsForOrUpTo_cons, ih r (Nat.le_refl _)]
  cases h : orBehind? r with
  | none => rfl
  | some rest =>
    dsimp only
    rw [ih rest (Nat.le_of_lt (orBehind?_length h))]

@[simp] theorem barsForOr_nil : barsForOr [] = [] := rfl

theorem barsForOr_cons : barsForOr (c :: b) =
    if isBlank c then
      match orBehind? b with
      | some rest => ' ' :: '|' :: ' ' :: barsForOr rest
      | none => c :: barsForOr b
    else c :: barsForOr b := by
  rw [barsForOr, List.length_cons, barsForOrUpTo_cons]
  cases h : orBehind? b with
  | none => rfl
  | some rest =>
    dsimp only
    rw [barsForOrUpTo_eq _ rest (Nat.le_of_lt (orBehind?_length h))]
    rfl

theorem barsForOr_append
    (h : ∀ x c y, a = x ++ c :: y → isBlank c = true → orBehind? (y ++ b) = none) :
    barsForOr (a ++ b) = a ++ barsForOr b := by
  induction a with
  | nil => rfl
  | cons c a ih =>
    have hrest := ih fun x d y heq => h (c :: x) d y (by rw [heq]; rfl)
    rw [List.cons_append, barsForOr_cons, hrest]
    split
    case isTrue hc =>
      rw [h [] c a rfl hc]
      rfl
    case isFalse => rfl

/-- The word `or` stands in the text between blanks or at its ends. -/
def SaysOr (cs : List Char) : Prop :=
  ∃ x y, cs = x ++ 'o' :: 'r' :: y ∧ (∀ c ∈ x.getLast?, isBlank c = true) ∧
    ∀ c ∈ y.head?, isBlank c = true

theorem orBehind?_eq_none_of_isPrefix (hpre : a <+: b) (h : orBehind? b = none) :
    orBehind? a = none := by
  obtain ⟨t, rfl⟩ := hpre
  refine Option.eq_none_iff_forall_ne_some.2 fun rest hrest => ?_
  obtain ⟨gap, d, r, rfl, hgap, hd, -⟩ := orBehind?_eq_some.1 hrest
  have : orBehind? (gap ++ 'o' :: 'r' :: d :: r ++ t) = some (trimLeft (r ++ t)) :=
    orBehind?_eq_some.2 ⟨gap, d, r ++ t, by simp, hgap, hd, rfl⟩
  exact absurd (this.symm.trans h) nofun

/-- Behind a blank of a type without the word `or` it does not stand either when the type ends or a
blank follows it. -/
theorem orBehind?_eq_none_of_not {x y : List Char} (h : ¬ SaysOr (x ++ y))
    (hx : ∀ c ∈ x.getLast?, isBlank c = true) (hne : y ≠ [])
    (hy : ∀ c ∈ y.getLast?, isBlank c = false) (hb : ∀ c ∈ b.head?, c = ' ') :
    orBehind? (y ++ b) = none := by
  refine Option.eq_none_iff_forall_ne_some.2 fun rest hrest => ?_
  obtain ⟨gap, d, r, heq, hgap, hd, -⟩ := orBehind?_eq_some.1 hrest
  obtain ⟨k, rfl, -⟩ | ⟨k, rfl, hk⟩ := List.append_eq_append_iff.1 heq
  · -- The whole of the text would be blank.
    have hlast := List.getLast?_eq_some_getLast hne
    have := hgap _ (List.mem_append_left k (List.getLast_mem hne))
    rw [hy _ hlast] at this
    cases this
  · match k with
    | [] =>
      obtain rfl : 'o' :: 'r' :: d :: r = b := hk
      exact absurd (hb 'o' rfl) (by decide)
    | [c] =>
      obtain ⟨-, rfl⟩ := List.cons.inj hk
      exact absurd (hb 'r' rfl) (by decide)
    | c :: e :: k =>
      rw [List.cons_append, List.cons_append, List.cons.injEq, List.cons.injEq] at hk
      obtain ⟨rfl, rfl, hk⟩ := hk
      refine h ⟨x ++ gap, k, by simp, fun c hc => ?_, fun c hc => ?_⟩
      · rw [List.getLast?_append] at hc
        rcases Option.or_eq_some_iff.1 hc with hc | ⟨-, hc⟩
        · exact hgap c (List.mem_of_getLast? hc)
        · exact hx c hc
      · obtain ⟨t, rfl⟩ := List.head?_eq_some_iff.1 hc
        obtain ⟨rfl, -⟩ := List.cons.inj hk
        exact hd

/-- A text without the word stays as it is, at its end and in front of a blank. -/
theorem barsForOr_append_of_not (h : ¬ SaysOr a) (hlast : ∀ c ∈ a.getLast?, isBlank c = false)
    (hb : ∀ c ∈ b.head?, c = ' ') : barsForOr (a ++ b) = a ++ barsForOr b := by
  refine barsForOr_append fun x c y heq hc => ?_
  have heq' : a = (x ++ [c]) ++ y := by simpa using heq
  have hy : y ≠ [] := by
    rintro rfl
    rw [hlast c (by rw [heq']; simp)] at hc
    cases hc
  refine orBehind?_eq_none_of_not (x := x ++ [c]) (heq' ▸ h) (by simpa using hc) hy
    (fun e he => hlast e ?_) hb
  rw [heq', List.getLast?_append, Option.mem_def.1 he]
  rfl

theorem barsForOr_eq_self (h : ¬ SaysOr a) (hlast : ∀ c ∈ a.getLast?, isBlank c = false) :
    barsForOr a = a := by
  have := barsForOr_append_of_not (b := []) h hlast nofun
  rwa [List.append_nil, barsForOr_nil, List.append_nil] at this

end Exemplar.Docstring
