import Exemplar.Docstring
import Exemplar.Proofs.Text

/-
  Entries of a documentation text: what a line must look like to be one, said without a scan
  (`sectionItem?_eq_some`, `headedItem?_eq_some`), and which of them a convention keeps. Where the
  entries are those of the lines that lie in a place of interest, in their order (`entriesWhere`),
  a name is given the type of the first such line that names it (`lookup_entriesWhere`).
-/

namespace Exemplar.Docstring

open Exemplar.Text

/-! ## Lines that are entries -/

theorem after?_eq_some {start : String} {cs rest : List Char} :
    after? start cs = some rest ↔ cs = start.toList ++ rest := by
  unfold after?
  split
  case isTrue h =>
    obtain ⟨r, rfl⟩ := List.isPrefixOf_iff_prefix.1 h
    rw [← String.length_toList, List.drop_left, Option.some.injEq, List.append_cancel_left_eq]
  case isFalse h =>
    refine ⟨nofun, ?_⟩
    rintro rfl
    exact absurd (List.isPrefixOf_iff_prefix.2 (List.prefix_append _ _)) h

/-- What goes on with a word begins with a character of the word. -/
theorem isWordChar_head {name rest : List Char} (hne : name ≠ [])
    (hword : ∀ c ∈ name, isWordChar c = true) :
    ∀ c ∈ (name ++ rest).head?, isWordChar c = true := by
  obtain ⟨c, cs, rfl⟩ := List.exists_cons_of_ne_nil hne
  rintro d ⟨⟩
  exact hword c (.head _)

/-- A name is the longest run of word characters behind two stars at most. -/
theorem takeName?_eq_some {cs rest : List Char} {name : String} :
    takeName? cs = some (name, rest) ↔ ∃ stars, cs = stars ++ (name.toList ++ rest) ∧
      (∀ c ∈ stars, c = '*') ∧ stars.length ≤ 2 ∧ name.toList ≠ [] ∧
      (∀ c ∈ name.toList, isWordChar c = true) ∧ ∀ c ∈ rest.head?, isWordChar c = false := by
  constructor
  · intro h
    unfold takeName? at h
    dsimp only at h
    have hcs := takeWhile_append_drop (· == '*') cs
    generalize cs.drop (cs.takeWhile (· == '*')).length = cs' at h hcs
    split at h
    case isTrue => exact absurd h nofun
    case isFalse hok =>
      simp only [Bool.or_eq_true, decide_eq_true_eq, List.isEmpty_iff, not_or, Nat.not_lt] at hok
      obtain ⟨rfl, rfl⟩ := Prod.mk.inj (Option.some.inj h)
      refine ⟨cs.takeWhile (· == '*'), ?_, fun c hc => by simpa using mem_takeWhile hc, hok.1, ?_,
        ?_, head?_drop_takeWhile _ _⟩
      · rw [String.toList_ofList, takeWhile_append_drop, hcs]
      · simpa using hok.2
      · simpa using fun c => mem_takeWhile (p := isWordChar)
  · rintro ⟨stars, rfl, hstars, htwo, hne, hword, hrest⟩
    have hlead : ∀ c ∈ (name.toList ++ rest).head?, (c == '*') = false := by
      intro c hc
      have := isWordChar_head hne hword c hc
      exact beq_false_of_ne (by rintro rfl; exact absurd this (by decide))
    have htake := takeWhile_run (p := (· == '*')) (a := stars) (by simpa using hstars) hlead
    simp only [takeName?, htake, List.drop_left, takeWhile_run hword hrest]
    rw [if_neg (by simpa using ⟨htwo, by simpa using hne⟩), String.ofList_toList]

/-- A line opens with a name if nothing but blanks and two stars at most stand in front of it;
blanks may follow it before the rest of the line. -/
def Opens (line : List Char) (name : String) (rest : List Char) : Prop :=
  ∃ front stars gap, line = front ++ (stars ++ (name.toList ++ (gap ++ rest))) ∧
    (∀ c ∈ front, isBlank c = true) ∧ (∀ c ∈ stars, c = '*') ∧ stars.length ≤ 2 ∧
    name.toList ≠ [] ∧ (∀ c ∈ name.toList, isWordChar c = true) ∧ ∀ c ∈ gap, isBlank c = true

/-- What follows a name may start neither as the name goes on nor as the blanks behind it do. -/
theorem opens_iff {line rest : List Char} {name : String}
    (hrest : ∀ c ∈ rest.head?, isWordChar c = false ∧ isBlank c = false) :
    Opens line name rest ↔ ∃ r, takeName? (trimLeft line) = some (name, r) ∧ trimLeft r = rest := by
  constructor
  · rintro ⟨front, stars, gap, rfl, hfront, hstars, htwo, hne, hword, hgap⟩
    have hstop : ∀ c ∈ (gap ++ rest).head?, isWordChar c = false := by
      cases gap with
      | nil => exact fun c hc => (hrest c hc).1
      | cons c cs =>
        rintro c ⟨⟩
        exact not_isWordChar_of_isBlank (hgap c (.head _))
    have hlead : ∀ c ∈ (stars ++ (name.toList ++ (gap ++ rest))).head?, isBlank c = false := by
      cases stars with
      | nil =>
        intro c hc
        have := isWordChar_head hne hword c hc
        exact Bool.eq_false_iff.2 fun h => by simp [not_isWordChar_of_isBlank h] at this
      | cons c cs =>
        obtain rfl := hstars c (.head _)
        rintro c ⟨⟩
        rfl
    refine ⟨gap ++ rest, ?_, dropWhile_run hgap fun c hc => (hrest c hc).2⟩
    rw [trimLeft, dropWhile_run hfront hlead, takeName?_eq_some]
    exact ⟨stars, rfl, hstars, htwo, hne, hword, hstop⟩
  · rintro ⟨r, hname, rfl⟩
    obtain ⟨stars, hcs, hstars, htwo, hne, hword, -⟩ := takeName?_eq_some.1 hname
    obtain ⟨front, hfront, hline⟩ := exists_blanks_trimLeft line
    obtain ⟨gap, hgap, hr⟩ := exists_blanks_trimLeft r
    exact ⟨front, stars, gap, by rw [← hr, ← hcs, ← hline], hfront, hstars, htwo, hne, hword, hgap⟩

/-- An entry of a section: a name and, in parentheses, its type, which closes with the first
closing one; a colon follows. -/
def IsSectionItem (line : List Char) (name type : String) : Prop :=
  ∃ gap rest, Opens line name ('(' :: (type.toList ++ ')' :: (gap ++ ':' :: rest))) ∧
    ')' ∉ type.toList ∧ ∀ c ∈ gap, isBlank c = true

theorem sectionItem?_eq_some {line : List Char} {name type : String} :
    sectionItem? line = some (name, type) ↔ IsSectionItem line name type := by
  constructor
  · intro h
    simp only [sectionItem?, Option.bind_eq_bind, Option.bind_eq_some_iff, Prod.exists,
      after?_eq_some] at h
    obtain ⟨n, r, hname, r', hopen, r'', hclose, rest, hcolon, heq⟩ := h
    obtain ⟨rfl, rfl⟩ := Prod.mk.inj (Option.some.inj heq)
    obtain ⟨gap, hgap, hr''⟩ := exists_blanks_trimLeft r''
    have hr' := takeWhile_append_drop (· != ')') r'
    refine ⟨gap, rest, (opens_iff (by rintro c ⟨⟩; decide)).2 ⟨r, hname, ?_⟩, ?_, hgap⟩
    · generalize r'.takeWhile (· != ')') = type at hclose hr' ⊢
      rw [String.toList_ofList, hopen, ← hr', hclose, hr'', hcolon]
      rfl
    · simpa using fun h => by simpa using mem_takeWhile h
  · rintro ⟨gap, rest, hopens, htype, hgap⟩
    obtain ⟨r, hname, hr⟩ := (opens_iff (by rintro c ⟨⟩; decide)).1 hopens
    have htake := takeWhile_run (p := (· != ')')) (a := type.toList)
      (b := ')' :: (gap ++ ':' :: rest)) (by rintro c hc; simpa using by rintro rfl; exact htype hc)
      (by rintro c ⟨⟩; rfl)
    have hcolon : trimLeft (gap ++ ':' :: rest) = ':' :: rest :=
      dropWhile_run hgap (by rintro c ⟨⟩; rfl)
    simp only [sectionItem?, Option.bind_eq_bind, Option.bind_eq_some_iff, Prod.exists,
      after?_eq_some]
    refine ⟨name, r, hname, type.toList ++ ')' :: (gap ++ ':' :: rest), hr, gap ++ ':' :: rest, ?_,
      rest, hcolon, ?_⟩
    · rw [htake, List.drop_left]
      rfl
    · rw [htake, String.ofList_toList]

/-- What stands behind the colon of an entry as its type: all but the blanks around it. Where there
are only blanks, the last of them is the type, as a type is never empty. -/
def IsTypeBehind (rest : List Char) (type : String) : Prop :=
  trim rest ≠ [] ∧ type.toList = trim rest ∨
    trim rest = [] ∧ ∃ c ∈ rest.getLast?, type.toList = [c]

/-- An entry below a heading: a name, a colon and a type. -/
def IsHeadedItem (line : List Char) (name type : String) : Prop :=
  ∃ rest, Opens line name (':' :: rest) ∧ IsTypeBehind rest type

theorem afterColon?_eq_some {cs : List Char} {type : String} :
    afterColon? cs = some type ↔ ∃ rest, cs = ':' :: rest ∧ IsTypeBehind rest type := by
  rw [afterColon?, Option.bind_eq_bind, Option.bind_eq_some_iff]
  refine exists_congr fun rest => and_congr after?_eq_some ?_
  have hof (cs : List Char) : String.ofList cs = type ↔ type.toList = cs := by
    constructor
    · rintro rfl
      exact String.toList_ofList
    · rintro rfl
      exact String.ofList_toList
  unfold IsTypeBehind
  cases trim rest <;> cases rest.getLast? <;> simp [-String.ofList_cons, hof]

theorem headedItem?_eq_some {line : List Char} {name type : String} :
    headedItem? line = some (name, type) ↔ IsHeadedItem line name type := by
  simp only [headedItem?, typedName?, Option.bind_eq_bind, Option.bind_eq_some_iff, Prod.exists,
    afterColon?_eq_some]
  constructor
  · rintro ⟨n, r, hname, t, ⟨rest, hr, ht⟩, heq⟩
    obtain ⟨rfl, rfl⟩ := Prod.mk.inj (Option.some.inj heq)
    exact ⟨rest, (opens_iff (by rintro c ⟨⟩; decide)).2 ⟨r, hname, hr⟩, ht⟩
  · rintro ⟨rest, hopens, ht⟩
    obtain ⟨r, hname, hr⟩ := (opens_iff (by rintro c ⟨⟩; decide)).1 hopens
    exact ⟨name, r, hname, type, ⟨rest, hr, ht⟩, rfl⟩

/-! ## The first entry of each name -/

namespace Found

theorem lookup_note (found : Found) (entry : String × String) (n : String) :
    (found.note entry).lookup n = (found ++ [entry]).lookup n := by
  obtain ⟨m, t⟩ := entry
  unfold note
  split
  case isTrue h =>
    rw [List.lookup_append]
    by_cases hn : n = m
    · subst hn
      rw [Option.or_of_isSome h]
    · simp [List.lookup_cons, beq_false_of_ne hn]
  case isFalse => rfl

/-- What a name is given is what the first entry with it gives it. -/
theorem lookup_notes (entries : List (String × String)) (found : Found) (n : String) :
    (entries.foldl note found).lookup n = (found ++ entries).lookup n := by
  induction entries generalizing found with
  | nil => simp
  | cons e es ih => rw [List.foldl_cons, ih, List.lookup_append, lookup_note, ← List.lookup_append,
      List.append_assoc]; rfl

theorem nodup_note {found : Found} (h : (found.map Prod.fst).Nodup) (entry : String × String) :
    ((found.note entry).map Prod.fst).Nodup := by
  unfold note
  split
  case isTrue => exact h
  case isFalse hnone =>
    have hnew : ∀ t, (entry.1, t) ∉ found := by simpa [List.lookup_eq_none_iff] using hnone
    rw [List.map_append, List.nodup_append]
    refine ⟨h, by simp, ?_⟩
    rintro n hn m hm rfl
    obtain rfl := List.mem_singleton.1 hm
    obtain ⟨⟨_, t⟩, he, rfl⟩ := List.mem_map.1 hn
    exact hnew t he

theorem nodup_notes {found : Found} (h : (found.map Prod.fst).Nodup)
    (entries : List (String × String)) : ((entries.foldl note found).map Prod.fst).Nodup := by
  induction entries generalizing found with
  | nil => exact h
  | cons e es ih => exact ih (nodup_note h e)

theorem mem_iff_lookup {found : Found} (h : (found.map Prod.fst).Nodup) {n t : String} :
    (n, t) ∈ found ↔ found.lookup n = some t := by
  rw [List.lookup_eq_some_iff]
  constructor
  · intro hmem
    obtain ⟨a, b, rfl⟩ := List.append_of_mem hmem
    refine ⟨a, b, rfl, fun e he => ?_⟩
    rw [List.map_append, List.nodup_append] at h
    simpa using (h.2.2 e.1 (List.mem_map_of_mem he) n (by simp)).symm
  · rintro ⟨a, b, rfl, -⟩
    simp

end Found

section

variable (lies : List (List Char) → List Char → List (List Char) → Prop)
  (item? : List Char → Option (String × String))

open Classical in
/-- The entries of the lines that lie where entries count, in their order. Whether a line does is
told from the lines before it and after it. -/
noncomputable def entriesWhere (before : List (List Char)) :
    List (List Char) → List (String × String)
  | [] => []
  | l :: ls =>
    (if lies before l ls then item? l else none).toList ++ entriesWhere (before ++ [l]) ls

variable {lies item?} {before lines : List (List Char)} {line : List Char}

theorem entriesWhere_cons_of_not (h : ∀ e, lies before line lines → item? line ≠ some e) :
    entriesWhere lies item? before (line :: lines) =
      entriesWhere lies item? (before ++ [line]) lines := by
  rw [entriesWhere]
  split
  case isTrue hl => rw [Option.eq_none_iff_forall_ne_some.2 fun e => h e hl]; rfl
  case isFalse => rfl

theorem entriesWhere_cons_of_lies (h : lies before line lines) :
    entriesWhere lies item? before (line :: lines) =
      (item? line).toList ++ entriesWhere lies item? (before ++ [line]) lines := by
  rw [entriesWhere, if_pos h]

/-- A line that lies where entries count gives the name its type, and no such line before it has an
entry with the name. -/
def IsFirst (lies : List (List Char) → List Char → List (List Char) → Prop)
    (item? : List Char → Option (String × String)) (before lines : List (List Char))
    (name type : String) : Prop :=
  ∃ above line below, lines = above ++ line :: below ∧ lies (before ++ above) line below ∧
    item? line = some (name, type) ∧ ∀ a l b, above = a ++ l :: b →
      lies (before ++ a) l (b ++ line :: below) → ∀ t, item? l ≠ some (name, t)

/-- Either the first line has the entry, or it has none with the name and the entry is the first in
the other lines. -/
theorem isFirst_cons {name type : String} :
    IsFirst lies item? before (line :: lines) name type ↔
      lies before line lines ∧ item? line = some (name, type) ∨
        (lies before line lines → ∀ t, item? line ≠ some (name, t)) ∧
          IsFirst lies item? (before ++ [line]) lines name type := by
  constructor
  · rintro ⟨above, l, below, heq, hlies, he, hfirst⟩
    cases above with
    | nil =>
      obtain ⟨rfl, rfl⟩ := List.cons.inj heq
      exact .inl ⟨by simpa using hlies, he⟩
    | cons x above =>
      obtain ⟨rfl, rfl⟩ := List.cons.inj heq
      refine .inr ⟨fun hl => hfirst [] line above rfl (by simpa using hl), above, l, below, rfl,
        by simpa using hlies, he, ?_⟩
      rintro a l' b rfl hl
      exact hfirst (line :: a) l' b rfl (by simpa using hl)
  · rintro (⟨hlies, he⟩ | ⟨hnot, above, l, below, rfl, hlies, he, hfirst⟩)
    · exact ⟨[], line, lines, rfl, by simpa using hlies, he, by simp⟩
    · refine ⟨line :: above, l, below, rfl, by simpa using hlies, he, ?_⟩
      rintro (_ | ⟨x, a⟩) l' b heq hl
      · obtain ⟨rfl, rfl⟩ := List.cons.inj heq
        exact hnot (by simpa using hl)
      · obtain ⟨rfl, rfl⟩ := List.cons.inj heq
        exact hfirst a l' b rfl (by simpa using hl)

theorem lookup_entriesWhere {name type : String} :
    (entriesWhere lies item? before lines).lookup name = some type ↔
      IsFirst lies item? before lines name type := by
  induction lines generalizing before with
  | nil => simp [entriesWhere, IsFirst]
  | cons l ls ih =>
    rw [isFirst_cons, ← ih]
    by_cases hlies : lies before l ls
    · rw [entriesWhere_cons_of_lies hlies, List.lookup_append]
      cases he : item? l with
      | none => simp
      | some e =>
        obtain ⟨m, t⟩ := e
        by_cases hm : m = name
        · subst hm
          simp [hlies]
        · simp [beq_false_of_ne (Ne.symm hm), hm]
    · rw [entriesWhere_cons_of_not fun e h => absurd h hlies]
      simp [hlies]

end

end Exemplar.Docstring
