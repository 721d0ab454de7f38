import Exemplar.Proofs.Docstring.Entries
import Mathlib.Data.List.Chain

/-
  The two conventions with sections, against what a reader sees. A line lies in a section if all
  that follows the nearest title above it is indented deeper than the title (`InSection`); it lies
  below a heading if that is the nearest line above it with an underline and is indented as the line
  is (`BelowHeading`). The scans keep a count that says which section is open: one step lemma each
  says how a further line changes that (`openAt_snoc`, `nearest_snoc`), and by induction along the
  lines a scan picks up the entries of just the lines in sections.
-/

namespace Exemplar.Docstring

open Exemplar.Text

/-- A list that ends in an element is cut in front of it or before. -/
theorem exists_cut_snoc {α : Type*} {xs : List α} {x : α} {P : List α → α → List α → Prop} :
    (∃ a y b, xs ++ [x] = a ++ y :: b ∧ P a y b) ↔
      P xs x [] ∨ ∃ a y b, xs = a ++ y :: b ∧ P a y (b ++ [x]) := by
  constructor
  · rintro ⟨a, y, b, heq, h⟩
    rcases List.eq_nil_or_concat b with rfl | ⟨b, z, rfl⟩
    · obtain ⟨rfl, hx⟩ := List.append_inj' heq rfl
      obtain rfl := List.singleton_inj.1 hx
      exact .inl h
    · have hsnoc : xs ++ [x] = (a ++ y :: b) ++ [z] := by simpa using heq
      obtain ⟨rfl, hx⟩ := List.append_inj' hsnoc rfl
      obtain rfl := List.singleton_inj.1 hx
      exact .inr ⟨a, y, b, rfl, by simpa using h⟩
  · rintro (h | ⟨a, y, b, rfl, h⟩)
    · exact ⟨xs, x, [], rfl, h⟩
    · exact ⟨a, y, b ++ [x], by simp, h⟩

/-! ## Sections below a title -/

section

variable {above lines : List (List Char)} {line : List Char} {n : Nat}

/-- A line lies in a section if it holds more than blanks and is no title, and if from the last
title above it on all lines with more than blanks, itself included, are indented deeper. -/
def InSection (above : List (List Char)) (line : List Char) : Prop :=
  line.all isBlank = false ∧ isSectionTitle line = false ∧
    ∃ a title b, above = a ++ title :: b ∧ isSectionTitle title = true ∧
      (∀ l ∈ b, isSectionTitle l = false) ∧
      ∀ l ∈ b ++ [line], l.all isBlank = false → indentation title < indentation l

/-- The last title of the lines is indented so far, and what follows it deeper. -/
def OpenAt (above : List (List Char)) (n : Nat) : Prop :=
  ∃ a title b, above = a ++ title :: b ∧ isSectionTitle title = true ∧ indentation title = n ∧
    ∀ l ∈ b, isSectionTitle l = false ∧ (l.all isBlank = false → n < indentation l)

theorem openAt_snoc : OpenAt (above ++ [line]) n ↔
    if isSectionTitle line then indentation line = n
    else OpenAt above n ∧ (line.all isBlank = false → n < indentation line) := by
  unfold OpenAt
  rw [exists_cut_snoc]
  split
  case isTrue h =>
    constructor
    · rintro (⟨-, hn, -⟩ | ⟨a, t, b, -, -, -, hb⟩)
      · exact hn
      · exact absurd (hb line (by simp)).1 (by simp [h])
    · exact fun hn => .inl ⟨h, hn, by simp⟩
  case isFalse h =>
    simp only [Bool.not_eq_true] at h
    simp only [h, List.mem_append, List.mem_singleton]
    constructor
    · rintro (⟨h', -⟩ | ⟨a, t, b, rfl, ht, hn, hb⟩)
      · exact absurd h' nofun
      · exact ⟨⟨a, t, b, rfl, ht, hn, fun l hl => hb l (.inl hl)⟩, (hb line (.inr rfl)).2⟩
    · rintro ⟨⟨a, t, b, rfl, ht, hn, hb⟩, hl⟩
      refine .inr ⟨a, t, b, rfl, ht, hn, ?_⟩
      rintro l (hmem | rfl)
      · exact hb l hmem
      · exact ⟨h, hl⟩

theorem inSection_iff : InSection above line ↔
    line.all isBlank = false ∧ isSectionTitle line = false ∧
      ∃ n, OpenAt above n ∧ n < indentation line := by
  refine and_congr_right fun hblank => and_congr_right fun _ => ?_
  constructor
  · rintro ⟨a, t, b, rfl, ht, hb, hdeep⟩
    exact ⟨_, ⟨a, t, b, rfl, ht, rfl, fun l hl => ⟨hb l hl, hdeep l (by simp [hl])⟩⟩,
      hdeep line (by simp) hblank⟩
  · rintro ⟨_, ⟨a, t, b, rfl, ht, rfl, hb⟩, hline⟩
    refine ⟨a, t, b, rfl, ht, fun l hl => (hb l hl).1, fun l hl => ?_⟩
    rcases List.mem_append.1 hl with hl | hl
    · exact (hb l hl).2
    · obtain rfl := List.mem_singleton.1 hl
      exact fun _ => hline

theorem sectionEntries_cons (bound? : Option Nat) (l : List Char) (ls : List (List Char)) :
    sectionEntries bound? (l :: ls) =
      if isSectionTitle l then sectionEntries (some (indentation l)) ls
      else match bound? with
        | none => sectionEntries none ls
        | some n =>
          if l.all isBlank then sectionEntries bound? ls
          else if indentation l ≤ n then sectionEntries none ls
          else (sectionItem? l).toList ++ sectionEntries bound? ls :=
  sectionEntries.eq_def ..

/-- By induction along the lines, with the count that the scan keeps: it is the indentation of the
title of the section that is open, if one is. -/
theorem sectionEntries_eq {bound? : Option Nat} (h : ∀ n, bound? = some n ↔ OpenAt above n) :
    sectionEntries bound? lines =
      entriesWhere (fun above line _ => InSection above line) sectionItem? above lines := by
  induction lines generalizing bound? above with
  | nil => rfl
  | cons l ls ih =>
    rw [sectionEntries_cons]
    by_cases htitle : isSectionTitle l = true
    · rw [entriesWhere_cons_of_not fun _ hin => by simp [InSection, htitle] at hin, if_pos htitle]
      exact ih fun n => by rw [openAt_snoc, if_pos htitle, Option.some.injEq]
    have hstep (n) : OpenAt (above ++ [l]) n ↔
        bound? = some n ∧ (l.all isBlank = false → n < indentation l) := by
      rw [openAt_snoc, if_neg htitle, h]
    have hin : InSection above l ↔
        l.all isBlank = false ∧ ∃ n, bound? = some n ∧ n < indentation l := by
      simp only [inSection_iff, h, eq_false_of_ne_true htitle, true_and]
    rw [if_neg htitle]
    cases bound? with
    | none =>
      rw [entriesWhere_cons_of_not fun _ hl => by simp [hin] at hl]
      exact ih fun n => by simp [hstep]
    | some m =>
      dsimp only
      split
      case isTrue hblank =>
        rw [entriesWhere_cons_of_not fun _ hl => by simp [hin, hblank] at hl]
        exact ih fun n => by simp [hstep, hblank]
      case isFalse hblank =>
        simp only [Bool.not_eq_true] at hblank
        simp only [hblank, true_and, Option.some.injEq, exists_eq_left'] at hin
        simp only [hblank, Option.some.injEq, forall_const] at hstep
        split
        case isTrue hle =>
          rw [entriesWhere_cons_of_not fun _ hl => absurd (hin.1 hl) (Nat.not_lt.2 hle)]
          refine ih fun n => ⟨nofun, fun hn => ?_⟩
          obtain ⟨rfl, hlt⟩ := (hstep n).1 hn
          exact absurd hlt (Nat.not_lt.2 hle)
        case isFalse hle =>
          rw [entriesWhere_cons_of_lies (hin.2 (Nat.lt_of_not_le hle))]
          congr 1
          refine ih fun n => ?_
          rw [hstep, Option.some.injEq]
          exact ⟨fun hn => ⟨hn, hn ▸ Nat.lt_of_not_le hle⟩, And.left⟩

/-- What a documentation text says in its sections about parameters: each name once, and an entry
just if it is the first with its name on a line in a section. -/
theorem mem_sectionTypes (lines : List (List Char)) :
    ((sectionTypes lines).map Prod.fst).Nodup ∧
      ∀ name type, (name, type) ∈ sectionTypes lines ↔
        ∃ above line below, lines = above ++ line :: below ∧ InSection above line ∧
          IsSectionItem line name type ∧
          ∀ a l b, above = a ++ l :: b → InSection a l → ∀ t, ¬ IsSectionItem l name t := by
  have hnodup : ((sectionTypes lines).map Prod.fst).Nodup :=
    @Found.nodup_notes [] List.nodup_nil (sectionEntries none lines)
  have hentries : sectionEntries none lines =
      entriesWhere (fun above line _ => InSection above line) sectionItem? [] lines :=
    sectionEntries_eq (by simp [OpenAt])
  refine ⟨hnodup, fun name type => ?_⟩
  rw [Found.mem_iff_lookup hnodup, sectionTypes, Found.lookup_notes, List.nil_append, hentries,
    lookup_entriesWhere]
  simp only [IsFirst, List.nil_append, sectionItem?_eq_some, ne_eq]

-- A line that is not indented closes the section, for the lines after it too.
example : sectionTypes ["Args:".toList, "  x (int): n".toList, [], "y (str): m".toList,
    "  z (int): n".toList] = [("x", "int")] := by decide

end

/-! ## Sections below a heading -/

section

variable {above below lines : List (List Char)} {line : List Char} {n : Nat}

/-- A line is underlined in front of those below it if it holds more than blanks and the next line
is an underline. -/
def Underlined (line : List Char) (below : List (List Char)) : Prop :=
  line.all isBlank = false ∧ ∃ u ∈ below.head?, isUnderline u = true

/-- The nearest heading above is one of parameters and indented so far. -/
def Nearest (above below : List (List Char)) (n : Nat) : Prop :=
  ∃ a heading b, above = a ++ heading :: b ∧ Underlined heading (b ++ below) ∧
    (∀ c l d, b = c ++ l :: d → ¬ Underlined l (d ++ below)) ∧
    isHeading heading = true ∧ indentation heading = n

/-- A line is no heading itself, and the nearest heading above it is one of parameters and indented
as the line is. -/
def BelowHeading (above : List (List Char)) (line : List Char) (below : List (List Char)) : Prop :=
  ¬ Underlined line below ∧ Nearest above (line :: below) (indentation line)

theorem nearest_snoc : Nearest (above ++ [line]) below n ↔
    Underlined line below ∧ isHeading line = true ∧ indentation line = n ∨
      ¬ Underlined line below ∧ Nearest above (line :: below) n := by
  have hlast (b : List (List Char)) :
      (∀ c l d, b ++ [line] = c ++ l :: d → ¬ Underlined l (d ++ below)) ↔
      ¬ Underlined line below ∧ ∀ c l d, b = c ++ l :: d → ¬ Underlined l (d ++ line :: below) := by
    have h := @exists_cut_snoc _ b line fun _ l d => Underlined l (d ++ below)
    simpa using not_congr h
  unfold Nearest
  rw [exists_cut_snoc]
  simp only [hlast]
  constructor
  · rintro (⟨hlined, -, htitle, hn⟩ | ⟨a, t, b, rfl, hlined, ⟨hline, hb⟩, htitle, hn⟩)
    · exact .inl ⟨hlined, htitle, hn⟩
    · exact .inr ⟨hline, a, t, b, rfl, by simpa using hlined, hb, htitle, hn⟩
  · rintro (⟨hlined, htitle, hn⟩ | ⟨hline, a, t, b, rfl, hlined, hb, htitle, hn⟩)
    · exact .inl ⟨hlined, by simp, htitle, hn⟩
    · exact .inr ⟨a, t, b, rfl, by simpa using hlined, ⟨hline, hb⟩, htitle, hn⟩

/-- An underline is no entry: no name starts with a dash. -/
theorem headedItem?_underline (h : isUnderline line = true) : headedItem? line = none := by
  simp only [isUnderline, Bool.and_eq_true, decide_eq_true_eq] at h
  obtain ⟨c, cs, hcs⟩ := List.exists_cons_of_length_pos (Nat.lt_of_lt_of_le (by decide) h.1)
  obtain ⟨r, hr⟩ : trim line <+: trimLeft line := trimRight_isPrefix _
  obtain rfl : c = '-' := (by simpa [hcs] using h.2 : c = '-' ∧ _).1
  have hnone : takeName? (trimLeft line) = none := by
    rw [← hr, hcs]
    simp [takeName?, show isWordChar '-' = false from rfl]
  simp [headedItem?, typedName?, hnone]

theorem headedEntries_cons (heading? : Option Nat) (l : List Char) (ls : List (List Char)) :
    headedEntries heading? (l :: ls) =
      if ls.head?.any isUnderline && !l.all isBlank then
        headedEntries (if isHeading l then some (indentation l) else none) ls.tail
      else (match heading? with
        | none => none
        | some n => if indentation l == n then headedItem? l else none).toList ++
          headedEntries heading? ls := by
  rw [headedEntries.eq_def]
  cases ls <;> rfl

/-- By induction along the lines, with the count that the scan keeps: it is the indentation of the
nearest heading, if that is one of parameters. The scan takes a heading and its underline at once;
the underline is none, as no second underline follows it. -/
theorem headedEntries_eq {heading? : Option Nat}
    (hlines : lines.IsChain fun u v => isUnderline u = true → isUnderline v = false)
    (h : ∀ n, heading? = some n ↔ Nearest above lines n) :
    headedEntries heading? lines = entriesWhere BelowHeading headedItem? above lines := by
  induction hlen : lines.length using Nat.strongRecOn generalizing lines above heading? with
  | ind len ih =>
  cases lines with
  | nil => rfl
  | cons l ls =>
    have hlined : Underlined l ls ↔ (ls.head?.any isUnderline && !l.all isBlank) = true := by
      simp only [Underlined, Bool.and_eq_true, Option.any_eq_true, Bool.not_eq_true']
      exact and_comm
    obtain ⟨-, hls⟩ := List.isChain_cons.1 hlines
    rw [headedEntries_cons]
    split
    case isTrue hhead =>
      obtain ⟨-, u, hu, hunder⟩ := hlined.2 hhead
      obtain ⟨ls, rfl⟩ := List.head?_eq_some_iff.1 hu
      have hl : Underlined l (u :: ls) := hlined.2 hhead
      obtain ⟨hnext, hls⟩ := List.isChain_cons.1 hls
      have hnot : ¬ Underlined u ls := fun ⟨_, v, hv, hunder'⟩ => by
        simp [hnext v hv hunder] at hunder'
      rw [entriesWhere_cons_of_not fun _ hin => absurd hl hin.1,
        entriesWhere_cons_of_not fun _ _ => by simp [headedItem?_underline hunder], List.tail_cons]
      refine ih ls.length (by simp only [← hlen, List.length_cons]; omega) hls (fun n => ?_) rfl
      rw [nearest_snoc, nearest_snoc]
      simp [hnot, hl]
    case isFalse hhead =>
      have hl : ¬ Underlined l ls := fun hl => hhead (hlined.1 hl)
      have hrest : headedEntries heading? ls =
          entriesWhere BelowHeading headedItem? (above ++ [l]) ls :=
        ih ls.length (by simp [← hlen]) hls (fun n => by rw [h, nearest_snoc]; simp [hl]) rfl
      rw [hrest]
      by_cases hin : heading? = some (indentation l)
      · rw [entriesWhere_cons_of_lies ⟨hl, (h _).1 hin⟩]
        simp [hin]
      · rw [entriesWhere_cons_of_not fun _ hb => absurd ((h _).2 hb.2) hin]
        cases heading? with
        | none => rfl
        | some n =>
          have hn : (indentation l == n) = false := beq_false_of_ne fun heq => hin (by rw [heq])
          simp [hn]

/-- What a documentation text without two underlines in a row says below its headings about
parameters: each name once, and an entry just if it is the first with its name on a line below a
heading. -/
theorem mem_headedTypes (lines : List (List Char))
    (hlines : lines.IsChain fun u v => isUnderline u = true → isUnderline v = false) :
    ((headedTypes lines).map Prod.fst).Nodup ∧
      ∀ name type, (name, type) ∈ headedTypes lines ↔
        ∃ above line below, lines = above ++ line :: below ∧ BelowHeading above line below ∧
          IsHeadedItem line name type ∧
          ∀ a l b, above = a ++ l :: b → BelowHeading a l (b ++ line :: below) →
            ∀ t, ¬ IsHeadedItem l name t := by
  have hnodup : ((headedTypes lines).map Prod.fst).Nodup :=
    @Found.nodup_notes [] List.nodup_nil (headedEntries none lines)
  have hentries : headedEntries none lines = entriesWhere BelowHeading headedItem? [] lines :=
    headedEntries_eq hlines (by simp [Nearest])
  refine ⟨hnodup, fun name type => ?_⟩
  rw [Found.mem_iff_lookup hnodup, headedTypes, Found.lookup_notes, List.nil_append, hentries,
    lookup_entriesWhere]
  simp only [IsFirst, List.nil_append, headedItem?_eq_some, ne_eq]

theorem mem_headedTypes_example :
    let lines := ["Parameters".toList, "----".toList, "*x : int".toList, "x : str".toList,
      "Returns".toList, "---".toList, "y : str".toList]
    (lines.IsChain fun u v => isUnderline u = true → isUnderline v = false) ∧
      ∃ above line below, lines = above ++ line :: below ∧ BelowHeading above line below ∧
        IsHeadedItem line "x" "int" ∧
        ∀ a l b, above = a ++ l :: b → BelowHeading a l (b ++ line :: below) →
          ∀ t, ¬ IsHeadedItem l "x" t :=
  ⟨by decide, ((mem_headedTypes _ (by decide)).2 "x" "int").1 (by decide)⟩

end

end Exemplar.Docstring
