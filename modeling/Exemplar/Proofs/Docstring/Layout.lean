import Exemplar.Proofs.Docstring.Clean
import Exemplar.Proofs.Lexer.Snippets
import Exemplar.Proofs.Text
import Mathlib.Data.Bool.AllAny
import Mathlib.Data.List.Chain

/-
  How the texts of type expressions are laid out in snippets (`Spelt`): words and points, brackets
  with items between commas, and bars between blanks. What can stand behind what (`Orderly`) is kept
  by all of these, and by what is left in front of a comma; it decides that no snippet runs into
  the next, that no blanks stand at the ends, and that no word is the word `or`.
-/

namespace Exemplar.Docstring

open Exemplar.Text Exemplar.Syntax Exemplar.Syntax.Snippet

/-- What snippets stand for: one operand, or items between two brackets. -/
inductive Role
  | operand | items

/-- A word that is a name or `None`. -/
structure IsTypeWord (cs : List Char) : Prop where
  word : IsWord cs
  plain : String.ofList cs ∉ keywords ∨ String.ofList cs = "None"

/-- The snippets of type expressions. -/
inductive Spelt : Role → List Snippet → Prop
  | word {cs : List Char} (h : IsTypeWord cs) : Spelt .operand [.word cs]
  | dots : Spelt .operand [.dots]
  | member {ps : List Snippet} {cs : List Char} (h : Spelt .operand ps) (hcs : IsTypeWord cs) :
      Spelt .operand (ps ++ [.sign '.', .word cs])
  | empty : Spelt .operand [.sign '[', .sign ']']
  | list {ps : List Snippet} (h : Spelt .items ps) :
      Spelt .operand (.sign '[' :: (ps ++ [.sign ']']))
  | group {ps : List Snippet} (h : Spelt .operand ps) :
      Spelt .operand (.sign '(' :: (ps ++ [.sign ')']))
  | index {ps qs : List Snippet} (h : Spelt .operand ps) (hi : Spelt .items qs) :
      Spelt .operand (ps ++ .sign '[' :: (qs ++ [.sign ']']))
  | union {ps qs : List Snippet} (h : Spelt .operand ps) (h' : Spelt .operand qs) :
      Spelt .operand (ps ++ .blank :: .sign '|' :: .blank :: qs)
  | one {ps : List Snippet} (h : Spelt .operand ps) : Spelt .items ps
  | single {ps : List Snippet} (h : Spelt .operand ps) : Spelt .items (ps ++ [.sign ','])
  | more {ps qs : List Snippet} (h : Spelt .operand ps) (h' : Spelt .items qs) :
      Spelt .items (ps ++ .sign ',' :: .blank :: qs)

/-! ## Neighbours -/

/-- The snippet begins an operand. -/
def Leads : Snippet → Prop
  | .word _ | .dots => True
  | .sign c => c = '(' ∨ c = '['
  | .blank => False

/-- The snippet needs none behind it. -/
def Trails : Snippet → Prop
  | .word _ | .dots => True
  | .sign c => c ≠ '.' ∧ c ≠ '|'
  | .blank => False

/-- The snippet is one of a type expression. -/
def Belongs : Snippet → Prop
  | .word cs => IsTypeWord cs
  | .sign c => c ∈ ['(', ')', '[', ']', ',', '.', '|']
  | .dots | .blank => True

/-- The second snippet can stand behind the first. -/
def Meets : Snippet → Snippet → Prop
  | .word _, q => ¬ q.IsWord
  | .dots, _ => True
  | .sign c, q => (c = '.' → q.IsWord) ∧ (c = '|' → q = .blank)
  | .blank, q => q = .sign '|' ∨ Leads q

/-- Snippets of which each can stand behind the one before, and which can end there. -/
structure Orderly (ps : List Snippet) : Prop where
  belongs : ∀ p ∈ ps, Belongs p
  meets : ps.IsChain Meets
  trails : ∀ p ∈ ps.getLast?, Trails p

variable {r : Role} {p q : Snippet} {ps qs front back : List Snippet}

theorem meets_of_trails (h : Trails p) (hq : ¬ q.IsWord) : Meets p q := by
  cases p with
  | word => exact hq
  | dots => trivial
  | sign c => exact ⟨fun hc => absurd hc h.1, fun hc => absurd hc h.2⟩
  | blank => cases h

theorem Orderly.single (hp : Belongs p) (ht : Trails p) : Orderly [p] :=
  ⟨by simpa using hp, .singleton p, by simpa using ht⟩

theorem Orderly.cons (hp : Belongs p) (hm : Meets p q) (h : Orderly (q :: qs)) :
    Orderly (p :: q :: qs) :=
  ⟨List.forall_mem_cons.2 ⟨hp, h.belongs⟩, .cons_cons hm h.meets, by simpa using h.trails⟩

theorem Orderly.append (h : Orderly ps) (h' : Orderly (q :: qs)) (hq : ¬ q.IsWord) :
    Orderly (ps ++ q :: qs) := by
  refine ⟨List.forall_mem_append.2 ⟨h.belongs, h'.belongs⟩,
    List.isChain_append.2 ⟨h.meets, h'.meets, fun p hp q' hq' => ?_⟩, ?_⟩
  · cases hq'
    exact meets_of_trails (h.trails p hp) hq
  · rw [List.getLast?_append_cons]
    exact h'.trails

/-- What is spelt begins with the beginning of an operand. -/
theorem Spelt.exists_cons (h : Spelt r ps) : ∃ p qs, ps = p :: qs ∧ Leads p := by
  induction h with
  | word | dots => exact ⟨_, _, rfl, trivial⟩
  | empty | list | group => exact ⟨_, _, rfl, by simp [Leads]⟩
  | one _ ih => exact ih
  | member _ _ ih | index _ _ ih | union _ _ ih | single _ ih | more _ _ ih =>
    obtain ⟨p, qs, rfl, hp⟩ := ih
    exact ⟨p, _, rfl, hp⟩

theorem Orderly.bracketed {o c : Char} (h : Spelt r ps) (ih : Orderly ps) (ho : o = '(' ∨ o = '[')
    (hc : c = ')' ∨ c = ']') : Orderly (.sign o :: (ps ++ [.sign c])) := by
  obtain ⟨p, qs, rfl, hp⟩ := h.exists_cons
  have last : Orderly [.sign c] := by
    rcases hc with rfl | rfl <;> exact .single (by simp [Belongs]) (by simp [Trails])
  refine .cons ?_ ?_ (ih.append last id)
  · rcases ho with rfl | rfl <;> simp [Belongs]
  · rcases ho with rfl | rfl <;> exact ⟨nofun, nofun⟩

/-- Operands and items are in order behind a blank. -/
theorem Orderly.blank (h : Spelt r ps) (ih : Orderly ps) : Orderly (.blank :: ps) := by
  obtain ⟨p, qs, rfl, hp⟩ := h.exists_cons
  exact .cons trivial (.inr hp) ih

theorem Spelt.orderly (h : Spelt r ps) : Orderly ps := by
  induction h with
  | word h => exact .single h trivial
  | dots => exact .single trivial trivial
  | empty =>
    exact .cons (by simp [Belongs]) ⟨nofun, nofun⟩ (.single (by simp [Belongs]) (by simp [Trails]))
  | list h ih => exact ih.bracketed h (.inr rfl) (.inr rfl)
  | group h ih => exact ih.bracketed h (.inl rfl) (.inl rfl)
  | one _ ih => exact ih
  | member _ hcs ih =>
    have word : Orderly [.word _] := .single hcs trivial
    exact ih.append (.cons (by simp [Belongs]) ⟨fun _ => trivial, nofun⟩ word) id
  | index _ hi ih ih' => exact ih.append (ih'.bracketed hi (.inr rfl) (.inr rfl)) id
  | union _ h' ih ih' =>
    have bar : Orderly (.sign '|' :: .blank :: _) :=
      .cons (by simp [Belongs]) ⟨nofun, fun _ => rfl⟩ (ih'.blank h')
    exact ih.append (.cons trivial (.inl rfl) bar) id
  | single _ ih => exact ih.append (.single (by simp [Belongs]) (by simp [Trails])) id
  | more _ h' ih ih' =>
    exact ih.append (.cons (by simp [Belongs]) ⟨nofun, nofun⟩ (ih'.blank h')) id

/-- What stands in front of a comma can end there. -/
theorem Orderly.of_comma (h : Orderly (front ++ .sign ',' :: back)) : Orderly front := by
  obtain ⟨hfront, -, hjoin⟩ := List.isChain_append.1 h.meets
  refine ⟨(List.forall_mem_append.1 h.belongs).1, hfront, fun p hp => ?_⟩
  have hm := hjoin p hp (.sign ',') rfl
  have hb := (List.forall_mem_append.1 h.belongs).1 p (List.mem_of_mem_getLast? hp)
  cases p with
  | word | dots => trivial
  | blank => simp [Meets, Leads] at hm
  | sign c => exact ⟨fun hc => hm.1 hc, fun hc => nomatch hm.2 hc⟩

theorem Orderly.of_cons (h : Orderly (p :: ps)) : Orderly ps := by
  refine ⟨(List.forall_mem_cons.1 h.belongs).2, h.meets.tail, fun q hq => h.trails q ?_⟩
  rw [List.getLast?_cons, Option.mem_def.1 hq]
  rfl

/-- No snippet runs into the next. -/
theorem Orderly.fit (h : Orderly ps) : Fit ps := by
  induction ps with
  | nil => trivial
  | cons p ps ih =>
    have hp := (List.forall_mem_cons.1 h.belongs).1
    refine ⟨?_, ih h.of_cons⟩
    have hmeets := (List.isChain_cons.1 h.meets).1
    cases p with
    | word cs => exact ⟨hp.word, fun q hq => hmeets q hq⟩
    | dots | blank => trivial
    | sign c =>
      have hc : c ∈ ['(', ')', '[', ']', ','] ∨ c = '.' ∨ c = '|' := by
        simpa [Belongs, or_assoc] using hp
      cases ps with
      | nil =>
        have ht : c ≠ '.' ∧ c ≠ '|' := h.trails _ rfl
        exact .inl (hc.resolve_right (not_or.2 ht))
      | cons q ps =>
        have hm := hmeets q rfl
        exact hc.imp_right (.imp (fun h => ⟨h, q, rfl, hm.1 h⟩)
          fun h => ⟨h, congrArg some (hm.2 h)⟩)

/-! ## Characters -/

theorem not_isBlank_of_isWord {cs : List Char} (h : IsWord cs) {c : Char} (hc : c ∈ cs) :
    isBlank c = false := by
  obtain ⟨d, r, rfl, -⟩ := h.start
  have hid := h.identifier
  rw [badIdentifierChar?] at hid
  split at hid
  case isFalse => cases hid
  case isTrue hd =>
    refine Bool.eq_false_iff.2 fun hblank => ?_
    rcases List.mem_cons.1 hc with rfl | hc
    · simp [not_isIdentifierStart_of_isBlank hblank] at hd
    · have := List.find?_eq_none.1 hid c hc
      simp [not_isIdentifierContinue_of_isBlank hblank] at this

/-- The signs of type expressions, and the blank. -/
def marks : List Char := ['(', ')', '[', ']', ',', '.', '|', ' ']

theorem not_isWordPart_of_mem_marks {c : Char} (h : c ∈ marks) : isWordPart c = false :=
  (List.all_iff_forall_prop.1 (by decide) : ∀ c ∈ marks, isWordPart c = false) c h

theorem Belongs.mem_marks (h : Belongs p) (hp : ¬ p.IsWord) {c : Char} (hc : c ∈ p.text) :
    c ∈ marks := by
  cases p with
  | word cs => exact absurd trivial hp
  | dots => exact (by decide : "...".toList ⊆ marks) hc
  | blank => exact (by decide : [' '] ⊆ marks) hc
  | sign d =>
    obtain rfl := List.mem_singleton.1 hc
    exact List.mem_append_left [' '] h

theorem Belongs.char (h : Belongs p) {c : Char} (hc : c ∈ p.text) :
    isWordPart c = true ∨ c ∈ marks := by
  cases p with
  | word cs => exact .inl (h.word.part c hc)
  | dots | blank | sign => exact .inr (h.mem_marks id hc)

/-- A character that is in no word stands nowhere unless it is a mark. -/
theorem Orderly.not_mem (h : Orderly ps) {c : Char} (hpart : isWordPart c = false)
    (hmark : c ∉ marks) : c ∉ layOut ps := by
  intro hc
  obtain ⟨p, hp, hc⟩ := List.mem_flatMap.1 hc
  rcases (h.belongs p hp).char hc with hc | hc
  · rw [hpart] at hc
    cases hc
  · exact hmark hc

theorem Belongs.not_isBlank (h : Belongs p) (hp : p ≠ .blank) {c : Char} (hc : c ∈ p.text) :
    isBlank c = false := by
  cases p with
  | word cs => exact not_isBlank_of_isWord h.word hc
  | dots =>
    exact (List.all_iff_forall_prop.1 (by decide) : ∀ c ∈ "...".toList, isBlank c = false) c hc
  | blank => exact absurd rfl hp
  | sign d =>
    obtain rfl := List.mem_singleton.1 hc
    exact (List.all_iff_forall_prop.1 (by decide) :
      ∀ c ∈ ['(', ')', '[', ']', ',', '.', '|'], isBlank c = false) c h

theorem Belongs.exists_cons (h : Belongs p) : ∃ c r, p.text = c :: r := by
  cases p with
  | word cs =>
    obtain ⟨c, r, rfl, -⟩ := h.word.start
    exact ⟨c, r, rfl⟩
  | dots | blank | sign => exact ⟨_, _, rfl⟩

/-- A character that is in one snippet only stands where the snippet does. -/
theorem exists_snippet {s : Snippet} {c : Char} {x y : List Char} (hs : s.text = [c])
    (honly : ∀ p ∈ ps, c ∈ p.text → p = s) (heq : layOut ps = x ++ c :: y) :
    ∃ front back, ps = front ++ s :: back ∧ layOut front = x ∧ layOut back = y := by
  induction ps generalizing x with
  | nil => simp at heq
  | cons p ps ih =>
    rw [layOut_cons] at heq
    obtain ⟨k, hk, rfl⟩ | ⟨k, rfl, hk⟩ := append_eq_append_cons heq
    · obtain rfl := honly p (.head _) (by simp [hk])
      cases x with
      | nil =>
        obtain ⟨-, rfl⟩ := List.cons.inj (hs.symm.trans hk)
        exact ⟨[], ps, rfl, rfl, rfl⟩
      | cons d x => simp [hs] at hk
    · obtain ⟨front, back, rfl, rfl, rfl⟩ := ih (fun p hp => honly p (.tail _ hp)) hk
      exact ⟨p :: front, back, rfl, rfl, rfl⟩

theorem exists_comma (h : ∀ p ∈ ps, Belongs p) {x y : List Char}
    (heq : layOut ps = x ++ ',' :: y) :
    ∃ front back, ps = front ++ .sign ',' :: back ∧ layOut front = x ∧ layOut back = y := by
  refine exists_snippet rfl (fun p hp hc => ?_) heq
  have hb := h p hp
  cases p with
  | word cs => exact absurd (hb.word.part _ hc) (by decide)
  | dots | blank => exact absurd hc (by decide)
  | sign d => exact congrArg sign (List.mem_singleton.1 hc).symm

theorem Orderly.exists_blank (h : Orderly ps) {x y : List Char} {c : Char} (hc : isBlank c = true)
    (heq : layOut ps = x ++ c :: y) :
    ∃ front back, ps = front ++ .blank :: back ∧ layOut front = x ∧ layOut back = y := by
  have honly : ∀ p ∈ ps, c ∈ p.text → p = .blank := fun p hp hmem => by
    by_contra hne
    simp [(h.belongs p hp).not_isBlank hne hmem] at hc
  obtain ⟨p, hp, hmem⟩ := List.mem_flatMap.1 (heq ▸ by simp : c ∈ layOut ps)
  obtain rfl := honly p hp hmem
  obtain rfl := List.mem_singleton.1 hmem
  exact exists_snippet rfl honly heq

/-! ## What the clean-up looks for -/

theorem Orderly.suffix (h : Orderly (front ++ back)) : Orderly back := by
  induction front with
  | nil => exact h
  | cons p front ih => exact ih h.of_cons

/-- A letter begins no snippet but a word. -/
theorem Orderly.isWord_of_layOut (h : Orderly ps) {c : Char} {r : List Char}
    (hc : isWordPart c = true) (heq : layOut ps = c :: r) : ∃ p ∈ ps.head?, p.IsWord := by
  cases ps with
  | nil => cases heq
  | cons p ps =>
    have hp := h.belongs p (.head _)
    refine ⟨p, rfl, ?_⟩
    obtain ⟨d, t, ht⟩ := hp.exists_cons
    rw [layOut_cons, ht] at heq
    obtain rfl : d = c := (List.cons.inj heq).1
    by_contra hword
    have := not_isWordPart_of_mem_marks (hp.mem_marks hword (ht ▸ .head t : d ∈ p.text))
    simp [this] at hc

theorem Belongs.head (h : Belongs p) (hp : p ≠ .blank) (ps : List Snippet) :
    ∀ c ∈ (layOut (p :: ps)).head?, isBlank c = false := by
  obtain ⟨c, r, hr⟩ := h.exists_cons
  intro d hd
  rw [layOut_cons, hr] at hd
  cases hd
  exact h.not_isBlank hp (hr ▸ .head r)

/-- No word of a type expression is the word `or`. -/
theorem Orderly.not_saysOr (h : Orderly ps) : ¬ SaysOr (layOut ps) := by
  rintro ⟨x, y, heq, hx, hy⟩
  -- The letters begin a snippet, at the front of the text or behind a blank.
  obtain ⟨qs, hqs, hlay⟩ : ∃ qs, Orderly qs ∧ layOut qs = 'o' :: 'r' :: y := by
    obtain rfl | ⟨x, c, rfl⟩ := List.eq_nil_or_concat' x
    · exact ⟨ps, h, heq⟩
    · have hc : isBlank c = true := hx c (by simp)
      obtain ⟨front, back, rfl, -, hback⟩ :=
        h.exists_blank hc (heq.trans (List.append_assoc x [c] _))
      exact ⟨back, h.suffix.of_cons, hback⟩
  obtain ⟨p, hp, hword⟩ := hqs.isWord_of_layOut (by decide) hlay
  obtain ⟨qs, rfl⟩ := List.head?_eq_some_iff.1 hp
  have hb := hqs.belongs p (.head _)
  cases p with
  | dots | blank | sign => exact hword
  | word cs =>
    have hcs : cs ++ layOut qs = ['o', 'r'] ++ y := hlay
    -- The word is not `or` itself, does not end in front of the letter `r`, and has no blank in it.
    obtain ⟨k, hk, hrest⟩ | ⟨k, rfl, hrest⟩ := List.append_eq_append_iff.1 hcs
    · obtain ⟨c, w, rfl, -⟩ := hb.word.start
      match w, k with
      | [], [] => cases hk
      | [], d :: k =>
        obtain ⟨-, rfl, -⟩ : 'o' = c ∧ 'r' = d ∧ k = [] := by simpa using hk
        obtain ⟨q, hq, hword⟩ := hqs.of_cons.isWord_of_layOut (by decide) hrest
        exact (List.isChain_cons.1 hqs.meets).1 q hq hword
      | d :: w, k =>
        obtain ⟨rfl, rfl, hnil⟩ : 'o' = c ∧ 'r' = d ∧ [] = w ++ k := by simpa using hk
        obtain ⟨rfl, -⟩ := List.append_eq_nil_iff.1 hnil.symm
        exact hb.plain.elim (fun hor => hor (by decide)) (by decide)
    · cases k with
      | nil => exact hb.plain.elim (fun hor => hor (by decide)) (by decide)
      | cons d k =>
        have hd : isBlank d = true := hy d (by rw [hrest]; rfl)
        simp [not_isBlank_of_isWord hb.word (by simp : d ∈ ['o', 'r'] ++ d :: k)] at hd

theorem Orderly.trimmed (h : Orderly (p :: ps)) (hp : Leads p) : Trimmed (layOut (p :: ps)) := by
  constructor
  · exact (h.belongs p (.head _)).head (by rintro rfl; exact hp) ps
  · obtain ⟨front, q, hfront⟩ :=
      (List.eq_nil_or_concat (p :: ps)).resolve_left (List.cons_ne_nil _ _)
    rw [List.concat_eq_append] at hfront
    rw [hfront] at h ⊢
    have hq : q ∈ front ++ [q] := by simp
    obtain ⟨c, r, hr⟩ := (h.belongs q hq).exists_cons
    intro d hd
    rw [layOut_append, layOut_cons, layOut_nil, List.append_nil, hr, List.getLast?_append_cons,
      ← hr] at hd
    have hblank : q ≠ .blank := by
      rintro rfl
      exact h.trails .blank (by simp)
    exact (h.belongs q hq).not_isBlank hblank (List.mem_of_mem_getLast? hd)

theorem Orderly.barsForOr (h : Orderly (p :: ps)) (hp : Leads p) :
    barsForOr (layOut (p :: ps)) = layOut (p :: ps) :=
  barsForOr_eq_self h.not_saysOr (h.trimmed hp).last

/-- The text begins as a lexeme does. -/
theorem Orderly.begins (h : Orderly (p :: ps)) (hp : Leads p) :
    ∃ c r, layOut (p :: ps) = c :: r ∧ beginsLexeme c = true := by
  have hb := h.belongs p (.head _)
  cases p with
  | word cs =>
    obtain ⟨c, r, rfl, hc⟩ := hb.word.start
    exact ⟨c, _, rfl, beginsLexeme_of_isWordStart hc⟩
  | dots => exact ⟨'.', _, rfl, by decide⟩
  | blank => exact hp.elim
  | sign c => rcases hp with rfl | rfl <;> exact ⟨_, _, rfl, by decide⟩

end Exemplar.Docstring
