import Exemplar.Proofs.Docstring.Layout

/-
  Brackets in the texts of type expressions. Such a text closes all that it opens (`Balanced`), and
  every comma stands in brackets of its own (`Deep`). So a note is found in it only where the
  letters of `default` follow a comma, and a text that is cut there is not parsed; nor is one with
  more than two hundred brackets in each other.
-/

namespace Exemplar.Docstring

open Exemplar.Text Exemplar.Syntax Exemplar.Syntax.Snippet

variable {r : Role} {p : Snippet} {ps qs front back : List Snippet}

/-! ## Brackets -/

/-- The most brackets that are open anywhere in a text, in front of which `n` are. -/
def nestingFrom (n : Nat) : List Char → Nat
  | [] => n
  | c :: cs =>
    if c = '(' ∨ c = '[' then max n (nestingFrom (n + 1) cs)
    else if c = ')' ∨ c = ']' then max n (nestingFrom (n - 1) cs)
    else nestingFrom n cs

/-- How deep brackets stand in each other. -/
def nesting (cs : List Char) : Nat := nestingFrom 0 cs

theorem le_nestingFrom (n : Nat) (cs : List Char) : n ≤ nestingFrom n cs := by
  induction cs generalizing n with
  | nil => exact Nat.le_refl n
  | cons c cs ih =>
    unfold nestingFrom
    split
    · exact Nat.le_max_left ..
    · split
      · exact Nat.le_max_left ..
      · exact ih n

/-- A character that neither opens nor closes a bracket. -/
def IsEven (c : Char) : Prop := c ∉ ['(', '[', ')', ']']

instance : DecidablePred IsEven := fun c => inferInstanceAs (Decidable (c ∉ ['(', '[', ')', ']']))

theorem nestingFrom_append_of_even {cs : List Char} (h : ∀ c ∈ cs, IsEven c) (n : Nat)
    (r : List Char) : nestingFrom n (cs ++ r) = nestingFrom n r := by
  induction cs with
  | nil => rfl
  | cons c cs ih =>
    obtain ⟨hc, hcs⟩ := List.forall_mem_cons.1 h
    simp only [IsEven, List.mem_cons, List.not_mem_nil, or_false, not_or] at hc
    rw [List.cons_append, nestingFrom, if_neg (by simp [hc]), if_neg (by simp [hc]), ih hcs]

/-- Snippets that close all brackets they open: they are lexed unless too many are open. -/
structure Balanced (ps : List Snippet) : Prop where
  nests : ∀ n r, nestingFrom n (layOut ps ++ r) = max (nestingFrom n (layOut ps)) (nestingFrom n r)
  opens : ∀ line (b : Brackets), b.length ≤ 200 → openAfter line b ps =
    if nestingFrom b.length (layOut ps) ≤ 200 then .ok b else .error .tooManyBrackets

theorem Balanced.nil : Balanced [] :=
  ⟨fun n r => (Nat.max_eq_right (le_nestingFrom n r)).symm, fun _ _ hb => (if_pos hb).symm⟩

theorem Balanced.append (h : Balanced ps) (h' : Balanced qs) : Balanced (ps ++ qs) := by
  constructor
  · intro n r
    rw [layOut_append, List.append_assoc, h.nests, h'.nests, h.nests]
    omega
  · intro line b hb
    rw [openAfter_append, h.opens line b hb, layOut_append, h.nests]
    split
    case isTrue hp =>
      show openAfter line b qs = _
      rw [h'.opens line b hb]
      exact if_congr (by omega) rfl rfl
    case isFalse hp =>
      rw [if_neg (by omega)]
      rfl

/-- A snippet without a bracket. -/
theorem Balanced.of_even (hp : Belongs p) (h : ∀ c ∈ p.text, IsEven c) : Balanced [p] := by
  have nests (n : Nat) (r : List Char) : nestingFrom n (layOut [p] ++ r) = nestingFrom n r := by
    rw [layOut_cons, layOut_nil, List.append_nil]
    exact nestingFrom_append_of_even h n r
  have own (n : Nat) : nestingFrom n (layOut [p]) = n := by
    rw [← List.append_nil (layOut [p]), nests]
    rfl
  constructor
  · intro n r
    rw [nests, own, Nat.max_eq_right (le_nestingFrom n r)]
  · intro line b hb
    rw [own, if_pos hb]
    cases p with
    | word | dots | blank => rfl
    | sign c =>
      have hc := h c (.head _)
      simp only [Belongs, List.mem_cons, List.not_mem_nil, or_false] at hp
      rcases hp with rfl | rfl | rfl | rfl | rfl | rfl | rfl <;>
        first | rfl | exact absurd (by decide) hc

theorem Balanced.word {cs : List Char} (h : IsTypeWord cs) : Balanced [.word cs] := by
  refine .of_even h fun c hc hmem => ?_
  have := not_isWordPart_of_mem_marks ((by decide : ['(', '[', ')', ']'] ⊆ marks) hmem)
  rw [h.word.part c hc] at this
  cases this

theorem Balanced.sign {c : Char} (h : c ∈ [',', '.', '|']) : Balanced [.sign c] :=
  .of_even ((by decide : [',', '.', '|'] ⊆ ['(', ')', '[', ']', ',', '.', '|']) h)
    (List.forall_mem_singleton.2
      ((List.all_iff_forall_prop.1 (by decide) : ∀ c ∈ [',', '.', '|'], IsEven c) c h))

theorem Balanced.blank : Balanced [.blank] :=
  .of_even trivial (List.all_iff_forall_prop.1 (by decide))

theorem openAfter_bracket {line : Nat} {b : Brackets} {o : Char} (ho : o = '(' ∨ o = '[') :
    openAfter line b (.sign o :: ps) =
      if 200 ≤ b.length then .error .tooManyBrackets else openAfter line ((o, line) :: b) ps := by
  have hopen : bracketsAfter b line (String.ofList [o]) =
      if 200 ≤ b.length then .error .tooManyBrackets else .ok ((o, line) :: b) := by
    rcases ho with rfl | rfl <;> rfl
  rw [openAfter, hopen]
  by_cases hb : 200 ≤ b.length <;> simp [hb]

theorem Balanced.bracketed {o c : Char} (h : Balanced ps)
    (hoc : o = '(' ∧ c = ')' ∨ o = '[' ∧ c = ']') : Balanced (.sign o :: (ps ++ [.sign c])) := by
  have ho : o = '(' ∨ o = '[' := hoc.imp And.left And.left
  have nests (n : Nat) (r : List Char) :
      nestingFrom n (layOut (.sign o :: (ps ++ [.sign c])) ++ r) =
        max (nestingFrom (n + 1) (layOut ps)) (nestingFrom n r) := by
    have hclose : nestingFrom (n + 1) (c :: r) = max (n + 1) (nestingFrom n r) := by
      rcases hoc with ⟨-, rfl⟩ | ⟨-, rfl⟩ <;> rfl
    have htext : layOut (.sign o :: (ps ++ [.sign c])) ++ r = o :: (layOut ps ++ c :: r) := by
      simp [text]
    have hle := le_nestingFrom (n + 1) (layOut ps)
    rw [htext, nestingFrom, if_pos ho, h.nests, hclose]
    omega
  have own (n : Nat) : nestingFrom n (layOut (.sign o :: (ps ++ [.sign c]))) =
      nestingFrom (n + 1) (layOut ps) := by
    have hle := le_nestingFrom (n + 1) (layOut ps)
    have := nests n []
    rw [List.append_nil] at this
    rw [this, nestingFrom]
    omega
  constructor
  · intro n r
    rw [nests, own]
  · intro line b hb
    rw [openAfter_bracket ho, own]
    split
    case isTrue hb' =>
      have := le_nestingFrom (b.length + 1) (layOut ps)
      rw [if_neg (by omega)]
    case isFalse hb' =>
      rw [openAfter_append, h.opens line _ (by simp only [List.length_cons]; omega)]
      simp only [List.length_cons]
      split
      case isTrue =>
        show openAfter line ((o, line) :: b) [.sign c] = .ok b
        rcases hoc with ⟨rfl, rfl⟩ | ⟨rfl, rfl⟩ <;> rfl
      case isFalse => rfl

theorem Spelt.balanced (h : Spelt r ps) : Balanced ps := by
  induction h with
  | word h => exact .word h
  | dots => exact .of_even trivial (List.all_iff_forall_prop.1 (by decide))
  | empty => exact Balanced.nil.bracketed (.inr ⟨rfl, rfl⟩)
  | list _ ih => exact ih.bracketed (.inr ⟨rfl, rfl⟩)
  | group _ ih => exact ih.bracketed (.inl ⟨rfl, rfl⟩)
  | one _ ih => exact ih
  | member _ hcs ih => exact ih.append ((Balanced.sign (by decide)).append (.word hcs))
  | index _ _ ih ih' => exact ih.append (ih'.bracketed (.inr ⟨rfl, rfl⟩))
  | union _ _ ih ih' =>
    exact ih.append (Balanced.blank.append
      ((Balanced.sign (by decide)).append (Balanced.blank.append ih')))
  | single _ ih => exact ih.append (.sign (by decide))
  | more _ _ ih ih' =>
    exact ih.append ((Balanced.sign (by decide)).append (Balanced.blank.append ih'))

/-! ## Commas -/

/-- At every comma `d` brackets or more are open that were not open in front. -/
def Deep (d : Nat) (ps : List Snippet) : Prop :=
  ∀ front back, ps = front ++ .sign ',' :: back → ∀ (line : Nat) (b b' : Brackets),
    b.length ≤ 200 → openAfter line b front = .ok b' → b.length + d ≤ b'.length

variable {d : Nat}

theorem Deep.of_not_mem (h : .sign ',' ∉ ps) : Deep d ps := by
  rintro front back rfl
  simp at h

theorem Deep.mono {e : Nat} (h : Deep d ps) (he : e ≤ d) : Deep e ps :=
  fun front back heq line b b' hb hopen =>
    Nat.le_trans (Nat.add_le_add_left he _) (h front back heq line b b' hb hopen)

theorem Deep.comma : Deep 0 [.sign ','] := by
  intro front back heq line b b' hb hopen
  obtain rfl : front = [] := by
    cases front with
    | nil => rfl
    | cons p front => simp at heq
  cases hopen
  exact Nat.le_refl _

theorem Deep.append (h : Deep d ps) (hps : Balanced ps) (h' : Deep d qs) : Deep d (ps ++ qs) := by
  intro front back heq line b b' hb hopen
  obtain ⟨k, rfl, -⟩ | ⟨k, rfl, rfl⟩ := append_eq_append_cons heq
  · exact h front k rfl line b b' hb hopen
  · rw [openAfter_append, hps.opens line b hb] at hopen
    split at hopen
    case isTrue => exact h' k back rfl line b b' hb hopen
    case isFalse => cases hopen

theorem Deep.bracketed {o c : Char} (h : Deep d ps) (ho : o = '(' ∨ o = '[') (hc : c ≠ ',') :
    Deep (d + 1) (.sign o :: (ps ++ [.sign c])) := by
  intro front back heq line b b' hb hopen
  cases front with
  | nil =>
    obtain ⟨hcomma, -⟩ := List.cons.inj heq
    rcases ho with rfl | rfl <;> cases hcomma
  | cons p front =>
    obtain ⟨rfl, hrest⟩ := List.cons.inj heq
    have inner : Deep d (ps ++ [.sign c]) := by
      intro front back heq
      obtain ⟨k, rfl, -⟩ | ⟨k, -, hk⟩ := append_eq_append_cons heq
      · exact h front k rfl
      · have hmem : Snippet.sign ',' ∈ [Snippet.sign c] := hk ▸ by simp
        exact absurd (Snippet.sign.inj (List.mem_singleton.1 hmem)).symm hc
    rw [openAfter_bracket ho] at hopen
    split at hopen
    case isTrue => cases hopen
    case isFalse hb' =>
      have := inner front back hrest line _ b' (by simp only [List.length_cons]; omega) hopen
      simp only [List.length_cons] at this
      omega

/-- The brackets around snippets of a kind that they bring with them. -/
def Role.depth : Role → Nat
  | .operand => 1
  | .items => 0

theorem Spelt.deep (h : Spelt r ps) : Deep r.depth ps := by
  induction h with
  | word | dots | empty => exact .of_not_mem (by simp)
  | list _ ih => exact ih.bracketed (.inr rfl) (by decide)
  | group _ ih => exact (ih.bracketed (.inl rfl) (by decide)).mono (by decide)
  | one _ ih => exact ih.mono (by decide)
  | member h _ ih => exact ih.append h.balanced (.of_not_mem (by simp))
  | index h _ ih ih' => exact ih.append h.balanced (ih'.bracketed (.inr rfl) (by decide))
  | union h _ ih ih' =>
    have bar : Balanced [.blank, .sign '|', .blank] :=
      .append .blank (.append (.sign (by decide)) .blank)
    exact ih.append h.balanced (.append (.of_not_mem (by simp)) bar ih')
  | single h ih => exact (ih.mono (by decide)).append h.balanced .comma
  | more h _ ih ih' =>
    have next : Deep 0 (.blank :: _) := .append (.of_not_mem (by simp)) .blank ih'
    exact (ih.mono (by decide)).append h.balanced (.append .comma (.sign (by decide)) next)

theorem sheltered_bracketed (a : List Char) {c : Char} (h : c = ')' ∨ c = ']') :
    Sheltered (a ++ [c]) := by
  intro x y heq
  obtain ⟨k, -, rfl⟩ | ⟨k, -, hk⟩ := append_eq_append_cons heq
  · rcases h with rfl | rfl <;> simp
  · have hmem : ',' ∈ [c] := hk ▸ by simp
    obtain rfl := List.mem_singleton.1 hmem
    rcases h with h | h <;> cases h

theorem sheltered_of_belongs (h : ∀ p ∈ ps, Belongs p) (hcomma : .sign ',' ∉ ps) :
    Sheltered (layOut ps) := by
  intro x y heq
  obtain ⟨front, back, rfl, -⟩ := exists_comma h heq
  simp at hcomma

theorem Spelt.sheltered (h : Spelt r ps) (hr : r = .operand) : Sheltered (layOut ps) := by
  induction h with
  | word h => exact sheltered_of_belongs (List.forall_mem_singleton.2 h) (by simp)
  | dots => exact sheltered_of_not_mem (by decide)
  | empty => exact sheltered_bracketed ['['] (.inr rfl)
  | list _ _ => simpa [text] using sheltered_bracketed ('[' :: layOut _) (.inr rfl)
  | group _ _ => simpa [text] using sheltered_bracketed ('(' :: layOut _) (.inl rfl)
  | one | single | more => cases hr
  | member _ hcs ih =>
    rw [layOut_append]
    exact (ih hr).append (sheltered_of_belongs (by simpa [Belongs] using hcs) (by simp))
  | @index ps qs _ _ ih =>
    have := (ih hr).append (sheltered_bracketed ('[' :: layOut qs) (.inr rfl))
    simpa [text] using this
  | union _ _ ih ih' =>
    have bar : Sheltered [' ', '|', ' '] := sheltered_of_not_mem (by decide)
    have := (ih hr).append (bar.append (ih' hr))
    simpa [text] using this

/-! ## The clean-up -/

theorem Spelt.bare (h : Spelt .operand ps) : trim (unmark (layOut ps)) = layOut ps := by
  obtain ⟨p, qs, rfl, hp⟩ := h.exists_cons
  have ho := h.orderly
  rw [unmark_eq_self, (ho.trimmed hp).trim]
  refine fun c hc => ⟨?_, ?_⟩ <;> rintro rfl <;> exact ho.not_mem (by decide) (by decide) hc

theorem Spelt.dropNote_optional (h : Spelt .operand ps) :
    dropNote optionalNote (layOut ps) = layOut ps :=
  dropNote_optional_of_noteFree (h.sheltered rfl).noteFree

/-- A text without the letters of `default` behind a comma stays as it is. -/
theorem Spelt.cleanType_of_not (h : Spelt .operand ps) (hdefault : ¬ SaysDefault (layOut ps)) :
    cleanType (layOut ps) = layOut ps := by
  obtain ⟨p, qs, rfl, hp⟩ := h.exists_cons
  rw [cleanType_eq, h.bare, h.dropNote_optional, dropNote_default_of_not hdefault,
    h.orderly.barsForOr hp, (h.orderly.trimmed hp).trim]

theorem Spelt.of_comma (h : Spelt r (front ++ .sign ',' :: back)) :
    Orderly front ∧ ∃ p qs, front = p :: qs ∧ Leads p := by
  refine ⟨h.orderly.of_comma, ?_⟩
  obtain ⟨p, qs, hps, hp⟩ := h.exists_cons
  cases front with
  | nil =>
    obtain ⟨rfl, -⟩ := List.cons.inj hps
    rcases hp with hp | hp <;> cases hp
  | cons q front => exact ⟨q, front, rfl, (List.cons.inj hps).1 ▸ hp⟩

/-- Else it is cut at a comma. -/
theorem Spelt.cleanType_of_says (h : Spelt .operand ps) (hdefault : SaysDefault (layOut ps)) :
    ∃ front back, ps = front ++ .sign ',' :: back ∧ cleanType (layOut ps) = layOut front := by
  have hline : '\n' ∉ layOut ps := h.orderly.not_mem (by decide) (by decide)
  obtain ⟨x, y, heq, hx⟩ := dropNote_default_of_says hline hdefault
  obtain ⟨front, back, rfl, rfl, -⟩ := exists_comma h.orderly.belongs heq
  refine ⟨front, back, rfl, ?_⟩
  obtain ⟨hfront, p, qs, rfl, hp⟩ := h.of_comma
  rw [cleanType_eq, h.bare, h.dropNote_optional, hx, hfront.barsForOr hp, (hfront.trimmed hp).trim]

/-! ## Parsing -/

/-- What stands in front of a comma leaves a bracket open and is not parsed. -/
theorem Spelt.parseTree_front (h : Spelt .operand (front ++ .sign ',' :: back)) :
    parseTree? (layOut front) = none := by
  obtain ⟨hfront, p, qs, rfl, hp⟩ := h.of_comma
  obtain ⟨c, r, htext, hc⟩ := hfront.begins hp
  refine parseTree_eq_none_of_fit hc htext hfront.fit fun hopen => ?_
  have := h.deep _ back rfl 1 [] [] (Nat.zero_le _) hopen
  exact absurd this (by decide)

/-- The tree that the lexemes are read as, unless too many brackets are open. -/
theorem Spelt.parseTree {t : Nat → Tree} (h : Spelt .operand ps)
    (hread : Parser.Reads .test (lexemesOf ps) t) :
    parseTree? (layOut ps) = if nesting (layOut ps) ≤ 200 then some (t 1) else none := by
  obtain ⟨p, qs, rfl, hp⟩ := h.exists_cons
  obtain ⟨c, r, htext, hc⟩ := h.orderly.begins hp
  have hopen := h.balanced.opens 1 [] (Nat.zero_le _)
  unfold nesting
  split
  case isTrue hn =>
    exact parseTree_of_fit hc htext h.orderly.fit (hopen.trans (if_pos hn)) hread
  case isFalse hn =>
    refine parseTree_eq_none_of_fit hc htext h.orderly.fit fun hok => ?_
    rw [hok] at hopen
    cases hopen.trans (if_neg hn)

end Exemplar.Docstring
