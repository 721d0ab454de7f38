import Exemplar.Proofs.Lexer.Sound
import Exemplar.Proofs.Offsets

/-
  Where tokens stand. The tokens of a source are its characters in order, up to what may stand
  between them: blanks, line ends, comments and continued lines (`Gap`). Each starts and stops at
  the places where its characters do (`Laid`), and the characters of a word or a sign are the word
  or the sign (`lex_laid`). Marks of layout have no characters.
-/

namespace Exemplar.Syntax

/-! ## What scanners take -/

/-- The lexeme is no mark of layout, and the characters of a word or a sign are those. -/
structure CharsOf (x : Lexeme) (taken : List Char) : Prop where
  solid : x.isLayout = false
  word : ∀ w, x = .word w → taken = w.toList ∧ '\n' ∉ taken
  op : ∀ s, x = .op s → taken = s.toList

/-- The lexeme is a number. -/
def Lexeme.IsNumeral : Lexeme → Prop
  | .number _ | .longNumber _ => True
  | _ => False

theorem Lexeme.IsNumeral.charsOf {x : Lexeme} (h : x.IsNumeral) (taken : List Char) :
    CharsOf x taken := by
  cases x with
  | number | longNumber => exact ⟨rfl, nofun, nofun⟩
  | _ => exact h.elim

theorem digitsTail_eq {digit : Char → Bool} {fault : Char → LexFault} {cs : List Char} :
    ∀ {ds rest}, digitsTail digit fault cs = .ok (ds, rest) → cs = ds ++ rest := by
  induction cs with
  | nil =>
    rintro ds rest ⟨⟩
    rfl
  | cons c r ih =>
    intro ds rest h
    have goOn : ∀ {ds rest}, (digitsTail digit fault r >>= fun x => pure (c :: x.1, x.2)) =
        Except.ok (ds, rest) → c :: r = ds ++ rest := by
      intro ds rest h
      obtain ⟨⟨ds', rest'⟩, hr, h⟩ := bind_eq_ok.mp h
      cases h
      rw [ih hr]
      rfl
    unfold digitsTail at h
    split at h
    · exact goOn h
    · split at h
      · split at h
        · split at h
          · exact goOn h
          · cases h
        · cases h
      · cases h
        rfl

/-- After the characters `front` of a number the scanner takes more of the text. -/
structure Numbers (front cs : List Char) (s : Scan) : Prop where
  run : ∀ x taken rest, s = .ok (x, taken, rest) →
    x.IsNumeral ∧ ∃ more, taken = front ++ more ∧ cs = more ++ rest

namespace Numbers

variable {front cs : List Char} {s s' : Scan}

theorem error (f : LexFault) : Numbers front cs (.error f) := ⟨nofun⟩

theorem ok (front : List Char) {x : Lexeme} (h : x.IsNumeral) (more rest : List Char) :
    Numbers front (more ++ rest) (.ok (x, front ++ more, rest)) := by
  refine ⟨?_⟩
  rintro _ _ _ ⟨⟩
  exact ⟨h, more, rfl, rfl⟩

/-- Nothing more is taken. -/
theorem done {x : Lexeme} (h : x.IsNumeral) : Numbers front cs (.ok (x, front, cs)) := by
  have hok := ok front h [] cs
  rwa [List.append_nil] at hok

theorem bind {α : Type} {x : Except LexFault α} {f : α → Scan}
    (h : ∀ a, x = .ok a → Numbers front cs (f a)) : Numbers front cs (x >>= f) := by
  cases x with
  | error e => exact .error e
  | ok a => exact h a rfl

theorem ite {c : Prop} [Decidable c] (hs : Numbers front cs s) (hs' : Numbers front cs s') :
    Numbers front cs (if c then s else s') := by
  split
  · exact hs
  · exact hs'

/-- More of the text has been taken to the front. -/
theorem shift (ds : List Char) {rest : List Char} (h : Numbers (front ++ ds) rest s) :
    Numbers front (ds ++ rest) s := by
  refine ⟨fun x taken r heq => ?_⟩
  obtain ⟨hx, more, rfl, rfl⟩ := h.run x taken r heq
  exact ⟨hx, ds ++ more, List.append_assoc .., (List.append_assoc ..).symm⟩

end Numbers

theorem scanExponent_numbers (taken : List Char) (isReal : Bool) (rest : List Char) :
    Numbers taken rest (scanExponent taken isReal rest) := by
  unfold scanExponent
  extract_lets finish
  have hreal : ∀ ds imaginary, (realNumber ds imaginary).IsNumeral := by
    intro ds imaginary
    cases imaginary <;> trivial
  have hwhole : ∀ front rest : List Char, Numbers front rest
      (if 4300 < (plainDigits front).length then
        pure (.longNumber (plainDigits front).length, front, rest)
      else pure (.number (.int (Numeral.ofDigits (plainDigits front))), front, rest)) :=
    fun _ _ => .ite (.done (x := .longNumber _) trivial) (.done (x := .number _) trivial)
  have hfinish : ∀ front isReal rest, Numbers front rest (finish front isReal rest) := by
    intro front isReal rest
    unfold finish
    split
    · rename_i c r
      exact .ite (.bind fun _ _ => .ok front (hreal _ true) [c] r)
        (.bind fun _ _ => .ite (.done (hreal _ false)) (hwhole front _))
    · exact .ite (.done (hreal _ false)) (hwhole front _)
  clear_value finish
  split
  · rename_i e r
    refine .ite ?_ (hfinish ..)
    split
    · rename_i s t
      refine .ite ?_ (.ite (.bind fun (ds, rest) h => ?_) (hfinish ..))
      · split
        · refine .ite (.bind fun (ds, rest) h => ?_) (.error _)
          rw [digitsTail_eq h]
          exact .shift (e :: s :: ds) (hfinish ..)
        · exact .error _
      · rw [digitsTail_eq h]
        exact .shift (e :: ds) (hfinish ..)
    · exact hfinish ..
  · exact hfinish ..

/-- A point in front of the rest is taken. -/
theorem scanFraction_point (taken : List Char) {rest r : List Char} (h : rest = '.' :: r) :
    Numbers (taken ++ ['.']) r (scanFraction taken rest) := by
  unfold scanFraction
  split
  · cases h
    extract_lets goOn
    have hgo : ∀ a : List Char × List Char, r = a.1 ++ a.2 →
        Numbers (taken ++ ['.']) r (goOn a) := by
      rintro ⟨ds, rest⟩ rfl
      refine .shift ds ?_
      show Numbers (taken ++ ['.'] ++ ds) rest (scanExponent (taken ++ '.' :: ds) true rest)
      rw [← List.append_cons taken '.' ds]
      exact scanExponent_numbers ..
    split
    · exact .ite (.bind fun a h => hgo a (digitsTail_eq h))
        (.bind fun a h => hgo a (by cases h; rfl))
    · exact .bind fun a h => hgo a (by cases h; rfl)
  · rename_i hno
    exact absurd h (hno r)

theorem scanFraction_numbers (taken rest : List Char) :
    Numbers taken rest (scanFraction taken rest) := by
  by_cases h : ∃ r, rest = '.' :: r
  · obtain ⟨r, rfl⟩ := h
    exact .shift ['.'] (scanFraction_point taken rfl)
  · unfold scanFraction
    split
    · exact absurd ⟨_, rfl⟩ h
    · exact scanExponent_numbers ..

theorem scanInBase_numbers (base : Nat) (kind : String) (digit : Char → Bool)
    (front cs : List Char) : Numbers front cs (scanInBase base kind digit front cs) := by
  unfold scanInBase
  extract_lets fault
  split
  rename_i lead cs' heq
  have hcs : cs = lead ++ cs' := by
    split at heq
    · cases heq
      rfl
    · cases heq
      rfl
  split
  · refine .ite (.bind fun (ds, rest) h => ?_) (.error _)
    have hnumber : Numbers front cs (pure (.number (.int (ofDigitsIn base (plainDigits ds))),
        front ++ lead ++ ds, rest)) := by
      rw [hcs, digitsTail_eq h]
      exact .shift lead (.ok (front ++ lead) (x := .number _) trivial ds rest)
    dsimp only
    split
    · exact .ite (.error _) (.bind fun _ _ => hnumber)
    · exact hnumber
  · exact .error _

/-- The scanner takes one character of the text at least, and those that the lexeme spells. -/
structure Takes (cs : List Char) (s : Scan) : Prop where
  run : ∀ x taken rest, s = .ok (x, taken, rest) →
    CharsOf x taken ∧ taken ≠ [] ∧ cs = taken ++ rest

namespace Takes

variable {cs : List Char} {s s' : Scan}

theorem error (f : LexFault) : Takes cs (.error f) := ⟨nofun⟩

theorem ok {x : Lexeme} {taken rest : List Char} (h : CharsOf x taken) (ht : taken ≠ [])
    (hcs : cs = taken ++ rest) : Takes cs (.ok (x, taken, rest)) := by
  refine ⟨?_⟩
  rintro _ _ _ ⟨⟩
  exact ⟨h, ht, hcs⟩

theorem bind {α : Type} {x : Except LexFault α} {f : α → Scan}
    (h : ∀ a, x = .ok a → Takes cs (f a)) : Takes cs (x >>= f) := by
  cases x with
  | error e => exact .error e
  | ok a => exact h a rfl

theorem ite {c : Prop} [Decidable c] (hs : Takes cs s) (hs' : Takes cs s') :
    Takes cs (if c then s else s') := by
  split
  · exact hs
  · exact hs'

/-- A number that has some characters already. -/
theorem of_numbers {front rest : List Char} (h : Numbers front rest s) (hf : front ≠ []) :
    Takes (front ++ rest) s := by
  refine ⟨fun x taken r heq => ?_⟩
  obtain ⟨hx, more, rfl, rfl⟩ := h.run x taken r heq
  exact ⟨hx.charsOf _, fun hnil => hf (List.append_eq_nil_iff.mp hnil).1,
    (List.append_assoc ..).symm⟩

end Takes

/-- Digits that begin with a digit. -/
theorem digitsTail_ne_nil {digit : Char → Bool} {fault : Char → LexFault} {c : Char}
    {r ds rest : List Char} (hc : digit c = true)
    (h : digitsTail digit fault (c :: r) = .ok (ds, rest)) : ds ≠ [] := by
  unfold digitsTail at h
  rw [if_pos hc] at h
  obtain ⟨⟨ds', rest'⟩, -, h⟩ := bind_eq_ok.mp h
  cases h
  exact List.cons_ne_nil c ds'

theorem scanNumber_takes {cs : List Char} (h : ∃ c r, cs = c :: r ∧ (isDigit c = true ∨ c = '.')) :
    Takes cs (scanNumber cs) := by
  have inBase : ∀ (base : Nat) (kind : String) (digit : Char → Bool) (a b : Char) (t : List Char),
      Takes (a :: b :: t) (scanInBase base kind digit [a, b] t) :=
    fun base kind digit a b t =>
      .of_numbers (scanInBase_numbers base kind digit [a, b] t) (List.cons_ne_nil a [b])
  have whole : ∀ {cs ds rest : List Char}, decimalTail cs = .ok (ds, rest) → ds ≠ [] →
      Takes cs (scanFraction ds rest) := by
    intro cs ds rest h hds
    rw [digitsTail_eq h]
    exact .of_numbers (scanFraction_numbers ds rest) hds
  unfold scanNumber
  split
  · split
    · exact inBase ..
    · exact inBase ..
    · exact inBase ..
    · exact inBase ..
    · exact inBase ..
    · exact inBase ..
    · exact .bind fun (ds, rest) h => .ite (.error _) (whole h (digitsTail_ne_nil rfl h))
  · rename_i r
    have point : Numbers ['.'] r (scanFraction [] ('.' :: r)) := scanFraction_point [] rfl
    exact .of_numbers point (List.cons_ne_nil '.' [])
  · rename_i hpoint
    obtain ⟨c, r, rfl, hc | rfl⟩ := h
    · exact .bind fun (ds, rest) h => whole h (digitsTail_ne_nil hc h)
    · exact absurd rfl (hpoint r)

theorem shortBody_eq {q : Char} {cs : List Char} :
    ∀ {b rest}, shortBody q cs = .ok (b, rest) → cs = b ++ q :: rest := by
  fun_induction shortBody q cs with
  | case1 | case3 | case5 | case7 => rintro _ _ ⟨⟩
  | case2 c r b rest h ih | case6 c r _ _ _ b rest h ih =>
    rintro _ _ ⟨⟩
    rw [ih h]
    rfl
  | case4 c r _ hc =>
    rintro _ _ ⟨⟩
    rw [beq_iff_eq.mp hc]
    rfl

theorem longBody_eq {q : Char} {cs : List Char} :
    ∀ {b rest}, longBody q cs = .ok (b, rest) → cs = b ++ [q, q, q] ++ rest := by
  fun_induction longBody q cs with
  | case1 | case3 | case6 => rintro _ _ ⟨⟩
  | case2 c r b rest h ih | case5 c r _ _ b rest h ih =>
    rintro _ _ ⟨⟩
    rw [ih h]
    rfl
  | case4 c r _ hc =>
    rintro _ _ ⟨⟩
    obtain ⟨hq, hr⟩ := Bool.and_eq_true_iff.mp hc
    obtain ⟨t, rfl⟩ := List.isPrefixOf_iff_prefix.mp hr
    rw [beq_iff_eq.mp hq]
    rfl

theorem splitPrefix_eq {cs letters r : List Char} {q : Char}
    (h : splitPrefix? cs = some (letters, q, r)) : cs = letters ++ q :: r := by
  unfold splitPrefix? at h
  dsimp only at h
  split at h
  · rename_i d t heq
    split at h
    · cases h
      rw [← heq]
      exact (List.prefix_iff_eq_append.mp
        ((List.takeWhile_prefix _).trans (List.take_prefix 3 cs))).symm
    · cases h
  · cases h

theorem scanText_takes (place : Place) (front : List Char) (flags : Quotation) (q : Char)
    (r : List Char) : Takes (front ++ q :: r) (scanText place front flags q r) := by
  unfold scanText
  split
  · rename_i hq
    obtain ⟨t, rfl⟩ := List.isPrefixOf_iff_prefix.mp hq
    split
    · rename_i body rest h
      refine .ok ⟨rfl, nofun, nofun⟩ (by simp) ?_
      have ht : t = body ++ [q, q, q] ++ rest := longBody_eq h
      rw [ht]
      simp
    · exact .error _
  · split
    · rename_i body rest h
      refine .ok ⟨rfl, nofun, nofun⟩ (by simp) ?_
      rw [shortBody_eq h]
      simp
    · exact .error _

theorem scanOp_takes (c : Char) (r : List Char) : Takes (c :: r) (scanOp (c :: r)) := by
  have drop (n : Nat) : Takes (c :: r) (.ok (.op (String.ofList ((c :: r).take (n + 1))),
      (c :: r).take (n + 1), (c :: r).drop (n + 1))) := by
    refine .ok ⟨rfl, nofun, ?_⟩ (List.cons_ne_nil c _) (List.take_append_drop ..).symm
    rintro _ ⟨⟩
    exact String.toList_ofList.symm
  unfold scanOp
  exact .ite (drop 2) (.ite (drop 1) (.ite (.error _) (drop 0)))

theorem scanWord_takes {c : Char} {r : List Char} (hc : isWordStart c = true) :
    Takes (c :: r) (scanWord (c :: r)) := by
  have hpart := isWordPart_of_isWordStart hc
  unfold scanWord
  dsimp only
  split
  · refine .ok ⟨rfl, ?_, nofun⟩ ?_ List.takeWhile_append_dropWhile.symm
    · rintro _ ⟨⟩
      refine ⟨String.toList_ofList.symm, fun hmem => ?_⟩
      exact absurd (List.all_eq_true.mp List.all_takeWhile '\n' hmem) (by decide)
    · rw [List.takeWhile_cons_of_pos hpart]
      exact List.cons_ne_nil c _
  · exact .error _

theorem scanLexeme_takes (place : Place) (c : Char) (r : List Char) :
    Takes (c :: r) (scanLexeme place (c :: r)) := by
  unfold scanLexeme
  split
  · rename_i letters q t hsplit
    split
    · rw [splitPrefix_eq hsplit]
      exact scanText_takes ..
    · rename_i hp
      obtain ⟨c', t', heq, hc⟩ := splitPrefix_front hsplit hp
      cases heq
      exact scanWord_takes hc
  · split
    · rename_i c' r' heq
      cases heq
      split
      · rename_i hc
        exact scanWord_takes hc
      · split
        · rename_i hc
          exact scanNumber_takes ⟨c, r, rfl, .inl hc⟩
        · split
          · rename_i hc
            have hpoint := (Bool.and_eq_true_iff.mp hc).1
            exact scanNumber_takes ⟨c, r, rfl, .inr (beq_iff_eq.mp hpoint)⟩
          · exact scanOp_takes c r
    · rename_i heq
      cases heq

/-! ## Tokens in a text -/

/-- What may stand between tokens: blanks, line ends, comments and continued lines. -/
inductive Gap : List Char → Prop
  | nil : Gap []
  | blank {c : Char} {g : List Char} (hc : isSkipped c = true ∨ c = '\n') (h : Gap g) : Gap (c :: g)
  | comment {body g : List Char} (hb : '\n' ∉ body) (h : Gap g) : Gap ('#' :: body ++ '\n' :: g)
  | continued {g : List Char} (h : Gap g) : Gap ('\\' :: '\n' :: g)

/-- The tokens stand in a text that begins at a place. -/
inductive Laid : Place → List Char → List Token → Prop
  | done {p : Place} {cs : List Char} : Laid p cs []
  | mark {p : Place} {cs : List Char} {t : Token} {ts : List Token}
      (ht : t.lexeme.isLayout = true) (h : Laid p cs ts) : Laid p cs (t :: ts)
  | token {p : Place} {cs gap rest : List Char} {c : Char} {more : List Char} {t : Token}
      {ts : List Token} (hcs : cs = gap ++ (c :: more ++ rest)) (hgap : Gap gap) (hc : c ≠ '\n')
      (hx : CharsOf t.lexeme (c :: more)) (hstart : t.start = p.afterAll gap)
      (hstop : t.stop = t.start.afterAll (c :: more)) (h : Laid t.stop rest ts) :
      Laid p cs (t :: ts)

namespace Laid

variable {p : Place} {cs : List Char} {ts : List Token}

/-- What makes a gap in front of every gap may stand in front of tokens. -/
theorem behind {g : List Char} (hg : ∀ gap c rest, cs = gap ++ c :: rest → c ≠ '\n' → Gap gap →
    Gap (g ++ gap)) (h : Laid (p.afterAll g) cs ts) : Laid p (g ++ cs) ts := by
  generalize hq : p.afterAll g = q at h
  induction h with
  | done => exact .done
  | mark ht _ ih => exact .mark ht (ih hg hq)
  | token hcs hgap hc hx hstart hstop h _ =>
    subst hcs hq
    exact .token (List.append_assoc ..).symm (hg _ _ _ rfl hc hgap) hc hx
      (hstart.trans (Place.afterAll_append ..).symm) hstop h

theorem blank {c : Char} (hc : isSkipped c = true ∨ c = '\n') (h : Laid (p.after c) cs ts) :
    Laid p (c :: cs) ts :=
  behind (g := [c]) (fun _ _ _ _ _ hgap => .blank hc hgap) h

theorem continued (h : Laid ((p.after '\\').after '\n') cs ts) :
    Laid p ('\\' :: '\n' :: cs) ts :=
  behind (g := ['\\', '\n']) (fun _ _ _ _ _ hgap => .continued hgap) h

/-- A comment goes up to the end of its line. -/
theorem comment {body : List Char} (hb : '\n' ∉ body) (hcs : ∀ c r, cs = c :: r → c = '\n')
    (h : Laid (p.afterAll ('#' :: body)) cs ts) : Laid p ('#' :: body ++ cs) ts := by
  refine behind (fun gap c rest heq hc hgap => ?_) h
  cases hgap with
  | nil => exact absurd (hcs c rest heq) hc
  | blank hd hgap =>
    rw [hcs _ _ heq]
    exact .comment hb hgap
  | comment => cases hcs _ _ heq
  | continued => cases hcs _ _ heq

theorem marks {ms : List Lexeme} (hm : ∀ x ∈ ms, x.isLayout = true) (q : Place) {l : Lexed}
    (h : Laid p cs l.tokens) :
    Laid p cs (ms.foldr (fun x rest => rest.cons ⟨x, q, q⟩) l).tokens := by
  induction ms with
  | nil => exact h
  | cons x ms ih =>
    obtain ⟨hx, hms⟩ := List.forall_mem_cons.mp hm
    exact .mark hx (ih hms)

end Laid

theorem measure_laid {m m' : Indent} {p q : Place} {cs rest : List Char} {ts : List Token}
    (h : Laid q rest ts) : measure m p cs = .ok (m', q, rest) → Laid p cs ts := by
  fun_induction measure m p cs with
  | case1 m p r ih | case2 m p r ih | case3 m p r ih => exact fun hm => .blank (.inl rfl) (ih hm)
  | case4 | case6 => rintro ⟨⟩
  | case5 m p r _ ih => exact fun hm => .continued (ih hm)
  | case7 =>
    rintro ⟨⟩
    exact h

/-- A comment ends before the next line end. -/
theorem comment_split (r : List Char) : ∃ body rest, r = body ++ rest ∧ '\n' ∉ body ∧
    ('#' :: r).takeWhile (· != '\n') = '#' :: body ∧ ∀ c t, rest = c :: t → c = '\n' := by
  refine ⟨r.takeWhile (· != '\n'), r.dropWhile (· != '\n'),
    List.takeWhile_append_dropWhile.symm, ?_, List.takeWhile_cons_of_pos rfl, ?_⟩
  · intro hmem
    have hall : (r.takeWhile (· != '\n')).all (· != '\n') = true := List.all_takeWhile
    exact absurd (List.all_eq_true.mp hall '\n' hmem) (by decide)
  · intro c t h
    have hhead := List.head?_dropWhile_not (· != '\n') r
    rw [h] at hhead
    exact Classical.byContradiction fun hc => absurd (bne_iff_ne.mpr hc) (by simpa using hhead)

/-- A comment that is passed over as a whole. -/
theorem Laid.commented {p : Place} {r : List Char} {ts : List Token}
    (h : Laid (p.afterAll (('#' :: r).takeWhile (· != '\n')))
      (('#' :: r).drop (('#' :: r).takeWhile (· != '\n')).length) ts) : Laid p ('#' :: r) ts := by
  obtain ⟨body, rest, rfl, hb, htake, hend⟩ := comment_split r
  have hdrop : ('#' :: (body ++ rest)).drop ('#' :: body).length = rest := List.drop_left
  rw [htake, hdrop] at h
  exact .comment hb hend h

/-- A lexeme that is scanned where no line ends. -/
theorem Laid.scanned {p : Place} {c : Char} {r taken rest : List Char} {x : Lexeme}
    {ts : List Token} (hscan : scanLexeme p (c :: r) = .ok (x, taken, rest)) (hc : c ≠ '\n')
    (h : Laid (p.afterAll taken) rest ts) :
    Laid p (c :: r) (⟨x, p, p.afterAll taken⟩ :: ts) := by
  obtain ⟨hx, hne, heq⟩ := (scanLexeme_takes p c r).run x taken rest hscan
  obtain ⟨d, more, rfl⟩ := List.exists_cons_of_ne_nil hne
  obtain ⟨rfl, -⟩ := List.cons.inj heq
  exact .token heq .nil hc hx rfl rfl h

section Step

variable {n : Nat}
  (hline : ∀ indents b p cs, Laid p cs (lexLine n indents b p cs).tokens)
  (hrest : ∀ blank indents b p cs, Laid p cs (lexRest n blank indents b p cs).tokens)

include hrest

/-- From the start of a line on, if from inside a line on. -/
theorem lexLine_laid (indents : Indents) (b : Brackets) (p : Place) (cs : List Char) :
    Laid p cs (lexLine (n + 1) indents b p cs).tokens := by
  unfold lexLine
  split
  · exact .done
  · rename_i m q rest hmeasure
    refine measure_laid ?_ hmeasure
    extract_lets blank
    split
    · exact hrest ..
    · split
      · exact .done
      · rename_i hl
        exact .marks (layout_marks hl) _ (hrest ..)

include hline

/-- From inside a line on, if from behind its next lexeme or its end on. -/
theorem lexRest_laid (blank : Bool) (indents : Indents) (b : Brackets) (p : Place)
    (cs : List Char) : Laid p cs (lexRest (n + 1) blank indents b p cs).tokens := by
  unfold lexRest
  split
  · split
    · exact .done
    · exact .mark rfl .done
  · rename_i c r
    split
    · rename_i hc
      exact .blank (.inl hc) (hrest ..)
    · split
      · rename_i hc
        obtain rfl := beq_iff_eq.mp hc
        exact .commented (hrest ..)
      · split
        · rename_i hc
          obtain rfl := beq_iff_eq.mp hc
          have hnext : Laid p ('\n' :: r) (lexLine n indents b (p.after '\n') r).tokens :=
            .blank (.inr rfl) (hline ..)
          dsimp only
          split
          · exact hnext
          · exact .mark rfl hnext
        · rename_i hend
          split
          · rename_i hc
            obtain rfl := beq_iff_eq.mp hc
            split
            · split
              · exact .done
              · exact .continued (hrest ..)
            · exact .done
          · split
            · exact .done
            · rename_i x taken rest hscan
              have hc : c ≠ '\n' := fun h => hend (beq_iff_eq.mpr h)
              dsimp only
              split
              · split
                · exact .done
                · exact .scanned hscan hc (hrest ..)
              · exact .scanned hscan hc (hrest ..)

end Step

/-- Tokens stand in the text from the start of a line on, and from inside a line on. -/
theorem lexLines_laid (n : Nat) :
    (∀ indents b p cs, Laid p cs (lexLine n indents b p cs).tokens) ∧
      ∀ blank indents b p cs, Laid p cs (lexRest n blank indents b p cs).tokens := by
  induction n with
  | zero => exact ⟨fun _ _ _ _ => .done, fun _ _ _ _ _ => .done⟩
  | succ n ih =>
    obtain ⟨hline, hrest⟩ := ih
    exact ⟨lexLine_laid hrest, lexRest_laid hline hrest⟩

/-- The tokens of a source stand in it. -/
theorem lex_laid {cs : List Char} {ts : List Token} (h : (lex cs).tokens? = some ts) :
    Laid ⟨1, 0⟩ cs ts := by
  unfold Lexed.tokens? at h
  split at h
  · cases h
    exact (lexLines_laid _).1 [] [] ⟨1, 0⟩ cs
  · cases h

end Exemplar.Syntax
