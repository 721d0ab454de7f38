import Exemplar.Proofs.Lexer.Numbers
import Exemplar.Proofs.Lexer.Room

/-
  What tokens hold. Every word of a source begins and goes on as words do, no number that is written
  in it is a double that is not a number, and its texts have room in it side by side
  (`lexFrom_sound`).
-/

namespace Exemplar

/-! ## Doubles that are numbers -/

namespace Binary64

theorem isNaN_ofParts (negative : Bool) {rest : Nat} (h : rest < 2047 * Nat.pow 2 52) :
    (ofParts negative rest).isNaN = false := by
  have hbits : (ofParts negative rest).bits.toNat =
      rest + if negative then Nat.pow 2 63 else 0 := by
    refine UInt64.toNat_ofNat_of_lt' ?_
    simp only [Nat.pow_eq, UInt64.size] at h ⊢
    split <;> omega
  have hfield : (ofParts negative rest).exponentField ≠ 2047 := by
    unfold exponentField
    rw [hbits]
    simp only [Nat.pow_eq] at h ⊢
    split <;> omega
  unfold isNaN
  rw [beq_false_of_ne hfield]
  rfl

theorem isNaN_infinity (negative : Bool) : (infinity negative).isNaN = false := by
  cases negative <;> decide +kernel

theorem isNaN_ofRatio (negative : Bool) (num den : Nat) :
    (ofRatio negative num den).isNaN = false := by
  unfold ofRatio
  split
  · exact isNaN_ofParts negative (by decide)
  · dsimp only
    split <;> split
    · exact isNaN_infinity negative
    · rename_i h
      exact isNaN_ofParts negative (Nat.lt_of_not_le h)
    · exact isNaN_infinity negative
    · rename_i h
      exact isNaN_ofParts negative (Nat.lt_of_not_le h)

theorem isNaN_ofDecimal (negative : Bool) (digits : Nat) (exponent : Int) :
    (ofDecimal negative digits exponent).isNaN = false := by
  unfold ofDecimal
  split
  · exact isNaN_ofParts negative (by decide)
  · split
    · split
      · exact isNaN_infinity negative
      · exact isNaN_ofRatio ..
    · split
      · exact isNaN_ofParts negative (by decide)
      · exact isNaN_ofRatio ..

end Binary64

namespace Numeral

theorem isNaN_readExponent {digits : Nat} {scale : Int} {s : List Char} {x : Binary64}
    (h : readExponent digits scale s = some x) : x.isNaN = false := by
  unfold readExponent at h
  split at h
  · cases h
    exact Binary64.isNaN_ofDecimal ..
  · split at h
    · split at h
      · cases h
      · cases h
        exact Binary64.isNaN_ofDecimal ..
    · cases h

theorem isNaN_readDecimal {s : List Char} {x : Binary64}
    (h : readDecimal? false s = some x) : x.isNaN = false := by
  rw [readDecimal_eq] at h
  split at h
  · cases h
  · exact isNaN_readExponent h

end Numeral

namespace Syntax

/-! ## Lexemes -/

/-- A constant is a number, and no double that is not one. -/
def IsNumber : Constant → Prop
  | .int _ => True
  | .float x => x.isNaN = false
  | .imaginary _ => True
  | _ => False

/-- A word of the lexeme is a word, and a number of it is a number. -/
def Lexeme.Sound : Lexeme → Prop
  | .word w => IsWord w.toList
  | .number c => IsNumber c
  | _ => True

/-- A lexeme that is scanned off the front of so many characters is sound, and there is room for it
in front of the rest. -/
structure SoundScan (n : Nat) (s : Scan) : Prop where
  sound : ∀ x taken rest, s = .ok (x, taken, rest) → x.Sound ∧ x.room + rest.length ≤ n

namespace SoundScan

variable {n : Nat} {s s' : Scan}

theorem error (f : LexFault) : SoundScan n (.error f) := ⟨nofun⟩

theorem ok {x : Lexeme} {rest : List Char} (h : x.Sound) (hroom : x.room + rest.length ≤ n)
    (taken : List Char) : SoundScan n (.ok (x, taken, rest)) := by
  refine ⟨?_⟩
  rintro _ _ _ ⟨⟩
  exact ⟨h, hroom⟩

/-- A lexeme that is no text needs no room. -/
theorem plain {x : Lexeme} {rest : List Char} (h : x.Sound) (hx : x.room = 0)
    (hrest : rest.length ≤ n) (taken : List Char) : SoundScan n (.ok (x, taken, rest)) := by
  refine .ok h ?_ taken
  rw [hx, Nat.zero_add]
  exact hrest

theorem bind {α : Type} {x : Except LexFault α} {f : α → Scan}
    (h : ∀ a, x = .ok a → SoundScan n (f a)) : SoundScan n (x >>= f) := by
  cases x with
  | error e => exact .error e
  | ok a => exact h a rfl

theorem ite {c : Prop} [Decidable c] (hs : SoundScan n s) (hs' : SoundScan n s') :
    SoundScan n (if c then s else s') := by
  split
  · exact hs
  · exact hs'

theorem mono {m : Nat} (hs : SoundScan m s) (h : m ≤ n) : SoundScan n s := by
  refine ⟨fun x taken rest heq => ?_⟩
  obtain ⟨hx, hroom⟩ := hs.sound x taken rest heq
  exact ⟨hx, Nat.le_trans hroom h⟩

end SoundScan

theorem realNumber_sound (digits : List Char) (imaginary : Bool) :
    (realNumber digits imaginary).Sound := by
  unfold realNumber
  cases imaginary with
  | true => trivial
  | false =>
    show (Option.getD _ _ : Binary64).isNaN = false
    cases h : Numeral.readDecimal? false (plainDigits digits) with
    | none => decide +kernel
    | some x => exact Numeral.isNaN_readDecimal h

theorem scanExponent_sound (taken : List Char) (isReal : Bool) (rest : List Char) :
    SoundScan rest.length (scanExponent taken isReal rest) := by
  unfold scanExponent
  extract_lets finish
  have hreal : ∀ taken imaginary {n} {rest : List Char}, rest.length ≤ n → ∀ front,
      SoundScan n (pure (realNumber taken imaginary, front, rest)) :=
    fun taken imaginary _ _ h => .plain (realNumber_sound taken imaginary) rfl h
  have hwhole : ∀ (taken rest : List Char), SoundScan rest.length
      (if 4300 < (plainDigits taken).length then
        pure (.longNumber (plainDigits taken).length, taken, rest)
      else pure (.number (.int (Numeral.ofDigits (plainDigits taken))), taken, rest)) :=
    fun taken rest => .ite (.plain (x := .longNumber _) trivial rfl (Nat.le_refl _) taken)
      (.plain (x := .number (.int _)) trivial rfl (Nat.le_refl _) taken)
  have hfinish : ∀ taken isReal rest, SoundScan rest.length (finish taken isReal rest) := by
    intro taken isReal rest
    unfold finish
    split
    · exact .ite (.bind fun _ _ => hreal _ true (Nat.le_succ _) _)
        (.bind fun _ _ => .ite (hreal _ false (Nat.le_refl _) _) (hwhole taken _))
    · exact .ite (hreal _ false (Nat.le_refl _) _) (hwhole taken _)
  clear_value finish
  split
  · rename_i e r
    refine .ite ?_ (hfinish ..)
    split
    · rename_i s t
      refine .ite ?_ (.ite (.bind fun (ds, rest) h => ?_) (hfinish ..))
      · split
        · refine .ite (.bind fun (ds, rest) h => ?_) (.error _)
          have := digitsTail_length h
          exact (hfinish ..).mono (by simp only [List.length_cons] at *; omega)
        · exact .error _
      · have := digitsTail_length h
        exact (hfinish ..).mono (by simp only [List.length_cons] at *; omega)
    · exact hfinish ..
  · exact hfinish ..

theorem scanFraction_sound (taken rest : List Char) :
    SoundScan rest.length (scanFraction taken rest) := by
  unfold scanFraction
  split
  · rename_i r
    extract_lets goOn
    have hgo : ∀ a : List Char × List Char, a.2.length ≤ r.length →
        SoundScan (r.length + 1) (goOn a) :=
      fun a ha => (scanExponent_sound ..).mono (Nat.le_succ_of_le ha)
    rw [List.length_cons]
    split
    · exact .ite (.bind fun a h => hgo a (digitsTail_length h))
        (.bind fun a h => hgo a (by cases h; exact Nat.le_refl _))
    · exact .bind fun a h => hgo a (by cases h; exact Nat.le_refl _)
  · exact scanExponent_sound ..

theorem scanInBase_sound (base : Nat) (kind : String) (digit : Char → Bool)
    (front cs : List Char) : SoundScan cs.length (scanInBase base kind digit front cs) := by
  unfold scanInBase
  extract_lets fault
  split
  rename_i lead cs' heq
  have hlen : cs'.length ≤ cs.length := by
    split at heq
    · cases heq
      exact Nat.le_succ _
    · cases heq
      exact Nat.le_refl _
  split
  · refine .ite (.bind fun (ds, rest) h => ?_) (.error _)
    have hnumber : SoundScan cs.length (pure (.number (.int (ofDigitsIn base (plainDigits ds))),
        front ++ lead ++ ds, rest)) :=
      .plain (x := .number (.int _)) trivial rfl (Nat.le_trans (digitsTail_length h) hlen) _
    dsimp only
    split
    · exact .ite (.error _) (.bind fun _ _ => hnumber)
    · exact hnumber
  · exact .error _

theorem scanNumber_sound (cs : List Char) : SoundScan cs.length (scanNumber cs) := by
  have inBase : ∀ (base : Nat) (kind : String) (digit : Char → Bool) (front : List Char)
      (a b : Char) (t : List Char),
      SoundScan (a :: b :: t).length (scanInBase base kind digit front t) :=
    fun _ _ _ _ _ _ t => (scanInBase_sound ..).mono (Nat.le_add_right t.length 2)
  unfold scanNumber
  split
  · split
    · exact inBase ..
    · exact inBase ..
    · exact inBase ..
    · exact inBase ..
    · exact inBase ..
    · exact inBase ..
    · exact .bind fun (ds, rest) h =>
        .ite (.error _) ((scanFraction_sound ..).mono (digitsTail_length h))
  · exact scanFraction_sound ..
  · exact .bind fun (ds, rest) h => (scanFraction_sound ..).mono (digitsTail_length h)

theorem scanText_sound (place : Place) (front : List Char) (flags : Quotation) (q : Char)
    (r : List Char) : SoundScan r.length (scanText place front flags q r) := by
  unfold scanText
  split
  · split
    · rename_i body rest h
      have := longBody_length h
      refine .ok (x := .text _) trivial ?_ _
      simp only [Lexeme.room, List.length_drop] at *
      omega
    · exact .error _
  · split
    · rename_i body rest h
      exact .ok (x := .text _) trivial (shortBody_length h) _
    · exact .error _

theorem scanOp_sound (cs : List Char) : SoundScan cs.length (scanOp cs) := by
  have drop (n : Nat) (s : String) (taken : List Char) :
      SoundScan cs.length (.ok (.op s, taken, cs.drop n)) :=
    .plain (x := .op _) trivial rfl (List.drop_sublist n cs).length_le _
  unfold scanOp
  refine .ite (drop ..) (.ite (drop ..) ?_)
  split
  · exact .ite (.error _) (.plain (x := .op _) trivial rfl (Nat.le_succ _) _)
  · exact .error _

theorem isWordPart_of_isWordStart {c : Char} (hc : isWordStart c = true) : isWordPart c = true := by
  unfold isWordStart at hc
  unfold isWordPart Char.isAlphanum
  simp only [Bool.or_eq_true] at hc ⊢
  rcases hc with (hc | hc) | hc
  · exact .inl (.inl (.inl hc))
  · exact .inl (.inr hc)
  · exact .inr hc

theorem scanWord_sound {c : Char} (r : List Char) (hc : isWordStart c = true) :
    SoundScan (c :: r).length (scanWord (c :: r)) := by
  have hpart := isWordPart_of_isWordStart hc
  have hrest := (List.dropWhile_sublist (l := c :: r) isWordPart).length_le
  unfold scanWord
  dsimp only
  split
  · rename_i hid
    refine .plain (x := .word _) ⟨⟨c, r.takeWhile isWordPart, ?_, hc⟩, ?_, ?_⟩ rfl hrest _
    · rw [String.toList_ofList, List.takeWhile_cons, hpart]
      rfl
    · rw [String.toList_ofList]
      exact List.all_eq_true.mp List.all_takeWhile
    · rw [String.toList_ofList]
      exact hid
  · exact .error _

/-- A text that starts with letters in front of a quote starts with a letter. -/
theorem splitPrefix_front {cs letters r : List Char} {q : Char}
    (h : splitPrefix? cs = some (letters, q, r)) (hp : prefixFlags? letters = none) :
    ∃ c t, cs = c :: t ∧ isWordStart c = true := by
  have hletters : letters = (cs.take 3).takeWhile Char.isAlpha := by
    unfold splitPrefix? at h
    dsimp only at h
    split at h
    · split at h
      · cases h
        rfl
      · cases h
    · cases h
  cases cs with
  | nil =>
    rw [hletters] at hp
    cases hp
  | cons c t =>
    refine ⟨c, t, rfl, ?_⟩
    cases hc : c.isAlpha with
    | true =>
      unfold isWordStart
      rw [hc]
      rfl
    | false =>
      rw [hletters, List.take_succ_cons, List.takeWhile_cons, hc] at hp
      cases hp

theorem scanLexeme_sound (place : Place) (cs : List Char) :
    SoundScan cs.length (scanLexeme place cs) := by
  unfold scanLexeme
  split
  · rename_i letters q r hsplit
    split
    · exact (scanText_sound ..).mono (splitPrefix_length hsplit)
    · rename_i hp
      obtain ⟨c, t, rfl, hc⟩ := splitPrefix_front hsplit hp
      exact scanWord_sound t hc
  · split
    · rename_i c r _
      by_cases hc : isWordStart c = true
      · rw [if_pos hc]
        exact scanWord_sound r hc
      · rw [if_neg hc]
        exact .ite (scanNumber_sound _) (.ite (scanNumber_sound _) (scanOp_sound _))
    · exact scanOp_sound _

/-! ## Tokens -/

/-- The lexemes of all tokens are sound, and their texts have room among so many characters. -/
structure Lexed.Sound (n : Nat) (l : Lexed) : Prop where
  lexeme : ∀ t ∈ l.tokens, t.lexeme.Sound
  text : room l.tokens ≤ n

namespace Lexed.Sound

variable {n : Nat} {l l' : Lexed}

theorem stop (f : Option LexStop) : Sound n ⟨[], f⟩ := ⟨nofun, Nat.zero_le n⟩

theorem cons {t : Token} {m : Nat} (ht : t.lexeme.Sound) (hl : l.Sound m)
    (h : t.lexeme.room + m ≤ n) : (l.cons t).Sound n := by
  refine ⟨List.forall_mem_cons.mpr ⟨ht, hl.lexeme⟩, Nat.le_trans ?_ h⟩
  show room (t :: l.tokens) ≤ _
  rw [room_cons]
  exact Nat.add_le_add_left hl.text _

theorem ite {c : Prop} [Decidable c] (h : l.Sound n) (h' : l'.Sound n) :
    Sound n (if c then l else l') := by
  split
  · exact h
  · exact h'

theorem mono {m : Nat} (hl : l.Sound m) (h : m ≤ n) : l.Sound n :=
  ⟨hl.lexeme, Nat.le_trans hl.text h⟩

theorem marks {ms : List Lexeme} (hm : ∀ x ∈ ms, x.Sound ∧ x.room = 0) (p : Place)
    (hl : l.Sound n) : Sound n (ms.foldr (fun x rest => rest.cons ⟨x, p, p⟩) l) := by
  induction ms with
  | nil => exact hl
  | cons x ms ih =>
    obtain ⟨⟨hx, hroom⟩, hm⟩ := List.forall_mem_cons.mp hm
    exact .cons hx (ih hm) (Nat.le_of_eq (by rw [hroom, Nat.zero_add]))

end Lexed.Sound

theorem layout_marks {m : Indent} {indents rest : Indents} {marks : List Lexeme}
    (h : layout m indents = .ok (marks, rest)) : ∀ x ∈ marks, x.isLayout = true := by
  unfold layout at h
  generalize (if m.continued == 0 then (m.column, m.alternate)
    else (m.continued, m.continued)) = place at h
  obtain ⟨column, alternate⟩ := place
  dsimp only at h
  split at h
  · split at h
    · cases h
      exact nofun
    · cases h
  · split at h
    · split at h
      · cases h
      · split at h
        · cases h
        · cases h
          exact List.forall_mem_singleton.mpr rfl
    · split at h
      · cases h
      · split at h
        · cases h
        · cases h
          intro x hx
          rw [List.eq_of_mem_replicate hx]
          rfl

theorem Lexeme.sound_of_isLayout {x : Lexeme} (h : x.isLayout = true) : x.Sound ∧ x.room = 0 := by
  cases x with
  | newline | indent | dedent | stop => exact ⟨trivial, rfl⟩
  | _ => cases h

/-- Tokens are sound from the start of a line on, and from inside a line on. -/
theorem lexLines_sound (n : Nat) :
    (∀ indents b p cs, (lexLine n indents b p cs).Sound cs.length) ∧
      ∀ blank indents b p cs, (lexRest n blank indents b p cs).Sound cs.length := by
  induction n with
  | zero => exact ⟨fun _ _ _ _ => .stop _, fun _ _ _ _ _ => .stop _⟩
  | succ n ih =>
    obtain ⟨hline, hrest⟩ := ih
    constructor
    · intro indents b p cs
      unfold lexLine
      split
      · exact .stop _
      · rename_i m q rest hmeasure
        have hlen := measure_length hmeasure
        extract_lets blank
        refine .ite ((hrest ..).mono hlen) ?_
        split
        · exact .stop _
        · rename_i hl
          exact .marks (fun x hx => Lexeme.sound_of_isLayout (layout_marks hl x hx)) _
            ((hrest ..).mono hlen)
    · intro blank indents b p cs
      unfold lexRest
      split
      · split
        · exact .stop _
        · exact ⟨List.forall_mem_singleton.mpr trivial, Nat.zero_le _⟩
      · rename_i c r
        have hnext := (hline indents b (p.after c) r).mono (Nat.le_succ r.length)
        refine .ite ((hrest ..).mono (Nat.le_succ _)) (.ite ?_ (.ite ?_ (.ite ?_ ?_)))
        · exact (hrest ..).mono (List.drop_sublist ..).length_le
        · exact .ite hnext (.cons trivial hnext (Nat.le_of_eq (Nat.zero_add _)))
        · split
          · rename_i t
            exact .ite (.stop _) ((hrest ..).mono (Nat.le_add_right t.length 2))
          · exact .stop _
        · split
          · exact .stop _
          · rename_i x taken rest hscan
            obtain ⟨hx, hroom⟩ := (scanLexeme_sound p (c :: r)).sound _ _ _ hscan
            dsimp only
            split
            · split
              · exact .stop _
              · exact .cons hx (hrest ..) hroom
            · exact .cons hx (hrest ..) hroom

/-- The tokens of a source are sound, and their texts have room in it. -/
theorem lexFrom_sound {line : Nat} {cs : List Char} {ts : List Token}
    (h : (lexFrom line cs).tokens? = some ts) :
    (∀ t ∈ ts, t.lexeme.Sound) ∧ room ts ≤ cs.length := by
  unfold Lexed.tokens? at h
  split at h
  · cases h
    have sound := (lexLines_sound (2 * cs.length + 3)).1 [] [] ⟨line, 0⟩ cs
    exact ⟨sound.lexeme, sound.text⟩
  · cases h

end Syntax

end Exemplar
