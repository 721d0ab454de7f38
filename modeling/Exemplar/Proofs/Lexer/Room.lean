import Exemplar.Proofs.Except
import Exemplar.Syntax.Escape

/-
  How long the parts of a source are that its tokens take and leave, and how much of it its texts
  need: their bodies, each with a quote. Undoing escapes makes no text longer (`textOf_length`).
-/

namespace Exemplar.Syntax

/-- How much of a source the text of a lexeme needs: its body and a quote. -/
def Lexeme.room : Lexeme → Nat
  | .text q => q.body.length + 1
  | _ => 0

/-- How much of a source the texts of tokens need. -/
def room : List Token → Nat
  | [] => 0
  | t :: ts => t.lexeme.room + room ts

@[simp] theorem room_cons (t : Token) (ts : List Token) :
    room (t :: ts) = t.lexeme.room + room ts := rfl

/-! ## What scanning leaves -/

theorem digitsTail_length {digit : Char → Bool} {fault : Char → LexFault} {cs : List Char} :
    ∀ {ds rest}, digitsTail digit fault cs = .ok (ds, rest) → rest.length ≤ cs.length := by
  induction cs with
  | nil =>
    rintro ds rest ⟨⟩
    exact Nat.le_refl _
  | cons c r ih =>
    intro ds rest h
    have goOn : ∀ {ds rest}, (digitsTail digit fault r >>= fun x => pure (c :: x.1, x.2)) =
        Except.ok (ds, rest) → rest.length ≤ r.length := by
      intro ds rest h
      obtain ⟨⟨ds', rest'⟩, hr, h⟩ := bind_eq_ok.mp h
      cases h
      exact ih hr
    unfold digitsTail at h
    rw [List.length_cons]
    split at h
    · exact Nat.le_succ_of_le (goOn h)
    · split at h
      · split at h
        · split at h
          · exact Nat.le_succ_of_le (goOn h)
          · cases h
        · cases h
      · cases h
        exact Nat.le_refl _

/-- A body and the closing quote stand in front of the rest. -/
theorem shortBody_length {q : Char} {cs : List Char} :
    ∀ {b rest}, shortBody q cs = .ok (b, rest) → b.length + 1 + rest.length ≤ cs.length := by
  fun_induction shortBody q cs with
  | case1 | case3 | case5 | case7 => exact nofun
  | case2 c r b rest h ih | case6 c r _ _ _ b rest h ih =>
    rintro _ _ ⟨⟩
    have := ih h
    simp only [List.length_cons]
    omega
  | case4 c r =>
    rintro _ _ ⟨⟩
    simp only [List.length_nil, List.length_cons]
    omega

theorem longBody_length {q : Char} {cs : List Char} :
    ∀ {b rest}, longBody q cs = .ok (b, rest) → b.length + 1 + rest.length ≤ cs.length := by
  fun_induction longBody q cs with
  | case1 | case3 | case6 => exact nofun
  | case2 c r b rest h ih | case5 c r _ _ b rest h ih =>
    rintro _ _ ⟨⟩
    have := ih h
    simp only [List.length_cons]
    omega
  | case4 c r =>
    rintro _ _ ⟨⟩
    simp only [List.length_nil, List.length_cons, List.length_drop]
    omega

theorem splitPrefix_length {cs letters r : List Char} {q : Char}
    (h : splitPrefix? cs = some (letters, q, r)) : r.length ≤ cs.length := by
  unfold splitPrefix? at h
  dsimp only at h
  split at h
  · rename_i d t heq
    have hlen := congrArg List.length heq
    split at h
    · cases h
      simp only [List.length_drop, List.length_cons] at hlen
      omega
    · cases h
  · cases h

theorem measure_length {m m' : Indent} {p p' : Place} {cs rest : List Char} :
    measure m p cs = .ok (m', p', rest) → rest.length ≤ cs.length := by
  fun_induction measure m p cs with
  | case1 m p r ih | case2 m p r ih | case3 m p r ih =>
    exact fun h => Nat.le_succ_of_le (ih h)
  | case4 | case6 => exact nofun
  | case5 m p r _ ih => exact fun h => Nat.le_succ_of_le (Nat.le_succ_of_le (ih h))
  | case7 =>
    rintro ⟨⟩
    exact Nat.le_refl _

/-! ## Escapes -/

theorem takeUpTo_length (digit : Char → Bool) (n : Nat) (cs : List Char) :
    (takeUpTo digit n cs).2.length ≤ cs.length := by
  induction n generalizing cs with
  | zero => exact Nat.le_refl _
  | succ n ih =>
    cases cs with
    | nil => exact Nat.le_refl _
    | cons c r =>
      unfold takeUpTo
      split
      · exact Nat.le_succ_of_le (ih r)
      · exact Nat.le_refl _

theorem takeUpTo_cons {digit : Char → Bool} {c : Char} (hc : digit c = true) (n : Nat)
    (r : List Char) :
    takeUpTo digit (n + 1) (c :: r) = (c :: (takeUpTo digit n r).1, (takeUpTo digit n r).2) :=
  if_pos hc

theorem hexEscape_length {place count : Nat} {reason : String} {cs out rest : List Char}
    (h : hexEscape place count reason cs = .ok (out, rest)) :
    out.length + rest.length ≤ cs.length + 1 := by
  have hrest := takeUpTo_length isHexDigit count cs
  unfold hexEscape at h
  dsimp only at h
  split at h
  · cases h
  · split at h
    · cases h
    · cases h
      simp only [List.length_cons, List.length_nil]
      omega

theorem nameEscape_length {place : Nat} {cs out rest : List Char}
    (h : nameEscape place cs = .ok (out, rest)) : out.length + rest.length ≤ cs.length + 1 := by
  unfold nameEscape at h
  dsimp only at h
  split at h
  · rename_i r
    split at h
    · cases h
    · rename_i d t heq
      have hlen := congrArg List.length heq
      split at h
      · cases h
      · split at h
        · cases h
          simp only [List.length_drop, List.length_cons, List.length_nil] at hlen ⊢
          omega
        · cases h
  · cases h

/-- An escape stands for no more characters than it is written with. -/
theorem escape_length {place : Nat} {cs out rest : List Char}
    (h : escape place cs = .ok (out, rest)) : out.length + rest.length ≤ cs.length + 1 := by
  unfold escape at h
  split at h
  · cases h
    exact Nat.le_refl _
  · rename_i c r
    rw [List.length_cons]
    split at h
    · cases h
      simp only [List.length_cons, List.length_nil]
      omega
    split at h
    · cases h
      simp only [List.length_nil]
      omega
    split at h
    · rename_i hc
      rw [takeUpTo_cons hc] at h
      have hrest := takeUpTo_length isOctalDigit 2 r
      cases h
      simp only [List.length_cons, List.length_nil]
      omega
    split at h
    · exact Nat.le_succ_of_le (hexEscape_length h)
    split at h
    · exact Nat.le_succ_of_le (hexEscape_length h)
    split at h
    · exact Nat.le_succ_of_le (hexEscape_length h)
    split at h
    · exact Nat.le_succ_of_le (nameEscape_length h)
    · cases h
      simp only [List.length_cons, List.length_nil]
      omega

theorem unescapeFrom_length (n : Nat) :
    ∀ {place cs out}, unescapeFrom n place cs = .ok out → out.length ≤ cs.length := by
  induction n with
  | zero =>
    rintro _ _ _ ⟨⟩
    exact Nat.zero_le _
  | succ n ih =>
    intro place cs out h
    cases cs with
    | nil =>
      cases h
      exact Nat.zero_le _
    | cons c r =>
      rw [unescapeFrom] at h
      split at h
      · obtain ⟨⟨front, rest⟩, hfront, h⟩ := bind_eq_ok.mp h
        obtain ⟨more, hmore, h⟩ := bind_eq_ok.mp h
        cases h
        have := escape_length hfront
        have := ih hmore
        rw [List.length_append, List.length_cons]
        omega
      · obtain ⟨more, hmore, h⟩ := bind_eq_ok.mp h
        cases h
        exact Nat.succ_le_succ (ih hmore)

/-- Undoing escapes makes no text longer. -/
theorem textOf_length {raw : Bool} {body cs : List Char} (h : textOf raw body = .ok cs) :
    cs.length ≤ body.length := by
  unfold textOf at h
  split at h
  · cases h
    exact Nat.le_refl _
  · exact unescapeFrom_length _ h

end Exemplar.Syntax
