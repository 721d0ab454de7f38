import Exemplar.Proofs.Lexer.Lexing
import Exemplar.Syntax.Escape
import Exemplar.Text.Quoted

/-
  Quoted texts are read back. Each character stands between the quotes as it is, behind a backslash
  or by its number (`Quoted`); none of the three ends the text, and each is undone by `unescape`.
-/

namespace Exemplar.Syntax

open Text
open Json (hexChar hex4)

/-! ## Hexadecimal digits -/

/-- The value of a hexadecimal digit. -/
def hexValue (c : Char) : Nat :=
  if isDigit c then c.toNat - 48 else if 'a' ≤ c then c.toNat - 87 else c.toNat - 55

theorem ofDigitsIn_eq (base : Nat) (ds : List Char) :
    ofDigitsIn base ds = ds.foldl (fun n c => base * n + hexValue c) 0 := rfl

theorem hexChar_digit : ∀ n < 16, isHexDigit (hexChar n) = true ∧ hexValue (hexChar n) = n := by
  decide

/-- Characters that stand for themselves between quotes. -/
def isPlainIn (q c : Char) : Bool := c != q && c != '\\' && staysOnLine c

theorem hexChar_plain :
    ∀ n < 16, isPlainIn '\'' (hexChar n) = true ∧ isPlainIn '"' (hexChar n) = true := by
  decide

/-- Hexadecimal digits of values. -/
def hexDigits (ns : List Nat) : List Char := ns.map hexChar

theorem takeUpTo_hexDigits {ns : List Nat} (h : ∀ n ∈ ns, n < 16) (rest : List Char) :
    takeUpTo isHexDigit ns.length (hexDigits ns ++ rest) = (hexDigits ns, rest) := by
  induction ns with
  | nil => cases rest <;> rfl
  | cons n ns ih =>
    have hn := (hexChar_digit n (h n (.head _))).1
    show takeUpTo isHexDigit (ns.length + 1) (hexChar n :: (hexDigits ns ++ rest)) = _
    unfold takeUpTo
    rw [if_pos hn, ih fun m hm => h m (.tail _ hm)]
    rfl

theorem ofDigitsIn_hexDigits {ns : List Nat} (h : ∀ n ∈ ns, n < 16) :
    ofDigitsIn 16 (hexDigits ns) = ns.foldl (fun m n => 16 * m + n) 0 := by
  rw [ofDigitsIn_eq]
  unfold hexDigits
  rw [List.foldl_map]
  generalize 0 = a
  induction ns generalizing a with
  | nil => rfl
  | cons n ns ih =>
    rw [List.foldl_cons, List.foldl_cons, (hexChar_digit n (h n (.head _))).2]
    exact ih (fun m hm => h m (.tail _ hm)) _

/-- The escape that a number in hexadecimal digits is read back from. -/
theorem hexEscape_hexDigits {ns : List Nat} (h : ∀ n ∈ ns, n < 16) {c : Char}
    (hc : ns.foldl (fun m n => 16 * m + n) 0 = c.toNat) (place : Nat) (reason : String)
    (rest : List Char) :
    hexEscape place ns.length reason (hexDigits ns ++ rest) = .ok ([c], rest) := by
  unfold hexEscape
  rw [takeUpTo_hexDigits h]
  have hlen : ¬(hexDigits ns).length < ns.length := by
    unfold hexDigits
    rw [List.length_map]
    exact Nat.lt_irrefl _
  simp only [hlen, if_false, ofDigitsIn_hexDigits h, hc]
  have hvalid : c.toNat < 0xd800 ∨ 0xdfff < c.toNat ∧ c.toNat < 0x110000 := c.valid
  rw [if_neg (by omega)]
  unfold charOfNumber
  have hb : (decide (0xd800 ≤ c.toNat) && decide (c.toNat < 0xe000)) = false := by
    simp only [Bool.and_eq_false_iff, decide_eq_false_iff_not]
    omega
  rw [hb, Char.ofNat_toNat]
  rfl

/-! ## One character between quotes -/

/-- How a character stands between quotes: as it is, behind a backslash, or by its number. -/
inductive Quoted (q c : Char) : List Char → Prop
  | plain (h : isPlainIn q c = true) : Quoted q c [c]
  | short (d : Char) (h : simpleEscape? d = some c) : Quoted q c ['\\', d]
  | number (kind : Char) (ns : List Nat) (hk : (kind, ns.length) ∈ [('x', 2), ('u', 4), ('U', 8)])
      (hns : ∀ n ∈ ns, n < 16) (h : ns.foldl (fun m n => 16 * m + n) 0 = c.toNat) :
      Quoted q c ('\\' :: kind :: hexDigits ns)

theorem quoted_quoteChar {q : Char} (hq : q = '\'' ∨ q = '"') (c : Char) :
    Quoted q c (quoteChar q c) := by
  have hn : c.toNat < 0x110000 := by
    have hvalid : c.toNat < 0xd800 ∨ 0xdfff < c.toNat ∧ c.toNat < 0x110000 := c.valid
    omega
  unfold quoteChar
  split
  · rename_i h
    refine .short c ?_
    simp only [Bool.or_eq_true, beq_iff_eq] at h
    rcases h with rfl | rfl
    · rcases hq with rfl | rfl <;> rfl
    · rfl
  rename_i hq'
  split
  · rename_i h
    rw [beq_iff_eq.mp h]
    exact .short 'n' rfl
  rename_i hline
  split
  · rename_i h
    rw [beq_iff_eq.mp h]
    exact .short 'r' rfl
  rename_i hreturn
  split
  · rename_i h
    rw [beq_iff_eq.mp h]
    exact .short 't' rfl
  split
  · rename_i hp
    refine .plain ?_
    have hnull : c ≠ '\x00' := fun hc => absurd (hc ▸ hp) (by decide)
    simp only [Bool.or_eq_true, beq_iff_eq, not_or] at hq' hline hreturn
    simp [isPlainIn, staysOnLine, hq'.1, hq'.2, hline, hreturn, hnull]
  split
  · refine .number 'x' [c.toNat / 16 % 16, c.toNat % 16] (.head _) ?_ ?_
    · simp only [List.mem_cons, List.not_mem_nil, or_false]
      rintro n (rfl | rfl) <;> omega
    · simp only [List.foldl_cons, List.foldl_nil]
      omega
  split
  · refine .number 'u' [c.toNat / 4096 % 16, c.toNat / 256 % 16, c.toNat / 16 % 16, c.toNat % 16]
      (.tail _ (.head _)) ?_ ?_
    · simp only [List.mem_cons, List.not_mem_nil, or_false]
      rintro n (rfl | rfl | rfl | rfl) <;> omega
    · simp only [List.foldl_cons, List.foldl_nil]
      omega
  · refine .number 'U' [c.toNat / 0x10000 / 4096 % 16, c.toNat / 0x10000 / 256 % 16,
      c.toNat / 0x10000 / 16 % 16, c.toNat / 0x10000 % 16,
      c.toNat / 4096 % 16, c.toNat / 256 % 16, c.toNat / 16 % 16, c.toNat % 16]
      (.tail _ (.tail _ (.head _))) ?_ ?_
    · simp only [List.mem_cons, List.not_mem_nil, or_false]
      rintro n (rfl | rfl | rfl | rfl | rfl | rfl | rfl | rfl) <;> omega
    · simp only [List.foldl_cons, List.foldl_nil]
      omega

/-! ## A text between quotes -/

theorem shortBody_plain {q c : Char} {r b rest : List Char} (hc : isPlainIn q c = true)
    (h : shortBody q r = .ok (b, rest)) : shortBody q (c :: r) = .ok (c :: b, rest) := by
  unfold isPlainIn at hc
  simp only [Bool.and_eq_true, bne_iff_ne] at hc
  obtain ⟨⟨hq, hslash⟩, hc⟩ := hc
  have hline : c ≠ '\n' := fun hn => absurd (hn ▸ hc) (by decide)
  rw [shortBody]
  · simp [hq, hline, h]
  · exact fun _ _ hs _ => hslash hs

theorem shortBody_plains {q : Char} {cs r b rest : List Char} (hcs : ∀ c ∈ cs, isPlainIn q c = true)
    (h : shortBody q r = .ok (b, rest)) : shortBody q (cs ++ r) = .ok (cs ++ b, rest) := by
  induction cs with
  | nil => exact h
  | cons c cs ih =>
    exact shortBody_plain (hcs c (.head _)) (ih fun x hx => hcs x (.tail _ hx))

theorem shortBody_escape {q c : Char} {r b rest : List Char}
    (h : shortBody q r = .ok (b, rest)) :
    shortBody q ('\\' :: c :: r) = .ok ('\\' :: c :: b, rest) := by
  rw [shortBody, h]

theorem hexDigits_plain {q : Char} (hq : q = '\'' ∨ q = '"') {ns : List Nat}
    (h : ∀ n ∈ ns, n < 16) :
    ∀ c ∈ hexDigits ns, isPlainIn q c = true := by
  intro c hc
  obtain ⟨n, hn, rfl⟩ := List.mem_map.mp hc
  rcases hq with rfl | rfl
  · exact (hexChar_plain n (h n hn)).1
  · exact (hexChar_plain n (h n hn)).2

theorem shortBody_quoted {q c : Char} {cs r b rest : List Char} (hq : q = '\'' ∨ q = '"')
    (hc : Quoted q c cs) (h : shortBody q r = .ok (b, rest)) :
    shortBody q (cs ++ r) = .ok (cs ++ b, rest) := by
  cases hc with
  | plain hc => exact shortBody_plain hc h
  | short d _ => exact shortBody_escape h
  | number kind ns _ hns _ => exact shortBody_escape (shortBody_plains (hexDigits_plain hq hns) h)

/-- The body of a quoted text ends at its closing quote. -/
theorem shortBody_quote {q : Char} (hq : q = '\'' ∨ q = '"') (cs rest : List Char) :
    shortBody q (cs.flatMap (quoteChar q) ++ q :: rest) = .ok (cs.flatMap (quoteChar q), rest) := by
  induction cs with
  | nil =>
    rcases hq with rfl | rfl <;> rfl
  | cons c cs ih =>
    rw [List.flatMap_cons, List.append_assoc]
    exact shortBody_quoted hq (quoted_quoteChar hq c) ih

/-! ## The text that is read back -/

theorem escape_number {c kind : Char} {ns : List Nat}
    (hk : (kind, ns.length) ∈ [('x', 2), ('u', 4), ('U', 8)]) (hns : ∀ n ∈ ns, n < 16)
    (h : ns.foldl (fun m n => 16 * m + n) 0 = c.toNat) (place : Nat) (rest : List Char) :
    escape place (kind :: (hexDigits ns ++ rest)) = .ok ([c], rest) := by
  have hex := fun reason => hexEscape_hexDigits hns h place reason rest
  simp only [List.mem_cons, Prod.mk.injEq, List.not_mem_nil, or_false] at hk
  rcases hk with ⟨rfl, hlen⟩ | ⟨rfl, hlen⟩ | ⟨rfl, hlen⟩ <;> rw [hlen] at hex <;> exact hex _

theorem escape_short {c d : Char} (h : simpleEscape? d = some c) (place : Nat) (rest : List Char) :
    escape place (d :: rest) = .ok ([c], rest) := by
  unfold escape
  simp only [h]

/-- A character between quotes is read back as itself. -/
theorem unescapeFrom_quoted {q c : Char} {cs r out : List Char} (hc : Quoted q c cs)
    (h : ∀ n place, r.length ≤ n → unescapeFrom n place r = .ok out) :
    ∀ n place, (cs ++ r).length ≤ n → unescapeFrom n place (cs ++ r) = .ok (c :: out) := by
  intro n place hn
  cases hc with
  | plain hc =>
    simp only [List.length_append, List.length_cons, List.length_nil] at hn
    obtain ⟨n, rfl⟩ : ∃ k, n = k + 1 := ⟨n - 1, by omega⟩
    unfold isPlainIn at hc
    simp only [Bool.and_eq_true, bne_iff_ne] at hc
    rw [List.singleton_append, unescapeFrom, if_neg (by simpa using hc.1.2), h n _ (by omega)]
    rfl
  | short d hd =>
    simp only [List.length_append, List.length_cons, List.length_nil] at hn
    obtain ⟨n, rfl⟩ : ∃ k, n = k + 1 := ⟨n - 1, by omega⟩
    show unescapeFrom (n + 1) place ('\\' :: d :: r) = _
    rw [unescapeFrom, if_pos (by decide), escape_short hd]
    show (do
      let more ← unescapeFrom n (place + escapePlaces (d :: r) r) r
      pure ([c] ++ more)) = _
    rw [h n _ (by omega)]
    rfl
  | number kind ns hk hns hv =>
    simp only [List.length_append, List.length_cons] at hn
    obtain ⟨n, rfl⟩ : ∃ k, n = k + 1 := ⟨n - 1, by omega⟩
    show unescapeFrom (n + 1) place ('\\' :: (kind :: (hexDigits ns ++ r))) = _
    rw [unescapeFrom, if_pos (by decide), escape_number hk hns hv]
    show (do
      let more ← unescapeFrom n (place + escapePlaces (kind :: (hexDigits ns ++ r)) r) r
      pure ([c] ++ more)) = _
    rw [h n _ (by omega)]
    rfl

/-- The text that is quoted is the text that is read back. -/
theorem unescape_quote {q : Char} (hq : q = '\'' ∨ q = '"') (cs : List Char) :
    unescape (cs.flatMap (quoteChar q)) = .ok cs := by
  have all : ∀ n place, (cs.flatMap (quoteChar q)).length ≤ n →
      unescapeFrom n place (cs.flatMap (quoteChar q)) = .ok cs := by
    induction cs with
    | nil => exact fun n _ _ => by cases n <;> rfl
    | cons c cs ih => exact unescapeFrom_quoted (quoted_quoteChar hq c) ih
  exact all _ 0 (Nat.le_refl _)

/-! ## The lexeme of a quoted text -/

theorem staysOnLine_of_quoted {q c : Char} {cs : List Char} (hq : q = '\'' ∨ q = '"')
    (h : Quoted q c cs) : ∀ x ∈ cs, staysOnLine x = true := by
  have plain : ∀ x, isPlainIn q x = true → staysOnLine x = true :=
    fun x hx => (Bool.and_eq_true_iff.mp hx).2
  cases h with
  | plain h => exact List.forall_mem_singleton.mpr (plain c h)
  | short d h =>
    refine List.forall_mem_cons.mpr ⟨rfl, List.forall_mem_singleton.mpr ?_⟩
    unfold staysOnLine
    simp only [Bool.and_eq_true, bne_iff_ne]
    refine ⟨⟨?_, ?_⟩, ?_⟩ <;> rintro rfl <;> cases h
  | number kind ns hk hns _ =>
    refine List.forall_mem_cons.mpr ⟨rfl, List.forall_mem_cons.mpr ⟨?_, fun x hx =>
      plain x (hexDigits_plain hq hns x hx)⟩⟩
    simp only [List.mem_cons, Prod.mk.injEq, List.not_mem_nil, or_false] at hk
    rcases hk with ⟨rfl, -⟩ | ⟨rfl, -⟩ | ⟨rfl, -⟩ <;> rfl

/-- The body of a quoted text does not begin with its quote. -/
theorem ne_quote_of_quoted {q c : Char} {cs : List Char} (hq : q = '\'' ∨ q = '"')
    (h : Quoted q c cs) : ∃ d r, cs = d :: r ∧ d ≠ q := by
  cases h with
  | plain h =>
    refine ⟨c, [], rfl, ?_⟩
    unfold isPlainIn at h
    simp only [Bool.and_eq_true, bne_iff_ne] at h
    exact h.1.1
  | short d _ => exact ⟨'\\', [d], rfl, by rcases hq with rfl | rfl <;> decide⟩
  | number kind ns _ _ _ =>
    exact ⟨'\\', kind :: hexDigits ns, rfl, by rcases hq with rfl | rfl <;> decide⟩

theorem scans_text {q : Char} (hq : q = '\'' ∨ q = '"') (cs : List Char) {rest : List Char}
    (hr : Behind endsWord rest) : Scans (q :: cs.flatMap (quoteChar q) ++ [q])
      (.text { body := cs.flatMap (quoteChar q) }) rest := by
  refine ⟨fun p => ?_, ⟨q, _, rfl, by rcases hq with rfl | rfl <;> rfl⟩, ?_⟩
  · have hsplit : ∀ r, splitPrefix? (q :: r) = some ([], q, r) := by
      intro r
      rcases hq with rfl | rfl <;> rfl
    have hbody : [q, q].isPrefixOf (cs.flatMap (quoteChar q) ++ q :: rest) = false := by
      cases cs with
      | nil =>
        obtain ⟨d, r, rfl, hd⟩ := hr
        unfold endsWord at hd
        simp only [Bool.and_eq_true, bne_iff_ne] at hd
        rcases hq with rfl | rfl <;> simp [List.isPrefixOf, hd.1.2.symm, hd.2.symm]
      | cons c cs =>
        obtain ⟨d, r, hd, hne⟩ := ne_quote_of_quoted hq (quoted_quoteChar hq c)
        rw [List.flatMap_cons, hd]
        simp [List.isPrefixOf, hne.symm]
    unfold scanLexeme
    rw [List.cons_append, List.cons_append, List.append_assoc, List.singleton_append, hsplit]
    simp only [prefixFlags?, List.map_nil]
    unfold scanText
    rw [if_neg (by rw [hbody]; exact Bool.false_ne_true), shortBody_quote hq]
    rfl
  · intro x hx
    simp only [List.cons_append, List.mem_cons, List.mem_append, List.mem_flatMap,
      List.not_mem_nil, or_false] at hx
    have quote : staysOnLine q = true := by rcases hq with rfl | rfl <;> rfl
    rcases hx with rfl | ⟨c, -, hx⟩ | rfl
    · exact quote
    · exact staysOnLine_of_quoted hq (quoted_quoteChar hq c) x hx
    · exact quote

theorem quoteFor_quote (cs : List Char) : quoteFor cs = '\'' ∨ quoteFor cs = '"' := by
  unfold quoteFor
  split
  · exact .inr rfl
  · exact .inl rfl

end Exemplar.Syntax
