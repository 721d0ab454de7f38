import Exemplar.Proofs.Parser.Reads

/-
  Lexing one line. `Lexing` composes the lexemes that are scanned one after another (`Scans`), with
  blanks between them and the brackets that they open and close; the tokens of a text of one line
  are those of its lexemes (`lex_of_lexing`). A word is scanned as a whole in front of what is no
  part of a word; a sign by itself in front of what does not extend it.
-/

namespace Exemplar.Syntax

/-- Whether a character begins a lexeme: it is no blank, starts no comment and ends no line. -/
def beginsLexeme (c : Char) : Bool := !isSkipped c && c != '#' && c != '\n' && c != '\\'

/-- Whether a text of one line can hold a character: it ends no line and is not the null
character. -/
def staysOnLine (c : Char) : Bool := c != '\n' && c != '\r' && c != '\x00'

/-- A lexeme is scanned off the front of a text on one line. -/
structure Scans (taken : List Char) (x : Lexeme) (rest : List Char) : Prop where
  scan : ∀ p, scanLexeme p (taken ++ rest) = .ok (x, taken, rest)
  begins : ∃ c r, taken = c :: r ∧ beginsLexeme c = true
  line : ∀ c ∈ taken, staysOnLine c = true

/-- The open brackets after a lexeme on a line. -/
def bracketsBehind (open' : Brackets) (line : Nat) : Lexeme → Except LexFault Brackets
  | .op s => bracketsAfter open' line s
  | _ => .ok open'

/-- Lexemes are read on a line from the front of a text, from some open brackets to others. -/
inductive Lexing (line : Nat) : Brackets → List Char → List Lexeme → Brackets → List Char → Prop
  | done (b : Brackets) (cs : List Char) : Lexing line b cs [] b cs
  | blank {b b' : Brackets} {cs rest : List Char} {ls : List Lexeme}
      (hr : Lexing line b cs ls b' rest) : Lexing line b (' ' :: cs) ls b' rest
  | lexeme {b b' b'' : Brackets} {taken cs rest : List Char} {x : Lexeme} {ls : List Lexeme}
      (h : Scans taken x cs) (hb : bracketsBehind b line x = .ok b')
      (hr : Lexing line b' cs ls b'' rest) : Lexing line b (taken ++ cs) (x :: ls) b'' rest

namespace Lexing

variable {line : Nat} {b b' b'' : Brackets} {cs cs' rest : List Char} {ls ms : List Lexeme}

theorem append (h : Lexing line b cs ls b' cs') (h' : Lexing line b' cs' ms b'' rest) :
    Lexing line b cs (ls ++ ms) b'' rest := by
  induction h with
  | done => exact h'
  | blank _ ih => exact .blank (ih h')
  | lexeme h hb _ ih => exact .lexeme h hb (ih h')

/-- Every lexeme takes a character. -/
theorem length_le (h : Lexing line b cs ls b' rest) : ls.length + rest.length ≤ cs.length := by
  induction h with
  | done => simp
  | blank _ ih =>
    rw [List.length_cons]
    omega
  | @lexeme b b' b'' taken cs rest x ls h _ _ ih =>
    obtain ⟨c, r, rfl, -⟩ := h.begins
    simp only [List.length_append, List.length_cons]
    omega

end Lexing

theorem line_afterAll (p : Place) {cs : List Char} (h : ∀ c ∈ cs, staysOnLine c = true) :
    (p.afterAll cs).line = p.line := by
  unfold Place.afterAll
  induction cs generalizing p with
  | nil => rfl
  | cons c cs ih =>
    rw [List.foldl_cons, ih _ fun x hx => h x (.tail _ hx)]
    have hc : (c == '\n') = false :=
      beq_false_of_ne fun hc => absurd (hc ▸ h c (.head _)) (by decide)
    unfold Place.after
    rw [if_neg (by rw [hc]; exact Bool.false_ne_true)]

theorem staysOnLine_of_lexing {line : Nat} {b b' : Brackets} {cs rest : List Char}
    {ls : List Lexeme} (h : Lexing line b cs ls b' rest) :
    ∃ front, cs = front ++ rest ∧ ∀ c ∈ front, staysOnLine c = true := by
  induction h with
  | done => exact ⟨[], rfl, nofun⟩
  | blank _ ih =>
    obtain ⟨front, rfl, h⟩ := ih
    exact ⟨' ' :: front, rfl, List.forall_mem_cons.mpr ⟨rfl, h⟩⟩
  | @lexeme b b' b'' taken cs rest x ls ht _ _ ih =>
    obtain ⟨front, rfl, h⟩ := ih
    exact ⟨taken ++ front, (List.append_assoc ..).symm, List.forall_mem_append.mpr ⟨ht.line, h⟩⟩

/-- Tokens in front of others. -/
def Lexed.prepend (ts : List Token) (l : Lexed) : Lexed := ⟨ts ++ l.tokens, l.fault⟩

theorem lexRest_blank (n : Nat) (indents : Indents) (b : Brackets) (p : Place) (cs : List Char) :
    lexRest (n + 1) false indents b p (' ' :: cs) = lexRest n false indents b (p.after ' ') cs :=
  rfl

/-- A lexeme that is scanned becomes a token, unless its bracket is refused. -/
theorem lexRest_scans {taken cs : List Char} {x : Lexeme} (h : Scans taken x cs) (n : Nat)
    (indents : Indents) (b : Brackets) (p : Place) :
    lexRest (n + 1) false indents b p (taken ++ cs) =
      match bracketsBehind b p.line x with
      | .ok b' => (lexRest n false indents b' (p.afterAll taken) cs).cons ⟨x, p, p.afterAll taken⟩
      | .error f => ⟨[], some ⟨f, p.line, b.head?⟩⟩ := by
  obtain ⟨c, r, rfl, hc⟩ := h.begins
  have hs := h.scan p
  unfold beginsLexeme at hc
  simp only [Bool.and_eq_true, Bool.not_eq_true', bne_iff_ne] at hc
  obtain ⟨⟨⟨hblank, hcomment⟩, hline⟩, hslash⟩ := hc
  rw [List.cons_append] at hs ⊢
  conv => lhs; unfold lexRest
  simp only [hblank, Bool.false_eq_true, if_false, beq_false_of_ne hcomment, beq_false_of_ne hline,
    beq_false_of_ne hslash, hs]
  cases x with
  | op sign =>
    dsimp only [bracketsBehind]
    cases bracketsAfter b p.line sign <;> rfl
  | _ => rfl

open Exemplar.Syntax.Parser in
/-- The tokens of lexemes that are read on a line; the steps left over are at least those that were
left over before. -/
theorem lexRest_of_lexing {line : Nat} {b b' : Brackets} {cs rest : List Char} {ls : List Lexeme}
    (h : Lexing line b cs ls b' rest) (indents : Indents) (k : Nat) : ∀ (n : Nat) (p : Place),
    cs.length + k ≤ n → p.line = line → ∃ (m : Nat) (q : Place) (ts : List Token),
      rest.length + k ≤ m ∧ q.line = line ∧ Spells line ts ls ∧
      lexRest n false indents b p cs = (lexRest m false indents b' q rest).prepend ts := by
  induction h with
  | done b cs => exact fun n p hn hp => ⟨n, p, [], hn, hp, .nil, rfl⟩
  | @blank b b' cs rest ls _ ih =>
    intro n p hn hp
    simp only [List.length_cons] at hn
    obtain ⟨n, rfl⟩ : ∃ k, n = k + 1 := ⟨n - 1, by omega⟩
    obtain ⟨m, q, ts, hm, hq, hts, heq⟩ := ih n (p.after ' ') (by omega) hp
    exact ⟨m, q, ts, hm, hq, hts, (lexRest_blank n indents b p cs).trans heq⟩
  | @lexeme b b' b'' taken cs rest x ls h hb _ ih =>
    intro n p hn hp
    subst hp
    have hlen : cs.length + k + 1 ≤ n := by
      obtain ⟨c, r, rfl, -⟩ := h.begins
      simp only [List.length_append, List.length_cons] at hn
      omega
    obtain ⟨n, rfl⟩ : ∃ k, n = k + 1 := ⟨n - 1, by omega⟩
    obtain ⟨m, q, ts, hm, hq, hts, heq⟩ :=
      ih n (p.afterAll taken) (by omega) (line_afterAll p h.line)
    refine ⟨m, q, ⟨x, p, p.afterAll taken⟩ :: ts, hm, hq, hts.cons rfl rfl, ?_⟩
    rw [lexRest_scans h, hb]
    dsimp only
    rw [heq]
    rfl

theorem measure_begins {c : Char} (h : beginsLexeme c = true) (p : Place) (r : List Char) :
    measure {} p (c :: r) = .ok ({}, p, c :: r) := by
  unfold beginsLexeme isSkipped at h
  simp only [Bool.and_eq_true, Bool.not_eq_true', Bool.or_eq_false_iff, bne_iff_ne,
    beq_eq_false_iff_ne] at h
  obtain ⟨⟨⟨⟨⟨h1, h2⟩, h3⟩, -⟩, -⟩, h4⟩ := h
  unfold measure
  split
  · exact absurd (List.cons.inj ‹_›).1 h1
  · exact absurd (List.cons.inj ‹_›).1 h2
  · exact absurd (List.cons.inj ‹_›).1 h3
  · exact absurd (List.cons.inj ‹_›).1 h4
  · exact absurd (List.cons.inj ‹_›).1 h4
  · rfl

/-- The end of the last line. -/
theorem lexRest_end (n : Nat) (p : Place) : ∃ newline stop : Token,
    newline.lexeme = .newline ∧ stop.lexeme = .stop ∧
      lexRest (n + 3) false [] [] p ['\n'] = ⟨[newline, stop], none⟩ :=
  ⟨_, _, rfl, rfl, rfl⟩

theorem lexLine_begins {c : Char} (hc : beginsLexeme c = true) (n : Nat) (p : Place)
    (r : List Char) : lexLine (n + 1) [] [] p (c :: r) = lexRest n false [] [] p (c :: r) := by
  have hblank : (c == '#' || c == '\n') = false := by
    unfold beginsLexeme at hc
    simp only [Bool.and_eq_true, bne_iff_ne] at hc
    simp only [Bool.or_eq_false_iff, beq_eq_false_iff_ne]
    exact ⟨hc.1.1.2, hc.1.2⟩
  conv => lhs; unfold lexLine
  simp only [measure_begins hc, hblank]
  rfl

open Exemplar.Syntax.Parser in
/-- The tokens of a text of one line. -/
theorem lex_of_lexing {c : Char} {r : List Char} {ls : List Lexeme} (hc : beginsLexeme c = true)
    (h : Lexing 1 [] (c :: r ++ ['\n']) ls [] ['\n']) : ∃ (ts : List Token) (newline stop : Token),
      Spells 1 ts ls ∧ newline.lexeme = .newline ∧ stop.lexeme = .stop ∧
      (lex (c :: r ++ ['\n'])).tokens? = some (ts ++ [newline, stop]) := by
  obtain ⟨m, q, ts, hm, -, hts, heq⟩ := lexRest_of_lexing h [] 2
    (2 * (c :: r ++ ['\n']).length + 2) ⟨1, 0⟩ (by omega) rfl
  obtain ⟨m, rfl⟩ : ∃ k, m = k + 3 := ⟨m - 3, by simp only [List.length_cons] at hm; omega⟩
  obtain ⟨newline, stop, hnewline, hstop, hend⟩ := lexRest_end m q
  refine ⟨ts, newline, stop, hts, hnewline, hstop, ?_⟩
  have hlex : lex (c :: r ++ ['\n']) = ⟨ts ++ [newline, stop], none⟩ := by
    unfold lex lexFrom
    rw [List.cons_append, lexLine_begins hc]
    rw [hend] at heq
    exact heq
  rw [hlex]
  rfl

/-! ## Words -/

/-- The characters make a word. -/
structure IsWord (cs : List Char) : Prop where
  start : ∃ c r, cs = c :: r ∧ isWordStart c = true
  part : ∀ c ∈ cs, isWordPart c = true
  identifier : badIdentifierChar? cs = none

instance (cs : List Char) : Decidable (IsWord cs) :=
  decidable_of_iff (cs.head?.any isWordStart = true ∧ cs.all isWordPart = true ∧
      badIdentifierChar? cs = none) <| by
    rw [Option.any_eq_true, List.all_eq_true]
    constructor
    · rintro ⟨⟨c, hc, hstart⟩, hpart, hid⟩
      obtain ⟨r, hr⟩ := List.head?_eq_some_iff.1 hc
      exact ⟨⟨c, r, hr, hstart⟩, hpart, hid⟩
    · rintro ⟨⟨c, r, rfl, hstart⟩, hpart, hid⟩
      exact ⟨⟨c, rfl, hstart⟩, hpart, hid⟩

/-- A character that neither goes on with a word nor begins a text. -/
def endsWord (c : Char) : Bool := !isWordPart c && c != '\'' && c != '"'

/-- The text is at its end or goes on with a character of some kind. -/
def Behind (p : Char → Bool) (rest : List Char) : Prop := ∃ c r, rest = c :: r ∧ p c = true

theorem isWordPart_of_isAlpha {c : Char} (h : c.isAlpha = true) : isWordPart c = true := by
  unfold isWordPart Char.isAlphanum
  rw [h]
  rfl

theorem ne_quote_of_isWordPart {c : Char} (h : isWordPart c = true) : c ≠ '\'' ∧ c ≠ '"' :=
  ⟨fun hc => absurd (hc ▸ h) (by decide), fun hc => absurd (hc ▸ h) (by decide)⟩

theorem staysOnLine_of_isWordPart {c : Char} (h : isWordPart c = true) : staysOnLine c = true := by
  unfold staysOnLine
  simp only [Bool.and_eq_true, bne_iff_ne]
  refine ⟨⟨?_, ?_⟩, ?_⟩ <;> rintro rfl <;> exact absurd h (by decide)

theorem splitPrefix_none {cs rest : List Char} (h : ∀ c ∈ cs, isWordPart c = true)
    (hr : Behind endsWord rest) : splitPrefix? (cs ++ rest) = none := by
  obtain ⟨d, r, rfl, hd⟩ := hr
  unfold endsWord at hd
  simp only [Bool.and_eq_true, Bool.not_eq_true', bne_iff_ne] at hd
  obtain ⟨⟨hpart, hq⟩, hqq⟩ := hd
  -- The letters in front are among the word, and what stands behind them is no quote.
  have key : ∀ (n : Nat) (cs : List Char), (∀ c ∈ cs, isWordPart c = true) →
      ∃ e t, (cs ++ d :: r).drop (((cs ++ d :: r).take n).takeWhile Char.isAlpha).length = e :: t ∧
        e ≠ '\'' ∧ e ≠ '"' := by
    intro n
    induction n with
    | zero =>
      intro cs h
      cases cs with
      | nil => exact ⟨d, r, rfl, hq, hqq⟩
      | cons c cs => exact ⟨c, cs ++ d :: r, rfl, ne_quote_of_isWordPart (h c (.head _))⟩
    | succ n ih =>
      intro cs h
      cases cs with
      | nil =>
        have hd : d.isAlpha = false := Bool.eq_false_iff.mpr fun ha => by
          rw [isWordPart_of_isAlpha ha] at hpart
          cases hpart
        refine ⟨d, r, ?_, hq, hqq⟩
        simp [hd]
      | cons c cs =>
        cases hc : c.isAlpha with
        | false =>
          refine ⟨c, cs ++ d :: r, ?_, ne_quote_of_isWordPart (h c (.head _))⟩
          simp [hc]
        | true =>
          obtain ⟨e, t, he, hne⟩ := ih cs fun x hx => h x (.tail _ hx)
          refine ⟨e, t, ?_, hne⟩
          simpa [hc] using he
  obtain ⟨e, t, he, he1, he2⟩ := key 3 cs h
  unfold splitPrefix?
  simp only [he]
  rw [if_neg]
  simp [he1, he2]

theorem takeWhile_word {cs rest : List Char} (h : ∀ c ∈ cs, isWordPart c = true)
    (hr : Behind endsWord rest) :
    (cs ++ rest).takeWhile isWordPart = cs ∧ (cs ++ rest).dropWhile isWordPart = rest := by
  obtain ⟨d, r, rfl, hd⟩ := hr
  unfold endsWord at hd
  simp only [Bool.and_eq_true, Bool.not_eq_true', bne_iff_ne] at hd
  constructor
  · rw [List.takeWhile_append_of_pos h, List.takeWhile_cons, hd.1.1]
    simp
  · rw [List.dropWhile_append_of_pos h, List.dropWhile_cons, hd.1.1]
    simp

theorem beginsLexeme_of_isWordStart {c : Char} (h : isWordStart c = true) :
    beginsLexeme c = true := by
  unfold beginsLexeme isSkipped
  simp only [Bool.and_eq_true, Bool.not_eq_true', Bool.or_eq_false_iff, bne_iff_ne,
    beq_eq_false_iff_ne]
  refine ⟨⟨⟨⟨⟨?_, ?_⟩, ?_⟩, ?_⟩, ?_⟩, ?_⟩ <;> rintro rfl <;> exact absurd h (by decide)

theorem scans_word {cs rest : List Char} (h : IsWord cs) (hr : Behind endsWord rest) :
    Scans cs (.word (String.ofList cs)) rest := by
  obtain ⟨c, r, rfl, hc⟩ := h.start
  refine ⟨fun p => ?_, ⟨c, r, rfl, beginsLexeme_of_isWordStart hc⟩, fun x hx =>
    staysOnLine_of_isWordPart (h.part x hx)⟩
  have htake := takeWhile_word h.part hr
  unfold scanLexeme
  rw [splitPrefix_none h.part hr]
  simp only [List.cons_append, hc, if_true]
  unfold scanWord
  rw [List.cons_append] at htake
  simp only [htake.1, htake.2, h.identifier]

/-! ## Signs -/

/-- Whether a character in front of others is a sign by itself. -/
def standsAlone (c : Char) (rest : List Char) : Bool :=
  beginsLexeme c && !isWordStart c && !isDigit c && c != '.' && c != '\'' && c != '"' &&
    !(c.toNat < 32 || c.toNat == 127) &&
    (threeCharOps ++ twoCharOps).all fun s => !(s.toList.take 2).isPrefixOf (c :: rest)

theorem not_contains_take {ops : List String} {cs : List Char} (n : Nat) (hn : 2 ≤ n)
    (h : ops.all (fun s => !(s.toList.take 2).isPrefixOf cs) = true) :
    ops.contains (String.ofList (cs.take n)) = false := by
  refine Bool.eq_false_iff.mpr fun hc => ?_
  have hmem := List.contains_iff_mem.mp hc
  have hs := List.all_eq_true.mp h _ hmem
  rw [String.toList_ofList, List.take_take, Nat.min_eq_left hn] at hs
  have : (cs.take 2).isPrefixOf cs = true := List.isPrefixOf_iff_prefix.mpr (List.take_prefix 2 cs)
  rw [this] at hs
  cases hs

theorem scans_sign {c : Char} {rest : List Char} (h : standsAlone c rest = true) :
    Scans [c] (.op (String.ofList [c])) rest := by
  unfold standsAlone at h
  simp only [Bool.and_eq_true, Bool.not_eq_true', bne_iff_ne, List.all_append] at h
  obtain ⟨⟨⟨⟨⟨⟨⟨hbegins, hword⟩, hdigit⟩, hdot⟩, hq⟩, hqq⟩, hcontrol⟩, hthree, htwo⟩ := h
  have hletter : c.isAlpha = false := by
    unfold isWordStart at hword
    simp only [Bool.or_eq_false_iff] at hword
    exact hword.1.1
  refine ⟨fun p => ?_, ⟨c, [], rfl, hbegins⟩, List.forall_mem_singleton.mpr ?_⟩
  · have hsplit : splitPrefix? (c :: rest) = none := by
      unfold splitPrefix?
      simp [hletter, hq, hqq]
    unfold scanLexeme
    rw [List.singleton_append, hsplit]
    simp only [hword, hdigit, beq_false_of_ne hdot, Bool.false_and, Bool.false_eq_true, if_false]
    unfold scanOp
    simp only [not_contains_take 3 (by decide) hthree, not_contains_take 2 (by decide) htwo,
      Bool.false_eq_true, if_false, hcontrol]
  · unfold staysOnLine
    simp only [Bool.and_eq_true, bne_iff_ne]
    refine ⟨⟨?_, ?_⟩, ?_⟩ <;> rintro rfl
    · cases hbegins
    · cases hcontrol
    · cases hcontrol

theorem scans_bracket (rest : List Char) : ∀ c ∈ ['(', ')', '[', ']', '\x7b', '\x7d', ','],
    Scans [c] (.op (String.ofList [c])) rest := by
  intro c hc
  refine scans_sign ?_
  simp only [List.mem_cons, List.not_mem_nil, or_false] at hc
  rcases hc with rfl | rfl | rfl | rfl | rfl | rfl | rfl <;> rfl

theorem scans_colon (rest : List Char) : Scans [':'] (.op ":") (' ' :: rest) := scans_sign rfl

/-- A sign that an equality sign or a greater sign would extend. -/
theorem scans_before {c d : Char} {rest : List Char} (hc : c = '-' ∨ c = '=') (hd : d ≠ '=')
    (hd' : d ≠ '>') : Scans [c] (.op (String.ofList [c])) (d :: rest) := by
  refine scans_sign ?_
  have h1 : ('=' == d) = false := beq_false_of_ne hd.symm
  have h2 : ('>' == d) = false := beq_false_of_ne hd'.symm
  rcases hc with rfl | rfl <;>
    simp [standsAlone, threeCharOps, twoCharOps, List.isPrefixOf, h1, h2] <;> decide

end Exemplar.Syntax
