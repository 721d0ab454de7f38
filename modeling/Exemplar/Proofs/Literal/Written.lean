import Exemplar.Literal
import Exemplar.Proofs.Decimal.Text
import Exemplar.Proofs.Lexer.Numbers
import Exemplar.Proofs.Lexer.Quoted
import Exemplar.Proofs.Parser.Brackets

/-
  Lexing texts that nest. `Lexes d cs ls` says that a text is lexed as some lexemes wherever `d`
  more brackets can be opened and what follows ends an item; texts with commas between them and
  texts in brackets are lexed as their parts are.

  The text of a literal. `Written` says that a text is lexed and read as an item of a bracket;
  lists, tuples and dictionaries of such texts are such texts. The text of a literal is read as its
  tree (`written_toExpr`), unless a number in it has no text that is read as a number.
-/

namespace Exemplar.Syntax

open Exemplar.Syntax.Parser (commas separatedBy tupled)

/-- A sign that ends an item of a bracket, or the end of the line. -/
def endsItem (c : Char) : Bool := [',', ')', ']', '\x7d', ':', '\n'].contains c

theorem endsNumber_of_endsItem {c : Char} (h : endsItem c = true) : endsNumber c = true := by
  unfold endsItem at h
  rw [List.contains_iff_mem] at h
  simp only [List.mem_cons, List.not_mem_nil, or_false] at h
  rcases h with rfl | rfl | rfl | rfl | rfl | rfl <;> decide

/-- The text is lexed as the lexemes wherever so many brackets can be opened. -/
def Lexes (depth : Nat) (cs : List Char) (ls : List Lexeme) : Prop :=
  ∀ (line : Nat) (b : Brackets) (rest : List Char), b.length + depth ≤ 200 →
    Behind endsItem rest → Lexing line b (cs ++ rest) ls b rest

variable {depth : Nat} {cs : List Char} {ls : List Lexeme}

theorem Lexes.mono (h : Lexes depth cs ls) {more : Nat} (hd : depth ≤ more) :
    Lexes more cs ls :=
  fun line b rest hb hr => h line b rest (by omega) hr

/-- A lexeme that is no bracket. -/
theorem lexes_of_scans {x : Lexeme} (h : ∀ rest, Behind endsNumber rest → Scans cs x rest)
    (hx : ∀ s, x ≠ .op s) : Lexes 0 cs [x] := by
  intro line b rest _ hr
  refine .lexeme (h rest (hr.imp fun c hc => endsNumber_of_endsItem hc)) ?_ (.done b rest)
  cases x with
  | op s => exact absurd rfl (hx s)
  | _ => rfl

/-- A minus sign in front of a number. -/
theorem lexes_negative {x : Lexeme} (h : Lexes depth cs [x]) {d : Char} {r : List Char}
    (hcs : cs = d :: r) (hd : d ≠ '=') (hd' : d ≠ '>') :
    Lexes depth ('-' :: cs) [.op "-", x] := by
  intro line b rest hb hr
  subst hcs
  have minus : Scans ['-'] (.op "-") (d :: r ++ rest) := scans_before (.inl rfl) hd hd'
  rw [List.cons_append]
  exact .lexeme minus rfl (h line b rest hb hr)

/-! ## Texts with commas between them -/

variable {texts : List (List Char)} {items : List (List Lexeme)}

theorem lexing_comma {line : Nat} {b b' : Brackets} {cs rest : List Char} {ls : List Lexeme}
    (h : Lexing line b cs ls b' rest) :
    Lexing line b (',' :: cs) (.op "," :: ls) b' rest :=
  .lexeme (scans_bracket cs ',' (by decide)) rfl h

theorem behind_item {c : Char} {rest : List Char} (h : endsItem c = true) :
    Behind endsItem (c :: rest) := ⟨c, rest, rfl, h⟩

theorem lexes_joined (h : List.Forall₂ (Lexes depth) texts items) :
    Lexes depth (joinWith ", " texts) (separatedBy items) := by
  intro line b rest hb hr
  induction h with
  | nil => exact .done b rest
  | @cons cs ls texts items hx h ih =>
    cases h with
    | nil =>
      show Lexing line b (cs ++ rest) (ls ++ []) b rest
      rw [List.append_nil]
      exact hx line b rest hb hr
    | @cons ds ms texts items hy h =>
      have front := hx line b (',' :: ' ' :: (joinWith ", " (ds :: texts) ++ rest)) hb
        (behind_item (by decide))
      have all := front.append (lexing_comma (.blank ih))
      rw [show joinWith ", " (cs :: ds :: texts) ++ rest =
        cs ++ ',' :: ' ' :: (joinWith ", " (ds :: texts) ++ rest) by
          simp [joinWith, List.append_assoc]]
      exact all

theorem lexes_tupleItems (h : List.Forall₂ (Lexes depth) texts items) :
    Lexes depth (tupleItems texts) (tupled items) := by
  cases h with
  | nil => exact lexes_joined .nil
  | @cons cs ls texts items hx h =>
    cases h with
    | nil =>
      intro line b rest hb hr
      show Lexing line b (cs ++ [','] ++ rest) (ls ++ [.op ","]) b rest
      rw [List.append_assoc]
      exact (hx line b (',' :: rest) hb (behind_item (by decide))).append
        (lexing_comma (.done b rest))
    | cons hy h => exact lexes_joined (.cons hx (.cons hy h))

/-- A key and its value. -/
theorem lexes_entry {ds : List Char} {ms : List Lexeme} (hk : Lexes depth cs ls)
    (hv : Lexes depth ds ms) : Lexes depth (cs ++ ':' :: ' ' :: ds) (ls ++ .op ":" :: ms) := by
  intro line b rest hb hr
  have value : Lexing line b (':' :: ' ' :: (ds ++ rest)) (.op ":" :: ms) b rest :=
    .lexeme (scans_colon (ds ++ rest)) rfl (.blank (hv line b rest hb hr))
  rw [List.append_assoc]
  exact (hk line b _ hb (behind_item (by decide))).append value

/-- An argument by name. -/
theorem lexes_named {name : List Char} (hn : IsWord name) {d : Char} {r : List Char}
    (hcs : cs = d :: r) (hd : d ≠ '=') (hd' : d ≠ '>') (h : Lexes depth cs ls) :
    Lexes depth (name ++ '=' :: cs) (.word (String.ofList name) :: .op "=" :: ls) := by
  intro line b rest hb hr
  subst hcs
  have equals : Scans ['='] (.op "=") (d :: r ++ rest) := scans_before (.inr rfl) hd hd'
  have value : Lexing line b ('=' :: (d :: r ++ rest)) (.op "=" :: ls) b rest :=
    .lexeme equals rfl (h line b rest hb hr)
  rw [List.append_assoc]
  exact .lexeme (scans_word hn ⟨'=', _, rfl, by decide⟩) rfl value

/-! ## Texts in brackets -/

/-- A text in brackets is lexed whatever follows it. -/
theorem lexing_bracketed {o : Char} (ho : o = '(' ∨ o = '[' ∨ o = '\x7b') (h : Lexes depth cs ls)
    {line : Nat} {b : Brackets} (hb : b.length + (depth + 1) ≤ 200) (rest : List Char) :
    Lexing line b (o :: cs ++ [closerOf o] ++ rest)
      (.op (String.ofList [o]) :: ls ++ [.op (String.ofList [closerOf o])]) b rest := by
  have hmem : o ∈ ['(', ')', '[', ']', '\x7b', '\x7d', ','] := by
    rcases ho with rfl | rfl | rfl <;> decide
  have hclose : closerOf o ∈ ['(', ')', '[', ']', '\x7b', '\x7d', ','] := by
    rcases ho with rfl | rfl | rfl <;> decide
  have hopen : bracketsBehind b line (.op (String.ofList [o])) = .ok ((o, line) :: b) := by
    have hlen : ¬200 ≤ b.length := by omega
    rcases ho with rfl | rfl | rfl <;> exact if_neg hlen
  have hshut : bracketsBehind ((o, line) :: b) line (.op (String.ofList [closerOf o])) = .ok b := by
    rcases ho with rfl | rfl | rfl <;> rfl
  have inside : Lexing line ((o, line) :: b) (cs ++ closerOf o :: rest) ls ((o, line) :: b)
      (closerOf o :: rest) :=
    h line _ _ (by rw [List.length_cons]; omega)
      (behind_item (by rcases ho with rfl | rfl | rfl <;> decide))
  have closing : Lexing line ((o, line) :: b) (closerOf o :: rest)
      [.op (String.ofList [closerOf o])] b rest :=
    .lexeme (scans_bracket rest _ hclose) hshut (.done b rest)
  rw [List.cons_append, List.cons_append, List.append_assoc]
  exact .lexeme (scans_bracket _ o hmem) hopen (inside.append closing)

theorem lexes_bracketed {o : Char} (ho : o = '(' ∨ o = '[' ∨ o = '\x7b') (h : Lexes depth cs ls) :
    Lexes (depth + 1) (o :: cs ++ [closerOf o])
      (.op (String.ofList [o]) :: ls ++ [.op (String.ofList [closerOf o])]) :=
  fun _ _ rest hb _ => lexing_bracketed ho h hb rest

end Exemplar.Syntax

namespace Exemplar.Syntax

/-! ## Written items -/

open Exemplar.Syntax.Parser (Item Reads starts givesValue separatedBy tupled EntryReads)

/-- The text is lexed, where so many more brackets can be opened, as an item that is read as the
tree. -/
structure Written (depth : Nat) (cs : List Char) (u : Nat → Tree) : Prop where
  item : ∃ ls, Lexes depth cs ls ∧ Item ls u
  /-- No sign in front of the text is extended by it. -/
  front : ∃ c r, cs = c :: r ∧ c ≠ '=' ∧ c ≠ '>'
  begins : ∃ c r, cs = c :: r ∧ beginsLexeme c = true

variable {depth : Nat} {cs : List Char} {u : Nat → Tree} {texts : List (List Char)}
  {us : List (Nat → Tree)}

theorem Written.mono (h : Written depth cs u) {more : Nat} (hd : depth ≤ more) :
    Written more cs u := by
  obtain ⟨ls, hls, hi⟩ := h.item
  exact ⟨⟨ls, hls.mono hd, hi⟩, h.front, h.begins⟩

/-- The items of texts. -/
theorem Written.items (h : List.Forall₂ (Written depth) texts us) :
    ∃ items, List.Forall₂ (Lexes depth) texts items ∧ List.Forall₂ Item items us := by
  induction h with
  | nil => exact ⟨[], .nil, .nil⟩
  | cons hx _ ih =>
    obtain ⟨ls, hls, hi⟩ := hx.item
    obtain ⟨items, hitems, hus⟩ := ih
    exact ⟨ls :: items, .cons hls hitems, .cons hi hus⟩

/-- One lexeme that is no sign. -/
theorem written_lexeme {x : Lexeme} {f : Form}
    (hscan : ∀ rest, Behind endsNumber rest → Scans cs x rest) (hx : ∀ s, x ≠ .op s)
    (hread : Reads .atom [x] (.mk · f)) (hplain : Parser.Plain [x]) (hstarts : starts [x] = true)
    (hfront : ∃ c r, cs = c :: r ∧ c ≠ '=' ∧ c ≠ '>') : Written 0 cs (.mk · f) :=
  ⟨⟨[x], lexes_of_scans hscan hx, hread.test_of_atom hplain, hstarts⟩, hfront,
    (hscan ['\n'] ⟨'\n', [], rfl, by decide⟩).begins⟩

/-- A number with a minus sign. -/
theorem written_negative {c : Constant}
    (hscan : ∀ rest, Behind endsNumber rest → Scans cs (.number c) rest)
    (hfront : ∃ c r, cs = c :: r ∧ c ≠ '=' ∧ c ≠ '>') :
    Written 0 ('-' :: cs) (fun l => .mk l (.unary .minus (.mk l (.const c)))) := by
  obtain ⟨d, r, hcs, hd, hd'⟩ := hfront
  have plain : Parser.Plain [.number c] := ⟨List.cons_ne_nil _ _, fun s => by cases s <;> rfl⟩
  have reads := Parser.reads_negative (Parser.reads_number c) plain
  refine ⟨⟨[.op "-", .number c], lexes_negative (lexes_of_scans hscan nofun) hcs hd hd', ?_, rfl⟩,
    ⟨'-', cs, rfl, by decide, by decide⟩, '-', cs, rfl, rfl⟩
  exact (reads.bitOr_of_factor (List.cons_ne_nil _ _)).test_of_bitOr (List.cons_ne_nil _ _) rfl rfl

/-! ## Displays -/

section Displays

variable {ls : List Lexeme} {items : List (List Lexeme)}

theorem item_bracketed {o : Char} (ho : o = '(' ∨ o = '[' ∨ o = '\x7b')
    (hread : Reads .atom (.op (String.ofList [o]) :: ls) u) (hls : givesValue ls = false) :
    Item (.op (String.ofList [o]) :: ls) u := by
  have plain : Parser.Plain (.op (String.ofList [o]) :: ls) := by
    refine ⟨List.cons_ne_nil _ _, fun s => ?_⟩
    cases s with
    | named =>
      cases ls with
      | nil => rfl
      | cons y ms =>
        refine beq_false_of_ne ?_
        rintro rfl
        cases hls
    | factor | await | test | not => rcases ho with rfl | rfl | rfl <;> rfl
    | _ => rfl
  refine ⟨hread.test_of_atom plain, Bool.and_eq_true_iff.mpr ⟨?_, by rw [hls]; rfl⟩⟩
  rcases ho with rfl | rfl | rfl <;> decide

theorem separatedBy_givesValue (h : ∀ ls ∈ items, ∀ ms, givesValue (ls ++ ms) = false) {x : Lexeme}
    (hx : givesValue [x] = false) : givesValue (separatedBy items ++ [x]) = false := by
  cases items with
  | nil => exact hx
  | cons ls items =>
    show givesValue (ls ++ Parser.commas items ++ [x]) = false
    rw [List.append_assoc]
    exact h ls (.head _) _

theorem items_givesValue (h : List.Forall₂ Item items us) :
    ∀ ls ∈ items, ∀ ms, givesValue (ls ++ ms) = false := by
  induction h with
  | nil => exact nofun
  | cons hx _ ih => exact List.forall_mem_cons.mpr ⟨hx.not_givesValue, ih⟩

theorem written_bracketed {o : Char} (ho : o = '(' ∨ o = '[' ∨ o = '\x7b') (h : Lexes depth cs ls)
    (hread : Reads .atom (.op (String.ofList [o]) :: ls ++ [.op (String.ofList [closerOf o])]) u)
    (hls : givesValue (ls ++ [.op (String.ofList [closerOf o])]) = false) :
    Written (depth + 1) (o :: cs ++ [closerOf o]) u := by
  refine ⟨⟨_, lexes_bracketed ho h, item_bracketed ho hread hls⟩, ⟨o, _, rfl, ?_, ?_⟩,
    o, _, rfl, ?_⟩
  · rcases ho with rfl | rfl | rfl <;> decide
  · rcases ho with rfl | rfl | rfl <;> decide
  · rcases ho with rfl | rfl | rfl <;> rfl

theorem written_list (h : List.Forall₂ (Written depth) texts us) :
    Written (depth + 1) ('[' :: joinWith ", " texts ++ [']'])
      (fun l => .mk l (.list (us.map (· l)))) := by
  obtain ⟨items, hitems, hus⟩ := Written.items h
  exact written_bracketed (.inr (.inl rfl)) (lexes_joined hitems) (Parser.reads_list hus)
    (separatedBy_givesValue (items_givesValue hus) rfl)

theorem written_tuple (h : List.Forall₂ (Written depth) texts us) :
    Written (depth + 1) ('(' :: tupleItems texts ++ [')'])
      (fun l => .mk l (.tuple (us.map (· l)))) := by
  obtain ⟨items, hitems, hus⟩ := Written.items h
  refine written_bracketed (.inl rfl) (lexes_tupleItems hitems) (Parser.reads_tuple hus) ?_
  cases hus with
  | nil => rfl
  | @cons ls u items us hx hus =>
    cases hus with
    | nil =>
      show givesValue (ls ++ [.op ","] ++ [.op ")"]) = false
      rw [List.append_assoc]
      exact hx.not_givesValue _
    | cons hy hus => exact separatedBy_givesValue (items_givesValue (.cons hx (.cons hy hus))) rfl

/-- The text is that of an entry of a dictionary, read as the trees of its key and its value. -/
def WrittenEntry (depth : Nat) (cs : List Char) (u : Nat → Option Tree × Tree) : Prop :=
  ∃ ks vs k v, cs = ks ++ ':' :: ' ' :: vs ∧ Written depth ks k ∧ Written depth vs v ∧
    u = fun l => (some (k l), v l)

theorem written_dict {es : List (Nat → Option Tree × Tree)}
    (h : List.Forall₂ (WrittenEntry depth) texts es) :
    Written (depth + 1) ('\x7b' :: joinWith ", " texts ++ ['\x7d'])
      (fun l => .mk l (.dict (es.map (· l)))) := by
  have all : ∃ items, List.Forall₂ (Lexes depth) texts items ∧
      List.Forall₂ EntryReads items es ∧ ∀ ls ∈ items, ∀ ms, givesValue (ls ++ ms) = false := by
    induction h with
    | nil => exact ⟨[], .nil, .nil, nofun⟩
    | cons hx _ ih =>
      obtain ⟨ks, vs, k, v, rfl, hk, hv, rfl⟩ := hx
      obtain ⟨as, has, hik⟩ := hk.item
      obtain ⟨bs, hbs, hiv⟩ := hv.item
      obtain ⟨items, hitems, hes, hg⟩ := ih
      refine ⟨_ :: items, .cons (lexes_entry has hbs) hitems,
        .cons ⟨as, bs, k, v, rfl, hik, hiv, rfl⟩ hes, List.forall_mem_cons.mpr ⟨?_, hg⟩⟩
      intro ms
      rw [List.append_assoc]
      exact hik.not_givesValue _
  obtain ⟨items, hitems, hes, hg⟩ := all
  exact written_bracketed (.inr (.inr rfl)) (lexes_joined hitems) (Parser.reads_dict hes)
    (separatedBy_givesValue hg rfl)

end Displays

end Exemplar.Syntax
