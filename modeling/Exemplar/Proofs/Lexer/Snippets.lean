import Exemplar.Proofs.Lexer.Lexing
import Exemplar.Proofs.LineIndex
import Exemplar.Proofs.Parser.Brackets
import Exemplar.Syntax.Parser.Stmt

/-
  Texts of one expression. A text of one line whose lexemes are read as a tree is parsed as that
  tree: there is fuel for every lexeme, since each takes a character (`parseTree_of_reads`).

  Texts in snippets: words, signs and blanks, one behind the other. Where no snippet runs into the
  next (`Fit`), the text is lexed snippet by snippet, and how far that goes is decided by the
  brackets alone (`openAfter`): if all that are opened are closed, the text is parsed as the tree
  that its lexemes are read as (`parseTree_of_fit`); if one is left open, closed twice or one too
  many inside others, it is not parsed at all (`parseTree_eq_none_of_fit`). No line feed has to end
  the text.
-/

namespace Exemplar.Syntax

/-! ## Texts of one expression -/

namespace Parser

variable {t : Token} {ts rest : List Token}

theorem mark_runs {m : Lexeme} (h : t.lexeme = m) : Runs (mark m) (t :: ts) () ts :=
  take_runs (by rw [h]; exact if_pos (beq_self_eq_true m))

theorem mark_fails {m : Lexeme} (h : front ts ≠ m) : Fails (mark m) ts :=
  take_fails (if_neg fun hm => h (eq_of_beq hm))

/-- A repetition with one round. -/
theorem many_runs_one {α : Type} {p : Parser α} {a : α} (hp : Runs p ts a rest)
    (hlt : rest.length < ts.length) (hend : Fails p rest) : Runs (many p) ts [a] rest := by
  have rounds : Rounds (fun done => maybe ((· :: done) <$> p)) ts [] [a] rest :=
    .more (maybe_some (hp.map _)) hlt (.done (maybe_none (Fails.map _ hend)))
  exact rounds.loop.map List.reverse

theorem ends_newline {s : Strength} : Ends s .newline := by
  intro k _
  cases k <;> rfl

end Parser

section

open Exemplar.Syntax.Parser

variable {cs : List Char} {ls : List Lexeme} {u : Nat → Tree}

/-- A text is parsed as the tree that its lexemes are read as, where nothing but line ends stands
behind them. -/
theorem parseTree_of_lex {ts behind : List Token} {stop : Token} {lines : List Unit}
    (htokens : (lex cs).tokens? = some (ts ++ behind)) (hts : Spells 1 ts ls)
    (hread : Reads .test ls u) (hlen : ls.length ≤ cs.length) (hends : Ends .test (front behind))
    (hcomma : front behind ≠ .op ",") (hlines : Runs (many (mark .newline)) behind lines [stop])
    (hstop : stop.lexeme = .stop) : parseTree? cs = some (u 1) := by
  obtain ⟨n, hn⟩ : ∃ n, n = stepsFor cs.length := ⟨_, rfl⟩
  have hfuel : 20 * ls.length ≤ n := by
    rw [hn]
    unfold stepsFor
    omega
  have one : Runs (expr n .test) (ts ++ behind) (u 1) behind :=
    hread 1 n ts behind hts hends (by omega)
  have list : Runs (commaList (expr n .test)) (ts ++ behind) ([u 1], false) behind :=
    commaList_runs one (.none (sign_fails hcomma)) hcomma
  have whole : Runs (do
      let e ← expressions (expr n)
      discard (many (mark .newline))
      mark .stop
      return e) (ts ++ behind) (u 1) [] :=
    (list.map tupleUnlessOne).bind ((discard_runs hlines).bind ((mark_runs hstop).bind .pure))
  unfold parseTree?
  rw [htokens, ← hn]
  exact congrArg (fun o => o.bind fun r => some r.1) whole

/-- A text of one line is parsed as the tree that its lexemes are read as. -/
theorem parseTree_of_reads {c : Char} {r : List Char} (hc : beginsLexeme c = true)
    (hlex : Lexing 1 [] (c :: r ++ ['\n']) ls [] ['\n']) (hread : Reads .test ls u) :
    parseTree? (c :: r ++ ['\n']) = some (u 1) := by
  obtain ⟨ts, newline, stop, hts, hnewline, hstop, htokens⟩ := lex_of_lexing hc hlex
  have hlen := hlex.length_le
  have hfront : front [newline, stop] = .newline := hnewline
  have lineEnds : Runs (many (mark .newline)) [newline, stop] [()] [stop] :=
    many_runs_one (mark_runs hnewline) (Nat.lt_succ_self _)
      (mark_fails (by rw [show front [stop] = .stop from hstop]; exact nofun))
  exact parseTree_of_lex htokens hts hread (by omega) (hfront ▸ ends_newline)
    (by rw [hfront]; exact nofun) lineEnds hstop

end

/-! ## Snippets -/

/-- A part of a text that is lexed by itself. -/
inductive Snippet
  | word (cs : List Char)
  | dots
  | sign (c : Char)
  | blank

namespace Snippet

def text : Snippet → List Char
  | .word cs => cs
  | .dots => "...".toList
  | .sign c => [c]
  | .blank => [' ']

def lexeme? : Snippet → Option Lexeme
  | .word cs => some (.word (String.ofList cs))
  | .dots => some (.op "...")
  | .sign c => some (.op (String.ofList [c]))
  | .blank => none

/-- The text of snippets. -/
def layOut (ps : List Snippet) : List Char := ps.flatMap text

/-- The lexemes of snippets. -/
def lexemesOf (ps : List Snippet) : List Lexeme := ps.filterMap lexeme?

@[simp] theorem layOut_nil : layOut [] = [] := rfl

@[simp] theorem layOut_cons (p : Snippet) (ps : List Snippet) :
    layOut (p :: ps) = p.text ++ layOut ps :=
  rfl

@[simp] theorem layOut_append (ps qs : List Snippet) : layOut (ps ++ qs) = layOut ps ++ layOut qs :=
  List.flatMap_append

@[simp] theorem lexemesOf_nil : lexemesOf [] = [] := rfl

@[simp] theorem lexemesOf_cons (p : Snippet) (ps : List Snippet) :
    lexemesOf (p :: ps) = p.lexeme?.toList ++ lexemesOf ps := by
  unfold lexemesOf
  cases h : p.lexeme? <;> simp [h]

@[simp] theorem lexemesOf_append (ps qs : List Snippet) :
    lexemesOf (ps ++ qs) = lexemesOf ps ++ lexemesOf qs :=
  List.filterMap_append

/-- The snippet is a word. -/
def IsWord : Snippet → Prop
  | .word _ => True
  | _ => False

/-- The snippet is lexed by itself in front of others. -/
def StandsBefore (rest : List Snippet) : Snippet → Prop
  | .word cs => Syntax.IsWord cs ∧ ∀ p ∈ rest.head?, ¬ p.IsWord
  | .sign c => c ∈ ['(', ')', '[', ']', ','] ∨ c = '.' ∧ (∃ p ∈ rest.head?, p.IsWord) ∨
      c = '|' ∧ rest.head? = some .blank
  | .dots | .blank => True

/-- No snippet runs into the next. -/
def Fit : List Snippet → Prop
  | [] => True
  | p :: ps => p.StandsBefore ps ∧ Fit ps

end Snippet

open Snippet

/-! ## Scanning a snippet -/

/-- A word is scanned at the end of a text, too. -/
theorem scans_word_last {cs : List Char} (h : IsWord cs) :
    Scans cs (.word (String.ofList cs)) [] := by
  obtain ⟨c, r, rfl, hc⟩ := h.start
  refine ⟨fun p => ?_, ⟨c, r, rfl, beginsLexeme_of_isWordStart hc⟩, fun x hx =>
    staysOnLine_of_isWordPart (h.part x hx)⟩
  have hsplit : splitPrefix? (c :: r) = none := by
    unfold splitPrefix?
    dsimp only
    split
    · rename_i q t hq
      have hmem : q ∈ c :: r := List.mem_of_mem_drop (by rw [hq]; exact .head _)
      have hne := ne_quote_of_isWordPart (h.part q hmem)
      rw [if_neg]
      simp [hne.1, hne.2]
    · rfl
  have htake : (c :: r ++ []).takeWhile isWordPart = c :: r ++ [].takeWhile isWordPart :=
    List.takeWhile_append_of_pos h.part
  have hdrop : (c :: r ++ []).dropWhile isWordPart = [].dropWhile isWordPart :=
    List.dropWhile_append_of_pos h.part
  rw [List.append_nil, List.takeWhile_nil, List.append_nil] at htake
  rw [List.append_nil, List.dropWhile_nil] at hdrop
  rw [List.append_nil]
  unfold scanLexeme
  rw [hsplit]
  simp only [hc, if_true]
  unfold scanWord
  simp only [htake, hdrop, h.identifier]

theorem scans_dots (rest : List Char) : Scans "...".toList (.op "...") rest :=
  ⟨fun _ => rfl, ⟨'.', ['.', '.'], rfl, rfl⟩, List.all_eq_true.mp (by decide)⟩

theorem not_isDigit_of_isWordStart {c : Char} (h : isWordStart c = true) : isDigit c = false := by
  unfold isWordStart Char.isAlpha Char.isUpper Char.isLower at h
  simp only [Bool.or_eq_true, Bool.and_eq_true, decide_eq_true_eq, beq_iff_eq] at h
  have h0 : '0' ≤ c ↔ 48 ≤ c.toNat := Iff.rfl
  have h9 : c ≤ '9' ↔ c.toNat ≤ 57 := Iff.rfl
  simp only [isDigit, h0, h9, Bool.and_eq_false_iff, decide_eq_false_iff_not]
  rcases h with ((⟨h, -⟩ | ⟨h, -⟩) | rfl) | h
  · have : 65 ≤ c.toNat := h
    omega
  · have : 97 ≤ c.toNat := h
    omega
  · decide
  · omega

/-- A point in front of a word is no part of a number. -/
theorem scans_point {c : Char} {rest : List Char} (h : isWordStart c = true) :
    Scans ['.'] (.op ".") (c :: rest) := by
  have hdot : ('.' == c) = false := beq_false_of_ne (by rintro rfl; cases h)
  have hops : (threeCharOps ++ twoCharOps).all
      (fun s => !(s.toList.take 2).isPrefixOf ('.' :: c :: rest)) = true := by
    simp [threeCharOps, twoCharOps, List.isPrefixOf, hdot]
  rw [List.all_append, Bool.and_eq_true] at hops
  refine ⟨fun p => ?_, ⟨'.', [], rfl, rfl⟩, List.all_eq_true.mp (by decide)⟩
  have hsplit : splitPrefix? ('.' :: c :: rest) = none := rfl
  have hstart : isWordStart '.' = false := rfl
  have hdigit : isDigit '.' = false := rfl
  unfold scanLexeme
  rw [List.singleton_append, hsplit]
  simp only [hstart, hdigit, Bool.false_eq_true, if_false, List.head?_cons, Option.any_some,
    not_isDigit_of_isWordStart h, Bool.and_false]
  unfold scanOp
  simp only [not_contains_take 3 (by decide) hops.1, not_contains_take 2 (by decide) hops.2,
    Bool.false_eq_true, if_false]
  rfl

theorem endsWord_of_standsBefore {c : Char} {ps : List Snippet}
    (h : (Snippet.sign c).StandsBefore ps) : endsWord c = true := by
  obtain hc | ⟨rfl, -⟩ | ⟨rfl, -⟩ := h
  · exact (List.all_eq_true.mp (by decide) :
      ∀ c ∈ ['(', ')', '[', ']', ','], endsWord c = true) c hc
  · decide
  · decide

theorem scans_snippet {p : Snippet} {ps : List Snippet} {x : Lexeme} (hfit : Fit (p :: ps))
    (hx : p.lexeme? = some x) : Scans p.text x (layOut ps) := by
  cases p with
  | word cs =>
    cases hx
    obtain ⟨⟨hword, hnext⟩, hrest⟩ := hfit
    cases ps with
    | nil => exact scans_word_last hword
    | cons q qs =>
      refine scans_word hword ?_
      cases q with
      | word ds => exact absurd trivial (hnext _ rfl)
      | dots => exact ⟨'.', _, rfl, by decide⟩
      | blank => exact ⟨' ', _, rfl, by decide⟩
      | sign c => exact ⟨c, _, rfl, endsWord_of_standsBefore hrest.1⟩
  | dots =>
    cases hx
    exact scans_dots _
  | blank => cases hx
  | sign c =>
    cases hx
    obtain ⟨hc | ⟨rfl, q, hq, hword⟩ | ⟨rfl, hq⟩, hrest⟩ := hfit
    · exact scans_bracket _ c ((by decide : ['(', ')', '[', ']', ','] ⊆
        ['(', ')', '[', ']', '\x7b', '\x7d', ',']) hc)
    · obtain ⟨qs, rfl⟩ := List.head?_eq_some_iff.1 hq
      cases q with
      | word ds =>
        obtain ⟨c, r, rfl, hc⟩ := hrest.1.1.start
        exact scans_point hc
      | dots | sign | blank => cases hword
    · obtain ⟨qs, rfl⟩ := List.head?_eq_some_iff.1 hq
      exact scans_sign rfl

/-! ## Brackets -/

/-- The brackets that are open behind snippets on a line. -/
def openAfter (line : Nat) (b : Brackets) : List Snippet → Except LexFault Brackets
  | [] => .ok b
  | .sign c :: ps =>
    match bracketsAfter b line (String.ofList [c]) with
    | .ok b => openAfter line b ps
    | .error f => .error f
  | _ :: ps => openAfter line b ps

variable {line : Nat} {b b' : Brackets} {ps qs : List Snippet}

theorem openAfter_append (b : Brackets) (ps qs : List Snippet) :
    openAfter line b (ps ++ qs) = (openAfter line b ps).bind fun b => openAfter line b qs := by
  induction ps generalizing b with
  | nil => rfl
  | cons p ps ih =>
    cases p with
    | sign c =>
      simp only [List.cons_append, openAfter]
      cases bracketsAfter b line (String.ofList [c]) with
      | error f => rfl
      | ok b => exact ih b
    | word | dots | blank => exact ih b

/-- Snippets are lexed on a line as far as their brackets allow. -/
theorem lexing_of_fit (hfit : Fit (ps ++ qs)) (h : openAfter line b ps = .ok b') :
    Lexing line b (layOut (ps ++ qs)) (lexemesOf ps) b' (layOut qs) := by
  induction ps generalizing b with
  | nil =>
    cases h
    exact .done _ _
  | cons p ps ih =>
    have scan := fun x => scans_snippet (x := x) hfit
    cases p with
    | blank => exact .blank (ih hfit.2 h)
    | word cs => exact .lexeme (scan _ rfl) rfl (ih hfit.2 h)
    | dots => exact .lexeme (scan _ rfl) rfl (ih hfit.2 h)
    | sign c =>
      simp only [openAfter] at h
      split at h
      case h_1 b₁ hb => exact .lexeme (scan _ rfl) hb (ih hfit.2 h)
      case h_2 => cases h

theorem fit_of_append (h : Fit (ps ++ qs)) : Fit qs := by
  induction ps with
  | nil => exact h
  | cons p ps ih => exact ih h.2

/-- What is refused is refused at a sign. -/
theorem exists_sign_of_error {f : LexFault} (h : openAfter line b ps = .error f) :
    ∃ front c back b', ps = front ++ .sign c :: back ∧ openAfter line b front = .ok b' ∧
      bracketsAfter b' line (String.ofList [c]) = .error f := by
  induction ps generalizing b with
  | nil => cases h
  | cons p ps ih =>
    cases p with
    | sign c =>
      simp only [openAfter] at h
      split at h
      case h_1 b₁ hb =>
        obtain ⟨front, d, back, b', rfl, hfront, hd⟩ := ih h
        exact ⟨.sign c :: front, d, back, b', rfl, by simp only [openAfter, hb, hfront], hd⟩
      case h_2 f' hb =>
        cases h
        exact ⟨[], c, ps, b, rfl, rfl, hb⟩
    | word | dots | blank =>
      obtain ⟨front, d, back, b', rfl, hfront, hd⟩ := ih h
      exact ⟨_ :: front, d, back, b', rfl, hfront, hd⟩

/-! ## Whole texts -/

open Exemplar.Syntax.Parser (Spells Reads Runs front mark_runs mark_fails sign_fails commaList_runs
  discard_runs expr commaList many mark expressions tupleUnlessOne maybe_none)

theorem lex_eq_lexRest {c : Char} {r : List Char} (hc : beginsLexeme c = true) :
    lex (c :: r) = lexRest (2 * (c :: r).length + 2) false [] [] ⟨1, 0⟩ (c :: r) :=
  lexLine_begins hc _ _ _

/-- A text without a line feed whose brackets are all closed is lexed to its end. -/
theorem lex_of_fit {c : Char} {r : List Char} (hc : beginsLexeme c = true)
    (htext : layOut ps = c :: r) (hfit : Fit ps) (h : openAfter 1 [] ps = .ok []) :
    ∃ (ts : List Token) (stop : Token), Spells 1 ts (lexemesOf ps) ∧ stop.lexeme = .stop ∧
      (lex (layOut ps)).tokens? = some (ts ++ [stop]) := by
  have hfit' : Fit (ps ++ []) := by rwa [List.append_nil]
  have hlex := lexing_of_fit hfit' h
  rw [List.append_nil] at hlex
  obtain ⟨m, q, ts, hm, -, hts, heq⟩ := lexRest_of_lexing hlex [] 1
    (2 * (layOut ps).length + 2) ⟨1, 0⟩ (by omega) rfl
  obtain ⟨m, rfl⟩ : ∃ k, m = k + 1 := ⟨m - 1, by omega⟩
  refine ⟨ts, ⟨.stop, ⟨q.lastLine, q.column⟩, ⟨q.lastLine, q.column⟩⟩, hts, rfl, ?_⟩
  rw [htext] at heq ⊢
  rw [lex_eq_lexRest hc, heq]
  rfl

/-- Where brackets are left open or refused, the text is not lexed to its end. -/
theorem lex_eq_none_of_fit {c : Char} {r : List Char} (hc : beginsLexeme c = true)
    (htext : layOut ps = c :: r) (hfit : Fit ps) (h : openAfter 1 [] ps ≠ .ok []) :
    (lex (layOut ps)).tokens? = none := by
  have reach {front back : List Snippet} {b : Brackets} (hps : ps = front ++ back)
      (hfront : openAfter 1 [] front = .ok b) : ∃ (m : Nat) (q : Place) (ts : List Token),
      q.line = 1 ∧ lex (layOut ps) = (lexRest (m + 1) false [] b q (layOut back)).prepend ts := by
    subst hps
    obtain ⟨m, q, ts, hm, hq, -, heq⟩ := lexRest_of_lexing (lexing_of_fit hfit hfront) [] 1
      (2 * (layOut (front ++ back)).length + 2) ⟨1, 0⟩ (by omega) rfl
    obtain ⟨m, rfl⟩ : ∃ k, m = k + 1 := ⟨m - 1, by omega⟩
    refine ⟨m, q, ts, hq, ?_⟩
    rw [htext] at heq ⊢
    rw [lex_eq_lexRest hc, heq]
  cases hopen : openAfter 1 [] ps with
  | ok b =>
    cases b with
    | nil => exact absurd hopen h
    | cons o b =>
      obtain ⟨m, q, ts, -, heq⟩ := reach (List.append_nil ps).symm hopen
      rw [heq]
      rfl
  | error f =>
    obtain ⟨front, d, back, b, hps, hfront, hd⟩ := exists_sign_of_error hopen
    obtain ⟨m, q, ts, hq, heq⟩ := reach hps hfront
    rw [hps] at hfit
    have hscans := scans_snippet (fit_of_append hfit) rfl
    have hrefused : bracketsBehind b q.line (.op (String.ofList [d])) = .error f := hq ▸ hd
    rw [heq, layOut_cons, lexRest_scans hscans, hrefused]
    rfl

theorem ends_stop {s : Strength} : Parser.Ends s .stop := by
  intro k _
  cases k <;> rfl

theorem parseTree_of_fit {c : Char} {r : List Char} {t : Nat → Tree} (hc : beginsLexeme c = true)
    (htext : layOut ps = c :: r) (hfit : Fit ps) (h : openAfter 1 [] ps = .ok [])
    (hread : Reads .test (lexemesOf ps) t) : parseTree? (layOut ps) = some (t 1) := by
  obtain ⟨ts, stop, hts, hstop, htokens⟩ := lex_of_fit hc htext hfit h
  have hfit' : Fit (ps ++ []) := by rwa [List.append_nil]
  have hlen := (lexing_of_fit hfit' h).length_le
  rw [List.append_nil] at hlen
  have hfront : front [stop] = .stop := hstop
  have lineEnds : Runs (many (mark .newline)) [stop] [] [stop] :=
    (Parser.Rounds.done (maybe_none (Parser.Fails.map _ (mark_fails (by
      rw [hfront]; exact nofun))))).loop.map List.reverse
  exact parseTree_of_lex htokens hts hread (by omega) (hfront ▸ ends_stop)
    (by rw [hfront]; exact nofun) lineEnds hstop

theorem parseTree_eq_none_of_fit {c : Char} {r : List Char} (hc : beginsLexeme c = true)
    (htext : layOut ps = c :: r) (hfit : Fit ps) (h : openAfter 1 [] ps ≠ .ok []) :
    parseTree? (layOut ps) = none := by
  unfold parseTree?
  rw [lex_eq_none_of_fit hc htext hfit h]
  rfl

end Exemplar.Syntax
