import Exemplar.Call
import Exemplar.Proofs.Lexer.Snippets
import Exemplar.Proofs.Literal.Printed
import Exemplar.Proofs.Parser.Yields
import Exemplar.Sandbox.Worker

/-
  The text of a call is read as the call. A call of a name with literals that can be written is
  printed on one line, which the worker lexes, parses and accepts as the tree of the call
  (`readCall_print`).
-/

namespace Exemplar

open Syntax

/-! ## Texts of one line -/

/-- The worker reads a text of one line as the tree that its lexemes are read as, if the tree keeps
all rules of scopes. -/
theorem readCall_of_lexing {cs : List Char} {ls : List Lexeme} {u : Nat → Tree}
    (hbegins : ∃ c r, cs = c :: r ∧ beginsLexeme c = true)
    (hlex : Lexing 1 [] (cs ++ ['\n']) ls [] ['\n']) (hreads : Parser.Reads .test ls u)
    (hscope : scopeFaultOfTree? (u 1) = none) :
    Worker.readCall (String.ofList cs) = .ok (u 1) := by
  have hline : ∀ c ∈ cs, staysOnLine c = true := by
    obtain ⟨front, hfront, hline⟩ := staysOnLine_of_lexing hlex
    rwa [List.append_cancel_right hfront]
  have hnull : cs.contains '\x00' = false := by
    refine Bool.eq_false_iff.mpr fun h => ?_
    exact absurd (hline _ (List.contains_iff_mem.mp h)) (by decide)
  have hunify : Text.unifyLineEnds cs = cs := by
    refine Text.unifyLineEnds_eq ?_
    rintro c hc rfl
    exact absurd (hline _ hc) (by decide)
  obtain ⟨c, r, rfl, hc⟩ := hbegins
  have hend : endLine (c :: r) = c :: r ++ ['\n'] := by
    have hlast : ((c :: r).getLast? == some '\n') = false := by
      refine beq_false_of_ne fun h => ?_
      exact absurd (hline _ (List.mem_of_getLast? h)) (by decide)
    unfold endLine
    rw [hlast]
    rfl
  have hparse := parseTree_of_reads hc hlex hreads
  unfold Worker.readCall
  simp only [String.toList_ofList, hnull, Bool.false_eq_true, if_false, hunify, hend, hparse,
    hscope]

/-! ## Literals keep all rules of scopes -/

namespace Literal

variable {line : Nat}

theorem mention_trees {ts : List Tree} (h : ∀ t ∈ ts, Mention.tree t = []) :
    Mention.trees ts = [] := by
  induction ts with
  | nil => rfl
  | cons t ts ih =>
    obtain ⟨ht, hts⟩ := List.forall_mem_cons.mp h
    rw [Mention.trees, ht, ih hts]
    rfl

theorem mention_entries {es : List (Option Tree × Tree)}
    (h : ∀ e ∈ es, Mention.option e.1 = [] ∧ Mention.tree e.2 = []) :
    Mention.keys es = [] ∧ Mention.values es = [] := by
  induction es with
  | nil => exact ⟨rfl, rfl⟩
  | cons e es ih =>
    obtain ⟨⟨hk, hv⟩, hes⟩ := List.forall_mem_cons.mp h
    rw [Mention.keys, Mention.values, hk, hv, (ih hes).1, (ih hes).2]
    exact ⟨rfl, rfl⟩

/-- A literal mentions no name. -/
theorem mention_tree (l : Literal) : Mention.tree (l.tree line) = [] := by
  induction l using parts_induction with
  | text | boolean | none => rfl
  | number n =>
    rw [tree, Number.tree]
    split <;> rfl
  | list items ih | tuple items ih =>
    rw [tree, Mention.tree, Mention.form, trees_eq]
    exact mention_trees (List.forall_mem_map.mpr ih)
  | mapping entries ih =>
    rw [tree, Mention.tree, Mention.form, entryTrees_eq]
    have each : ∀ e ∈ entries.map (entryTree line),
        Mention.option e.1 = [] ∧ Mention.tree e.2 = [] := List.forall_mem_map.mpr ih
    obtain ⟨hk, hv⟩ := mention_entries each
    rw [hk, hv]
    rfl
  | record fields ih =>
    rw [tree, Mention.tree, Mention.form, fieldTrees_eq]
    have each : ∀ e ∈ fields.map (fieldTree line),
        Mention.option e.1 = [] ∧ Mention.tree e.2 = [] :=
      List.forall_mem_map.mpr fun f hf => ⟨rfl, ih f hf⟩
    obtain ⟨hk, hv⟩ := mention_entries each
    rw [hk, hv]
    rfl

theorem site_spread (l : Literal) : Site.spread (l.tree line) = Site.tree (l.tree line) := by
  cases l with
  | number n =>
    rw [tree, Number.tree]
    split <;> rfl
  | _ => rfl

theorem site_items {ls : List Literal} (h : ∀ l ∈ ls, Site.tree (l.tree line) = []) :
    Site.items (ls.map (tree line)) = [] := by
  induction ls with
  | nil => rfl
  | cons l ls ih =>
    obtain ⟨hl, hls⟩ := List.forall_mem_cons.mp h
    rw [List.map_cons, Site.items, site_spread, hl, ih hls]
    rfl

theorem site_entries {es : List (Option Tree × Tree)}
    (h : ∀ e ∈ es, Site.option e.1 = [] ∧ Site.tree e.2 = []) : Site.entries es = [] := by
  induction es with
  | nil => rfl
  | cons e es ih =>
    obtain ⟨⟨hk, hv⟩, hes⟩ := List.forall_mem_cons.mp h
    rw [Site.entries, hk, hv, ih hes]
    rfl

/-- A literal holds nothing that only some places allow. -/
theorem site_tree (l : Literal) : Site.tree (l.tree line) = [] := by
  induction l using parts_induction with
  | text | boolean | none => rfl
  | number n =>
    rw [tree, Number.tree]
    split <;> rfl
  | list items ih | tuple items ih =>
    rw [tree, Site.tree, Site.form, trees_eq]
    exact site_items ih
  | mapping entries ih =>
    rw [tree, Site.tree, Site.form, entryTrees_eq]
    exact site_entries (List.forall_mem_map.mpr ih)
  | record fields ih =>
    rw [tree, Site.tree, Site.form, fieldTrees_eq]
    exact site_entries (List.forall_mem_map.mpr fun f hf => ⟨rfl, ih f hf⟩)

end Literal

/-! ## The tree of a call -/

/-- A literal that is passed by name. -/
def keywordTree (line : Nat) (a : String × Literal) : TreeKeyword :=
  .mk (some a.1) (a.2.tree line) line

/-- The tree of a call of a name with literals by place and by name. -/
def callTree (line : Nat) (name : String) (byPlace : List Literal)
    (byName : List (String × Literal)) : Tree :=
  .mk line (.call (.mk line (.name name)) (byPlace.map (Literal.tree line))
    (byName.map (keywordTree line)))

variable {line : Nat} {name : String} {byPlace : List Literal} {byName : List (String × Literal)}

theorem repeatedKeywords_nil (hnodup : (byName.map Prod.fst).Nodup)
    (hdebug : ∀ a ∈ byName, a.1 ≠ debugName) :
    Site.repeatedKeywords line (byName.map (keywordTree line)) = [] := by
  induction byName with
  | nil => rfl
  | cons a as ih =>
    obtain ⟨hnew, hrest⟩ := List.nodup_cons.mp hnodup
    obtain ⟨ha, has⟩ := List.forall_mem_cons.mp hdebug
    have hfind : (as.map (keywordTree line)).find? (·.name == some a.1) = none := by
      refine List.find?_eq_none.mpr fun k hk heq => ?_
      obtain ⟨b, hb, rfl⟩ := List.mem_map.mp hk
      exact hnew (Option.some.inj (eq_of_beq heq) ▸ List.mem_map_of_mem hb)
    rw [List.map_cons, keywordTree, Site.repeatedKeywords, hfind, ih hrest has, Site.bindable,
      Site.faultIf, beq_false_of_ne ha]
    rfl

theorem site_keywords : Site.keywords (byName.map (keywordTree line)) = [] := by
  induction byName with
  | nil => rfl
  | cons a as ih =>
    rw [List.map_cons, keywordTree, Site.keywords, Literal.site_tree, ih]
    rfl

theorem mention_keywords : Mention.keywords (byName.map (keywordTree line)) = [] := by
  induction byName with
  | nil => rfl
  | cons a as ih =>
    rw [List.map_cons, keywordTree, Mention.keywords, Literal.mention_tree, ih]
    rfl

theorem checkMentions_use (name : String) (line : Nat) :
    Names.checkMentions false [.use name line] = .ok () := by
  have used : Names.step { lazyHints := false } (.use name line) =
      .ok
        { lazyHints := false
          file := { frame := .file, names := [(name, { isUsed := true })] } } := by
    show (if name == "super" && false then _ else _) = _
    rw [Bool.and_false]
    rfl
  unfold Names.checkMentions Names.tree
  rw [List.foldlM_cons, used]
  rfl

/-- A call whose arguments by name are different keeps all rules of scopes. -/
theorem scopeFault_callTree (hnodup : (byName.map Prod.fst).Nodup)
    (hdebug : ∀ a ∈ byName, a.1 ≠ debugName) :
    scopeFaultOfTree? (callTree line name byPlace byName) = none := by
  have sites : Site.tree (callTree line name byPlace byName) = [] := by
    rw [callTree, Site.tree, Site.form, repeatedKeywords_nil hnodup hdebug, site_keywords,
      Literal.site_items fun l _ => l.site_tree]
    rfl
  have mentions : Mention.tree (callTree line name byPlace byName) =
      if name == debugName then [] else [.use name line] := by
    rw [callTree, Mention.tree, Mention.form, mention_keywords,
      Literal.mention_trees (List.forall_mem_map.mpr fun l _ => l.mention_tree), Mention.tree,
      Mention.form, List.append_nil, List.append_nil]
  unfold scopeFaultOfTree?
  rw [sites, mentions]
  split
  · rfl
  · rw [checkMentions_use]
    rfl

/-! ## The text of a call -/

open Exemplar.Syntax.Parser (Item KeywordReads Reads separatedBy)

/-- The text of an argument by name. -/
def namedText (a : String × Literal) : List Char := a.1.toList ++ '=' :: a.2.written

/-- The text of the arguments of a call. -/
def argumentsText (byPlace : List Literal) (byName : List (String × Literal)) : List Char :=
  joinWith ", " (byPlace.map Literal.written ++ byName.map namedText)

/-- The text of a call. -/
def callText (name : String) (byPlace : List Literal) (byName : List (String × Literal)) :
    List Char :=
  name.toList ++ '(' :: argumentsText byPlace byName ++ [')']

/-- The expression of a call with literals by place and by name. -/
def callExpr (name : String) (byPlace : List Literal) (byName : List (String × Literal)) : Expr :=
  .call (.name name) (byPlace.map Literal.toExpr)
    (byName.map fun a => .mk (some a.1) a.2.toExpr)

theorem printKeywords_named :
    printKeywords false (byName.map fun a => .mk (some a.1) a.2.toExpr) =
      byName.map namedText := by
  induction byName with
  | nil => rfl
  | cons a as ih =>
    rw [List.map_cons, printKeywords, ih]
    simp [namedText, Literal.written]

theorem print_callExpr :
    (print (callExpr name byPlace byName)).toList = callText name byPlace byName := by
  have placed : printList false (byPlace.map Literal.toExpr) = byPlace.map Literal.written := by
    rw [← Literal.toExprs_eq, Literal.printList_toExprs]
  unfold print callExpr
  rw [String.toList_ofList, printAt, placed, printKeywords_named]
  rfl

/-- The literal can be written in an argument of a call. -/
structure Passable (l : Literal) : Prop where
  numbers : l.Numbers Number.Writable
  depth : l.depth < 200

theorem Passable.written {l : Literal} (h : Passable l) : Written 199 l.written (l.tree ·) :=
  (Literal.written_toExpr h.numbers).mono (Nat.le_of_lt_succ h.depth)

/-- Arguments by place are lexed as items. -/
theorem items_of_passable (h : ∀ l ∈ byPlace, Passable l) :
    ∃ items, List.Forall₂ (Lexes 199) (byPlace.map Literal.written) items ∧
      List.Forall₂ Item items (byPlace.map fun l line => l.tree line) := by
  refine Written.items ?_
  rw [List.forall₂_map_left_iff, List.forall₂_map_right_iff, List.forall₂_same]
  exact fun l hl => (h l hl).written

/-- Arguments by name are lexed as names with items. -/
theorem named_of_passable (h : ∀ a ∈ byName, IsName a.1 ∧ Passable a.2) :
    ∃ items, List.Forall₂ (Lexes 199) (byName.map namedText) items ∧
      List.Forall₂ KeywordReads items (byName.map fun a => (a.1, fun line => a.2.tree line)) := by
  induction byName with
  | nil => exact ⟨[], .nil, .nil⟩
  | cons a as ih =>
    obtain ⟨⟨hname, ha⟩, has⟩ := List.forall_mem_cons.mp h
    obtain ⟨items, hitems, hreads⟩ := ih has
    obtain ⟨ls, hls, hitem⟩ := ha.written.item
    obtain ⟨c, r, hcs, hc, hc'⟩ := ha.written.front
    have lexes := lexes_named hname.word hcs hc hc' hls
    rw [String.ofList_toList] at lexes
    exact ⟨_ :: items, .cons lexes hitems, .cons ⟨hname.plain, ls, rfl, hitem⟩ hreads⟩

theorem plain_call (hn : name ∉ keywords) (ls : List Lexeme) :
    Parser.Plain (.word name :: .op "(" :: ls) := by
  refine ⟨List.cons_ne_nil _ _, fun s => ?_⟩
  have ne : ∀ w ∈ keywords, (Lexeme.word name == .word w) = false := by
    intro w hw
    refine beq_false_of_ne ?_
    rintro ⟨⟩
    exact hn hw
  cases s with
  | test => exact ne "lambda" (by decide)
  | not => exact ne "not" (by decide)
  | await => exact ne "await" (by decide)
  | _ => rfl

theorem behind_parenthesis (rest : List Char) : Behind endsWord ('(' :: rest) :=
  ⟨'(', rest, rfl, by decide⟩

/-- The lexemes of a call are read as its tree. -/
theorem reads_callText (hname : IsName name) (hplace : ∀ l ∈ byPlace, Passable l)
    (hnamed : ∀ a ∈ byName, IsName a.1 ∧ Passable a.2) : ∃ ls,
      Lexing 1 [] (callText name byPlace byName ++ ['\n']) ls [] ['\n'] ∧
      Reads .test ls (callTree · name byPlace byName) := by
  obtain ⟨items, hitems, hreads⟩ := items_of_passable hplace
  obtain ⟨named, hlexes, hkeywords⟩ := named_of_passable hnamed
  have joined : Lexes 199 (argumentsText byPlace byName) (separatedBy (items ++ named)) :=
    lexes_joined (List.rel_append hitems hlexes)
  have bracket : Lexing 1 [] ('(' :: argumentsText byPlace byName ++ [')'] ++ ['\n'])
      (.op "(" :: separatedBy (items ++ named) ++ [.op ")"]) [] ['\n'] :=
    lexing_bracketed (.inl rfl) joined (by decide) ['\n']
  have word := scans_word hname.word
    (behind_parenthesis (argumentsText byPlace byName ++ [')'] ++ ['\n']))
  rw [String.ofList_toList] at word
  refine ⟨.word name :: .op "(" :: separatedBy (items ++ named) ++ [.op ")"], ?_, ?_⟩
  · have all : Lexing 1 [] _ _ [] ['\n'] := .lexeme word rfl bracket
    rw [callText, List.append_assoc, List.append_assoc, List.cons_append, ← List.append_assoc]
    exact all
  · have call := Parser.reads_call hname.plain hreads hkeywords
    simp only [List.map_map] at call
    exact call.test_of_atom (plain_call hname.plain _)

/-- The worker reads the text of a call as the tree of the call. -/
theorem readCall_print (hname : IsName name) (hplace : ∀ l ∈ byPlace, Passable l)
    (hnamed : ∀ a ∈ byName, IsName a.1 ∧ Passable a.2) (hnodup : (byName.map Prod.fst).Nodup)
    (hdebug : ∀ a ∈ byName, a.1 ≠ debugName) :
    Worker.readCall (print (callExpr name byPlace byName)) =
      .ok (callTree 1 name byPlace byName) := by
  obtain ⟨ls, hlex, hreads⟩ := reads_callText hname hplace hnamed
  obtain ⟨c, r, hc, hstart⟩ := hname.word.start
  have hbegins : ∃ c r, callText name byPlace byName = c :: r ∧ beginsLexeme c = true := by
    rw [callText, hc]
    exact ⟨c, _, rfl, beginsLexeme_of_isWordStart hstart⟩
  have htext : print (callExpr name byPlace byName) =
      String.ofList (callText name byPlace byName) := by
    rw [← print_callExpr, String.ofList_toList]
  rw [htext]
  exact readCall_of_lexing hbegins hlex hreads (scopeFault_callTree hnodup hdebug)

end Exemplar
