import Exemplar.Proofs.Call.Text
import Exemplar.Proofs.Literal.Value

/-
  A literal that is printed and read back. Its text is read as one expression, which evaluates to
  the datum that the literal stands for; and where the literal stands for none, since a key in it
  cannot be hashed, the expression raises a type error as well (`render_reads_back`). This holds
  of literals whose brackets nest up to 200 deep: the text of a deeper one is not read at all
  (`nest_unread`).
-/

namespace Exemplar

/-! ## How evaluations end -/

/-- The evaluations end alike: in the same datum, or both in a type error. -/
inductive Alike : Except Raised Datum → Except Raised Datum → Prop
  | datum (d) : Alike (.ok d) (.ok d)
  | typeErrors (m n) : Alike (.error (.typeError m)) (.error (.typeError n))

/-- All that the computation may raise is a type error. -/
def TypeErrorsOnly {α : Type} (x : Except Raised α) : Prop :=
  ∀ r, x = .error r → ∃ m, r = .typeError m

namespace TypeErrorsOnly

variable {α β : Type}

theorem ok {a : α} : TypeErrorsOnly (.ok a) := nofun

theorem typeError {m : String} : TypeErrorsOnly (.error (.typeError m) : Except Raised α) := by
  intro r hr
  cases hr
  exact ⟨m, rfl⟩

theorem bind {x : Except Raised α} {f : α → Except Raised β} (hx : TypeErrorsOnly x)
    (hf : ∀ a, TypeErrorsOnly (f a)) : TypeErrorsOnly (x >>= f) := by
  cases x with
  | error e =>
    intro r hr
    cases hr
    exact hx e rfl
  | ok a => exact hf a

/-- Evaluations that end in the same data end alike. -/
theorem alike {x y : Except Raised Datum} (hx : TypeErrorsOnly x) (hy : TypeErrorsOnly y)
    (h : ∀ d, x = .ok d ↔ y = .ok d) : Alike x y := by
  cases x with
  | ok d =>
    rw [(h d).mp rfl]
    exact .datum d
  | error r =>
    cases y with
    | ok d => cases (h d).mpr rfl
    | error s =>
      obtain ⟨m, rfl⟩ := hx r rfl
      obtain ⟨n, rfl⟩ := hy s rfl
      exact .typeErrors m n

end TypeErrorsOnly

/-! ## Keys that cannot be hashed -/

theorem Datum.enter_raises (xs : List (Datum × Datum)) :
    ∀ done, TypeErrorsOnly (enter done xs) := by
  induction xs with
  | nil => exact fun _ => .ok
  | cons x xs ih =>
    intro done
    rw [enter]
    split
    · exact .typeError
    · exact ih _

namespace Expr

theorem values_raise {es : List Expr} (h : ∀ e ∈ es, TypeErrorsOnly e.value) :
    TypeErrorsOnly (values es) := by
  induction es with
  | nil => exact .ok
  | cons e es ih =>
    obtain ⟨he, hes⟩ := List.forall_mem_cons.mp h
    rw [values]
    exact .bind he fun _ => .bind (ih hes) fun _ => .ok

theorem entryValues_raise {es : List (Expr × Expr)}
    (h : ∀ e ∈ es, TypeErrorsOnly e.1.value ∧ TypeErrorsOnly e.2.value) :
    TypeErrorsOnly (entryValues (es.map fun e => (some e.1, e.2))) := by
  induction es with
  | nil => exact .ok
  | cons e es ih =>
    obtain ⟨⟨hk, hv⟩, hes⟩ := List.forall_mem_cons.mp h
    rw [List.map_cons, entryValues]
    exact .bind hk fun _ => .bind hv fun _ => .bind (ih hes) fun _ => .ok

end Expr

namespace Literal

open Syntax Exemplar.Syntax.Parser

theorem toData_raises {ls : List Literal} (h : ∀ l ∈ ls, TypeErrorsOnly l.toDatum) :
    TypeErrorsOnly (toData ls) := by
  induction ls with
  | nil => exact .ok
  | cons l ls ih =>
    obtain ⟨hl, hls⟩ := List.forall_mem_cons.mp h
    rw [toData]
    exact .bind hl fun _ => .bind (ih hls) fun _ => .ok

theorem toEntries_raises {es : List (Literal × Literal)}
    (h : ∀ e ∈ es, TypeErrorsOnly e.1.toDatum ∧ TypeErrorsOnly e.2.toDatum) :
    ∀ done, TypeErrorsOnly (toEntries done es) := by
  induction es with
  | nil => exact fun _ => .ok
  | cons e es ih =>
    obtain ⟨⟨hk, hv⟩, hes⟩ := List.forall_mem_cons.mp h
    intro done
    rw [toEntries]
    refine .bind hk fun k => .bind hv fun v => ?_
    split
    · exact .typeError
    · exact ih hes _

/-- The only reason for which a literal stands for no datum is a type error. -/
theorem toDatum_raises (l : Literal) : TypeErrorsOnly l.toDatum := by
  induction l using parts_induction with
  | text | boolean | none => exact .ok
  | number n => cases n <;> exact .ok
  | list items ih | tuple items ih =>
    rw [toDatum]
    exact .bind (toData_raises ih) fun _ => .ok
  | mapping entries ih =>
    rw [toDatum]
    exact .bind (toEntries_raises ih []) fun _ => .ok
  | record fields ih =>
    have each : ∀ e ∈ asEntries fields, TypeErrorsOnly e.1.toDatum ∧ TypeErrorsOnly e.2.toDatum :=
      List.forall_mem_map.mpr fun f hf => ⟨.ok, ih f hf⟩
    rw [toDatum, toFields_eq]
    exact .bind (toEntries_raises each []) fun _ => .ok

variable {line : Nat}

theorem value_entries_raise {entries : List (Literal × Literal)}
    (h : ∀ e ∈ entries, TypeErrorsOnly (e.1.tree line).expr.value ∧
      TypeErrorsOnly (e.2.tree line).expr.value) :
    TypeErrorsOnly (Tree.mk line (.dict (entryTrees line entries))).expr.value := by
  rw [Tree.expr, Tree.formExpr, Expr.value, entries_entryTrees]
  exact .bind (Expr.entryValues_raise (List.forall_mem_map.mpr h)) fun _ =>
    .bind (Datum.enter_raises _ _) fun _ => .ok

/-- The tree of a literal raises type errors only. -/
theorem value_tree_raises (l : Literal) : TypeErrorsOnly (l.tree line).expr.value := by
  induction l using parts_induction with
  | text | boolean | none => exact .ok
  | number n =>
    rw [tree, value_number]
    exact toDatum_raises _
  | list items ih | tuple items ih =>
    rw [tree, Tree.expr, Tree.formExpr, Expr.value, exprs_trees]
    exact .bind (Expr.values_raise (List.forall_mem_map.mpr ih)) fun _ => .ok
  | mapping entries ih => exact value_entries_raise ih
  | record fields ih =>
    rw [tree, fieldTrees_eq_entryTrees]
    exact value_entries_raise (List.forall_mem_map.mpr fun f hf => ⟨.ok, ih f hf⟩)

/-! ## The text -/

theorem unprintable_items {ls : List Literal} (h : ∀ l ∈ ls, Unprintable.of? l.toExpr = .none) :
    Unprintable.ofAll? (toExprs ls) = .none := by
  induction ls with
  | nil => rfl
  | cons l ls ih =>
    obtain ⟨hl, hls⟩ := List.forall_mem_cons.mp h
    rw [toExprs, Unprintable.ofAll?, hl]
    exact ih hls

theorem unprintable_entries {es : List (Literal × Literal)}
    (h : ∀ e ∈ es, Unprintable.of? e.1.toExpr = .none ∧ Unprintable.of? e.2.toExpr = .none) :
    Unprintable.ofEntries? (entryExprs es) = .none := by
  induction es with
  | nil => rfl
  | cons e es ih =>
    obtain ⟨⟨hk, hv⟩, hes⟩ := List.forall_mem_cons.mp h
    rw [entryExprs, Unprintable.ofEntries?, Unprintable.ofOption?, hk, hv]
    exact ih hes

theorem fieldExprs_eq (fs : List (String × Literal)) :
    fieldExprs fs = entryExprs (asEntries fs) := by
  induction fs with
  | nil => rfl
  | cons f fs ih =>
    rw [fieldExprs, ih]
    rfl

/-- A literal of numbers that can be written has a text. -/
theorem source_render {l : Literal} (h : l.Numbers Number.Writable) :
    l.source = .ok l.render := by
  have printable : Unprintable.of? l.toExpr = .none := by
    induction h with
    | text | boolean | none => rfl
    | @number n h =>
      cases n with
      | int n =>
        rw [toExpr, Unprintable.of?, Unprintable.ofConstant?, if_neg]
        exact Bool.eq_false_iff.mp h
      | float x => rfl
    | list _ ih | tuple _ ih =>
      rw [toExpr, Unprintable.of?]
      exact unprintable_items ih
    | mapping _ _ ihk ihv =>
      rw [toExpr, Unprintable.of?]
      exact unprintable_entries fun e he => ⟨ihk e he, ihv e he⟩
    | record _ ih =>
      rw [toExpr, Unprintable.of?, fieldExprs_eq]
      exact unprintable_entries (List.forall_mem_map.mpr fun f hf => ⟨rfl, ih f hf⟩)
  rw [source, Syntax.source, printable]
  rfl

theorem render_eq (l : Literal) : l.render = String.ofList l.written := rfl

theorem scopeFault_tree (l : Literal) : scopeFaultOfTree? (l.tree line) = .none := by
  unfold scopeFaultOfTree?
  rw [site_tree, mention_tree]
  rfl

/-- The text of a literal is read as its tree. -/
theorem readCall_render {l : Literal} (hn : l.Numbers Number.Writable) (hd : l.depth ≤ 200) :
    Worker.readCall l.render = .ok (l.tree 1) := by
  have written := written_toExpr hn
  obtain ⟨ls, hlex, hitem⟩ := written.item
  have one := hlex 1 [] ['\n'] (by rw [List.length_nil]; omega) ⟨'\n', [], rfl, by decide⟩
  exact readCall_of_lexing written.begins one hitem.reads l.scopeFault_tree

/-- A dictionary with two equal keys, the number 1 and the truth value. -/
def equalKeys : Literal :=
  .mapping [(.number (.int 1), .text "a"), (.boolean true, .tuple [.number (.int (-2))])]

end Literal

/-! ## Texts that nest too deep -/

namespace Syntax

theorem lexing_openings (rest : List Char) (n : Nat) : ∀ b : Brackets, b.length + n ≤ 200 →
    ∃ b', b'.length = b.length + n ∧
      Lexing 1 b (List.replicate n '[' ++ rest) (List.replicate n (.op "[")) b' rest := by
  induction n with
  | zero => exact fun b _ => ⟨b, rfl, .done b rest⟩
  | succ n ih =>
    intro b hb
    obtain ⟨b', hlen, hlex⟩ := ih (('[', 1) :: b) (by rw [List.length_cons]; omega)
    have hopen : bracketsBehind b 1 (.op "[") = .ok (('[', 1) :: b) :=
      if_neg (show ¬200 ≤ b.length by omega)
    have one : Lexing 1 b (['['] ++ (List.replicate n '[' ++ rest))
        (.op "[" :: List.replicate n (.op "[")) b' rest :=
      .lexeme (scans_bracket _ '[' (by decide)) hopen hlex
    exact ⟨b', by rw [hlen, List.length_cons]; omega, one⟩

/-- Where 200 brackets are open, no other can be opened. -/
theorem lexRest_full {b : Brackets} (hb : 200 ≤ b.length) (n : Nat) (p : Place)
    (rest : List Char) : ∃ f, lexRest (n + 1) false [] b p ('[' :: rest) = ⟨[], some f⟩ := by
  have scan : scanLexeme p ('[' :: rest) = .ok (.op "[", ['['], rest) :=
    (scans_bracket rest '[' (by decide)).scan p
  have full : bracketsAfter b p.line "[" = .error .tooManyBrackets := if_pos hb
  refine ⟨⟨.tooManyBrackets, p.line, b.head?⟩, ?_⟩
  conv => lhs; unfold lexRest
  simp only [scan, full]
  rfl

/-- No text is parsed that begins with more brackets than can be open. -/
theorem parseTree_tooDeep (rest : List Char) :
    parseTree? (List.replicate 201 '[' ++ rest) = none := by
  obtain ⟨b, hlen, hlex⟩ := lexing_openings ('[' :: rest) 200 [] (by decide)
  have htext : List.replicate 201 '[' ++ rest = List.replicate 200 '[' ++ '[' :: rest := by
    rw [List.replicate_succ', List.append_assoc]
    rfl
  obtain ⟨m, q, ts, hm, -, -, heq⟩ := lexRest_of_lexing hlex [] 0
    (2 * (List.replicate 201 '[' ++ rest).length + 2) ⟨1, 0⟩ (by rw [htext]; omega) rfl
  obtain ⟨m, rfl⟩ : ∃ k, m = k + 1 := ⟨m - 1, by rw [List.length_cons] at hm; omega⟩
  obtain ⟨f, hf⟩ := lexRest_full (by rw [hlen]; exact Nat.le_add_left _ _) m q rest
  have hlex : lex (List.replicate 201 '[' ++ rest) = ⟨ts ++ [], some f⟩ := by
    rw [hf, ← htext] at heq
    unfold lex lexFrom
    rw [← List.append_nil ts]
    exact (lexLine_begins (by decide) _ _ _).trans (by rw [List.append_nil]; exact heq)
  unfold parseTree?
  rw [hlex]
  rfl

end Syntax

namespace Literal

open Syntax

/-- The empty list inside so many lists of one item. -/
def nest : Nat → Literal
  | 0 => .list []
  | n + 1 => .list [nest n]

theorem numbers_nest (p : Number → Prop) (n : Nat) : (nest n).Numbers p := by
  induction n with
  | zero => exact .list nofun
  | succ n ih => exact .list (List.forall_mem_singleton.mpr ih)

theorem depth_nest (n : Nat) : (nest n).depth = n + 1 := by
  induction n with
  | zero => rfl
  | succ n ih => rw [nest, depth, depthAmong, ih, depthAmong, Nat.max_zero]

theorem written_nest (n : Nat) :
    (nest n).written = List.replicate (n + 1) '[' ++ List.replicate (n + 1) ']' := by
  induction n with
  | zero => rfl
  | succ n ih =>
    show '[' :: (nest n).written ++ [']'] = _
    have front : List.replicate (n + 2) '[' = '[' :: List.replicate (n + 1) '[' :=
      List.replicate_succ
    have back : List.replicate (n + 2) ']' = List.replicate (n + 1) ']' ++ [']'] :=
      List.replicate_succ'
    rw [ih, front, back]
    simp only [List.cons_append, List.append_assoc]

/-- The text of lists that nest deeper than 200 brackets is not read. -/
theorem nest_unread {n : Nat} (h : 200 ≤ n) (t : Tree) :
    Worker.readCall (nest n).render ≠ .ok t := by
  have hline : ∀ c ∈ (nest n).written, c ≠ '\r' := by
    rw [written_nest]
    intro c hc
    rcases List.mem_append.mp hc with hc | hc <;> rw [List.eq_of_mem_replicate hc] <;> decide
  obtain ⟨rest, hend⟩ : ∃ rest, endLine (nest n).written = List.replicate 201 '[' ++ rest := by
    have hsplit : n + 1 = 201 + (n - 200) := by omega
    unfold endLine
    rw [written_nest, hsplit, List.replicate_add, List.append_assoc]
    split
    · exact ⟨_, rfl⟩
    · exact ⟨_, List.append_assoc ..⟩
  rw [render_eq]
  unfold Worker.readCall
  simp only [String.toList_ofList, Text.unifyLineEnds_eq hline, hend, parseTree_tooDeep]
  split <;> exact nofun

end Literal

end Exemplar
