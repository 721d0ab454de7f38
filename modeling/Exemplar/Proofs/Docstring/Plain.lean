import Exemplar.Proofs.Docstring.Nesting
import Exemplar.Proofs.LineIndex
import Exemplar.Proofs.Parser.Chains
import Exemplar.Proofs.Parser.Yields

/-
  Types written plainly. An expression of names, attributes, `None`, `...`, indexes, lists and
  unions (`PlainType`) is printed in snippets that are spelt as a type expression, and the parser
  reads their lexemes as the expression again (`PlainType.prints`). So the printed text is read as
  the expression it was printed from, except where the letters of `default` follow a comma, in any
  case and as the beginning of any name, or brackets stand too deep in each other (`readType_print`).
-/

namespace Exemplar.Docstring

open Exemplar.Text Exemplar.Syntax Exemplar.Syntax.Snippet
open Exemplar.Syntax.Parser (Heads Unites Item IndexItem Reads starts separatedBy tupled)

/-- Type expressions as they stand in annotations. -/
inductive PlainType : Expr → Prop
  | none : PlainType (.const .none)
  | ellipsis : PlainType (.const .ellipsis)
  | name {n : String} (h : IsName n) : PlainType (.name n)
  | member {v : Expr} {a : String} (hv : PlainType v) (ha : IsName a) :
      PlainType (.attribute v a)
  | subscript {v i : Expr} (hv : PlainType v) (hi : PlainType i) : PlainType (.subscript v i)
  | subscripts {v : Expr} {items : List Expr} (hv : PlainType v) (hne : items ≠ [])
      (hitems : ∀ e ∈ items, PlainType e) : PlainType (.subscript v (.tuple items))
  | list {items : List Expr} (hitems : ∀ e ∈ items, PlainType e) : PlainType (.list items)
  | union {l r : Expr} (hl : PlainType l) (hr : PlainType r) : PlainType (.binary l .bitOr r)

/-! ## Lexemes -/

variable {ps : List Snippet} {cs : List Char} {e : Expr}

/-- Lexemes that begin no operand of a type expression. -/
def strangers : List Lexeme :=
  Parser.barred ++ [.op ":", .word "lambda", .word "not", .word "await"]

theorem Belongs.lexeme {p : Snippet} (h : Belongs p) (hp : Leads p) :
    ∃ x, p.lexeme? = some x ∧ x ∉ strangers ∧ Parser.unaryOp? x = none := by
  cases p with
  | word cs =>
    refine ⟨_, rfl, fun hmem => ?_, rfl⟩
    have hw : String.ofList cs ∈ ["yield", "lambda", "not", "await"] := by
      simpa [strangers, Parser.barred] using hmem
    have hkeyword := (by decide : ∀ w ∈ ["yield", "lambda", "not", "await"],
      w ∈ keywords ∧ w ≠ "None") _ hw
    exact h.plain.elim (fun hplain => hplain hkeyword.1) hkeyword.2
  | dots => exact ⟨_, rfl, by decide, rfl⟩
  | blank => exact hp.elim
  | sign c => rcases hp with rfl | rfl <;> exact ⟨_, rfl, by decide, rfl⟩

theorem Belongs.lexeme_ne {p : Snippet} (h : Belongs p) {x : Lexeme} (hx : p.lexeme? = some x) :
    x ∉ [.op ":=", .op "="] := by
  cases p with
  | word cs =>
    cases hx
    simp
  | dots =>
    cases hx
    decide
  | blank => cases hx
  | sign c =>
    cases hx
    exact (List.all_iff_forall_prop.1 (by decide) : ∀ c ∈ ['(', ')', '[', ']', ',', '.', '|'],
      Lexeme.op (String.ofList [c]) ∉ [.op ":=", .op "="]) c h

theorem Spelt.plain (h : Spelt .operand ps) :
    Parser.Plain (lexemesOf ps) ∧ starts (lexemesOf ps) = true ∧
      (lexemesOf ps).head? ≠ some (.op ":") := by
  obtain ⟨p, qs, rfl, hp⟩ := h.exists_cons
  have hb := h.orderly.belongs
  obtain ⟨x, hx, hstrange, hunary⟩ := (hb p (.head _)).lexeme hp
  have hls : lexemesOf (p :: qs) = x :: lexemesOf qs := List.filterMap_cons_some hx
  have hnext : ∀ y ∈ (lexemesOf qs).head?, y ∉ [.op ":=", .op "="] := fun y hy => by
    obtain ⟨q, hq, hqy⟩ := List.mem_filterMap.1 (List.mem_of_mem_head? hy)
    exact (hb q (.tail _ hq)).lexeme_ne hqy
  have hne (y : Lexeme) (hy : y ∈ strangers) : (x == y) = false :=
    beq_false_of_ne fun hxy => hstrange (hxy ▸ hy)
  rw [hls]
  refine ⟨⟨List.cons_ne_nil _ _, fun s => ?_⟩, ?_, ?_⟩
  · cases s with
    | named =>
      cases hqs : lexemesOf qs with
      | nil => rfl
      | cons y ms =>
        have := hnext y (by rw [hqs]; rfl)
        exact beq_false_of_ne fun hy => this (by simp [hy])
    | test | not | await => exact hne _ (by decide)
    | factor => exact Option.isSome_eq_false_iff.2 (by simp [hunary])
    | _ => rfl
  · have hbarred : x ∉ Parser.barred := fun hmem => hstrange (List.mem_append_left _ hmem)
    have hgives : Parser.givesValue (lexemesOf qs) = false := by
      unfold Parser.givesValue
      cases hqs : (lexemesOf qs).head? with
      | none => rfl
      | some y => simpa using hnext y hqs
    simp [starts, hbarred, hgives]
  · rintro ⟨⟩
    exact hstrange (by decide)

/-! ## Reading -/

/-- A text is spelt as an operand, and the parser makes the expression of its lexemes, in the way
that `P` says. -/
def Written (P : List Lexeme → (Nat → Tree) → Prop) (cs : List Char) (e : Expr) : Prop :=
  ∃ ps t, Spelt .operand ps ∧ layOut ps = cs ∧ (∀ l, (t l).expr = e) ∧ P (lexemesOf ps) t

theorem Written.unites (h : Written Heads cs e) : Written Unites cs e := by
  obtain ⟨ps, t, hps, rfl, he, hheads⟩ := h
  have hplain := hps.plain.1
  have factor : Reads .factor (lexemesOf ps) t := (hheads.reads hplain.1).factor_of_atom hplain
  exact ⟨ps, t, hps, rfl, he, (factor.bitXor_of_factor hplain.1).unites⟩

theorem Unites.test {ls : List Lexeme} {t : Nat → Tree} (h : Unites ls t)
    (hplain : Parser.Plain ls) : Reads .test ls t :=
  (h.reads hplain.1).test_of_bitOr hplain.1 (hplain.2 _) (hplain.2 _)

theorem Written.item (h : Written Unites cs e) : Written Item cs e := by
  obtain ⟨ps, t, hps, hcs, he, hunites⟩ := h
  exact ⟨ps, t, hps, hcs, he, ⟨Unites.test hunites hps.plain.1, hps.plain.2.1⟩⟩

theorem PlainType.not_starred (h : PlainType e) {t : Tree} (ht : t.expr = e) :
    Parser.isStarred t = false := by
  subst ht
  obtain ⟨l, f⟩ := t
  cases f with
  | starred v => cases h
  | _ => rfl

theorem Written.indexItem (h : Written Unites cs e) (he : PlainType e) :
    Written IndexItem cs e := by
  obtain ⟨ps, t, hps, hcs, ht, hitem⟩ := h.item
  exact ⟨ps, t, hps, hcs, ht, ⟨hitem, hps.plain.2.2, fun l => he.not_starred (ht l)⟩⟩

theorem Written.group (h : Written Unites cs e) : Written Heads ('(' :: cs ++ [')']) e := by
  obtain ⟨ps, t, hps, rfl, ht, hitem⟩ := h.item
  refine ⟨_, t, hps.group, by simp [text], ht, ?_⟩
  have hls : lexemesOf (.sign '(' :: (ps ++ [.sign ')'])) =
      .op "(" :: lexemesOf ps ++ [.op ")"] := by
    simp [lexeme?]
  exact hls ▸ Parser.heads_group hitem

/-! ## Several items -/

/-- Operands with commas between them. -/
def row : List (List Snippet) → List Snippet
  | [] => []
  | [ps] => ps
  | ps :: rows => ps ++ .sign ',' :: .blank :: row rows

/-- Operands as they stand for a tuple: one keeps a comma behind it. -/
def tupleRow : List (List Snippet) → List Snippet
  | [ps] => ps ++ [.sign ',']
  | rows => row rows

variable {rows : List (List Snippet)}

theorem layOut_row (rows : List (List Snippet)) :
    layOut (row rows) = joinWith ", " (rows.map layOut) := by
  induction rows using row.induct with
  | case1 => rfl
  | case2 ps => rfl
  | case3 ps rows hne ih =>
    obtain ⟨qs, rows, rfl⟩ := List.exists_cons_of_ne_nil hne
    simp only [row, layOut_append, layOut_cons, ih]
    simp [joinWith, text]

theorem layOut_tupleRow (rows : List (List Snippet)) :
    layOut (tupleRow rows) = tupleItems (rows.map layOut) := by
  match rows with
  | [] => rfl
  | [ps] => simp [tupleRow, tupleItems, text]
  | ps :: qs :: rows => exact layOut_row (ps :: qs :: rows)

theorem lexemesOf_row (rows : List (List Snippet)) :
    lexemesOf (row rows) = separatedBy (rows.map lexemesOf) := by
  induction rows using row.induct with
  | case1 => rfl
  | case2 ps => simp [row, separatedBy, Parser.commas]
  | case3 ps rows hne ih =>
    obtain ⟨qs, rows, rfl⟩ := List.exists_cons_of_ne_nil hne
    simp only [row, lexemesOf_append, lexemesOf_cons, ih]
    simp [separatedBy, Parser.commas, lexeme?]

theorem lexemesOf_tupleRow (rows : List (List Snippet)) :
    lexemesOf (tupleRow rows) = tupled (rows.map lexemesOf) := by
  match rows with
  | [] => rfl
  | [ps] => simp [tupleRow, tupled, lexeme?]
  | ps :: qs :: rows => exact lexemesOf_row (ps :: qs :: rows)

theorem spelt_row (hne : rows ≠ []) (h : ∀ ps ∈ rows, Spelt .operand ps) :
    Spelt .items (row rows) := by
  induction rows using row.induct with
  | case1 => exact absurd rfl hne
  | case2 ps => exact .one (h ps (.head _))
  | case3 ps rows hne' ih =>
    obtain ⟨hps, hrows⟩ := List.forall_mem_cons.1 h
    obtain ⟨qs, rows, rfl⟩ := List.exists_cons_of_ne_nil hne'
    exact .more hps (ih hne' hrows)

theorem spelt_tupleRow (hne : rows ≠ []) (h : ∀ ps ∈ rows, Spelt .operand ps) :
    Spelt .items (tupleRow rows) := by
  match rows with
  | [] => exact absurd rfl hne
  | [ps] => exact .single (h ps (.head _))
  | ps :: qs :: rows => exact spelt_row hne h

/-- Items are written one by one. -/
theorem exists_rows {items : List Expr}
    (h : ∀ e ∈ items, Written IndexItem (printAt false Strength.test.level e) e) :
    ∃ (rows : List (List Snippet)) (us : List (Nat → Tree)),
      (∀ ps ∈ rows, Spelt .operand ps) ∧ rows.map layOut = printList false items ∧
        (∀ l, Tree.exprs (us.map (· l)) = items) ∧
          List.Forall₂ IndexItem (rows.map lexemesOf) us := by
  induction items with
  | nil => exact ⟨[], [], nofun, rfl, fun _ => rfl, .nil⟩
  | cons e items ih =>
    obtain ⟨he, hitems⟩ := List.forall_mem_cons.1 h
    obtain ⟨ps, t, hps, hcs, ht, hitem⟩ := he
    obtain ⟨rows, us, hrows, htext, hus, hread⟩ := ih hitems
    refine ⟨ps :: rows, t :: us, List.forall_mem_cons.2 ⟨hps, hrows⟩, ?_, fun l => ?_,
      .cons hitem hread⟩
    · rw [List.map_cons, hcs, htext, printList]
    · rw [List.map_cons, Tree.exprs, ht, hus]

/-! ## Expressions -/

/-- The texts of an expression in weak and in strong surroundings. -/
structure Prints (e : Expr) : Prop where
  weak : ∀ level ≤ Strength.bitOr.level, Written Unites (printAt false level e) e
  strong : ∀ level, Strength.bitOr.level < level → Written Heads (printAt false level e) e

/-- One text in all surroundings. -/
theorem Prints.of_heads (h : ∀ level, Written Heads (printAt false level e) e) : Prints e :=
  ⟨fun level _ => (h level).unites, fun level _ => h level⟩

theorem Prints.head (h : Prints e) : Written Heads (printAt false Strength.atom.level e) e :=
  h.strong _ (by decide)

theorem Prints.indexItem (h : Prints e) (he : PlainType e) :
    Written IndexItem (printAt false Strength.test.level e) e :=
  (h.weak _ (by decide)).indexItem he

theorem isTypeWord_of_isName {n : String} (h : IsName n) : IsTypeWord n.toList :=
  ⟨h.word, .inl (by rw [String.ofList_toList]; exact h.plain)⟩

theorem isTypeWord_none : IsTypeWord "None".toList := ⟨by decide, .inr rfl⟩

theorem prints_name {n : String} (h : IsName n) : Prints (.name n) := by
  refine .of_heads fun level => ⟨[.word n.toList], (.mk · (.name n)),
    .word (isTypeWord_of_isName h), ?_, fun _ => rfl, ?_⟩
  · simp [text, printAt]
  · simpa [lexeme?] using Parser.heads_name h.plain

theorem prints_attribute {v : Expr} {a : String} (hv : PlainType v) (ih : Prints v)
    (ha : IsName a) : Prints (.attribute v a) := by
  refine .of_heads fun level => ?_
  obtain ⟨ps, t, hps, hcs, ht, hheads⟩ := ih.head
  refine ⟨_, fun l => .mk (t l).line (.attribute (t l) a), hps.member (isTypeWord_of_isName ha), ?_,
    fun l => ?_, ?_⟩
  · rw [printAt, ← hcs]
    · simp [text]
    · rintro n rfl
      cases hv
    · rintro b rfl
      cases hv
  · rw [Tree.expr, Tree.formExpr, ht]
  · simpa [lexeme?] using hheads.attribute ha.plain

/-- What stands between the brackets of an index. -/
theorem prints_index {v i : Expr} {qs : List Snippet} {u : Nat → Tree} (ih : Prints v)
    (hqs : Spelt .items qs) (hu : ∀ l, (u l).expr = i) (hi : Parser.Indexes (lexemesOf qs) u)
    (htext : ∀ level, printAt false level (.subscript v i) =
      printAt false Strength.atom.level v ++ '[' :: layOut qs ++ [']']) :
    Prints (.subscript v i) := by
  refine .of_heads fun level => ?_
  obtain ⟨ps, t, hps, hcs, ht, hheads⟩ := ih.head
  refine ⟨_, fun l => .mk (t l).line (.subscript (t l) (u l)), hps.index hqs, ?_, fun l => ?_, ?_⟩
  · rw [htext, ← hcs]
    simp [text]
  · rw [Tree.expr, Tree.formExpr, ht, hu]
  · simpa [lexeme?] using hheads.subscript hi

theorem prints_subscript {v i : Expr} (ih : Prints v) (hi : PlainType i) (ihi : Prints i) :
    Prints (.subscript v i) := by
  obtain ⟨qs, u, hqs, hcs, hu, hitem⟩ := ihi.indexItem hi
  refine prints_index ih (.one hqs) hu hitem.indexes fun level => ?_
  rw [printAt, hcs]
  rintro x xs rfl
  cases hi

theorem prints_subscripts {v : Expr} {items : List Expr} (ih : Prints v) (hne : items ≠ [])
    (h : ∀ e ∈ items, Written IndexItem (printAt false Strength.test.level e) e) :
    Prints (.subscript v (.tuple items)) := by
  obtain ⟨rows, us, hrows, htext, hus, hread⟩ := exists_rows h
  have hrows' : rows ≠ [] := by
    rintro rfl
    obtain ⟨e, items, rfl⟩ := List.exists_cons_of_ne_nil hne
    cases htext
  obtain ⟨k, hk⟩ := Parser.indexes_tuple hread (by simpa using hrows')
  rw [← lexemesOf_tupleRow] at hk
  refine prints_index ih (spelt_tupleRow hrows' hrows) (fun l => ?_) hk fun level => ?_
  · rw [Tree.expr, Tree.formExpr, hus]
  · obtain ⟨e, items, rfl⟩ := List.exists_cons_of_ne_nil hne
    rw [printAt, layOut_tupleRow, htext]

theorem prints_list {items : List Expr}
    (h : ∀ e ∈ items, Written IndexItem (printAt false Strength.test.level e) e) :
    Prints (.list items) := by
  obtain ⟨rows, us, hrows, htext, hus, hread⟩ := exists_rows h
  refine .of_heads fun level => ⟨.sign '[' :: (row rows ++ [.sign ']']),
    fun l => .mk l (.list (us.map (· l))), ?_, ?_, fun l => ?_, ?_⟩
  · cases hempty : rows with
    | nil => exact .empty
    | cons ps rows' => exact .list (spelt_row (List.cons_ne_nil _ _) (hempty ▸ hrows))
  · rw [printAt, ← htext, ← layOut_row]
    simp [text]
  · rw [Tree.expr, Tree.formExpr, hus]
  · have hls : lexemesOf (.sign '[' :: (row rows ++ [.sign ']'])) =
        .op "[" :: separatedBy (rows.map lexemesOf) ++ [.op "]"] := by
      simp [lexeme?, lexemesOf_row]
    rw [hls]
    exact Parser.heads_list (hread.imp fun _ _ hi => hi.item)

theorem prints_union {l r : Expr} (ihl : Prints l) (ihr : Prints r) :
    Prints (.binary l .bitOr r) := by
  have union : Written Unites (printAt false Strength.bitOr.level l ++ ' ' :: '|' :: ' ' ::
      printAt false (above Strength.bitOr.level) r) (.binary l .bitOr r) := by
    obtain ⟨ps, t, hps, hcs, ht, hunites⟩ := ihl.weak Strength.bitOr.level (Nat.le_refl _)
    obtain ⟨qs, u, hqs, hcs', hu, hheads⟩ := ihr.strong (above Strength.bitOr.level) (by decide)
    have hplain := hqs.plain.1
    have hxor : Reads .bitXor (lexemesOf qs) u :=
      ((hheads.reads hplain.1).factor_of_atom hplain).bitXor_of_factor hplain.1
    refine ⟨_, fun l => .mk (t l).line (.binary (t l) .bitOr (u l)), hps.union hqs, ?_, fun l => ?_,
      ?_⟩
    · rw [← hcs, ← hcs']
      simp [text]
    · rw [Tree.expr, Tree.formExpr, ht, hu]
    · simpa [lexeme?] using hunites.union hxor
  refine ⟨fun level hlevel => ?_, fun level hlevel => ?_⟩
  · have hbare : ¬ Strength.bitOr.level < level := Nat.not_lt.2 hlevel
    simpa [printAt, binaryStrength, binaryText, parenthesized, hbare] using union
  · have := union.group
    simpa [printAt, binaryStrength, binaryText, parenthesized, hlevel] using this

theorem PlainType.prints (h : PlainType e) : Prints e := by
  induction h with
  | none =>
    exact .of_heads fun _ => ⟨[.word "None".toList], (.mk · (.const .none)), .word isTypeWord_none,
      rfl, fun _ => rfl, Parser.heads_constant rfl⟩
  | ellipsis =>
    exact .of_heads fun _ => ⟨[.dots], (.mk · (.const .ellipsis)), .dots, rfl, fun _ => rfl,
      Parser.heads_ellipsis⟩
  | name h => exact prints_name h
  | member hv ha ih => exact prints_attribute hv ih ha
  | subscript _ hi ihv ihi => exact prints_subscript ihv hi ihi
  | subscripts _ hne hitems ihv ih =>
    exact prints_subscripts ihv hne fun e he => (ih e he).indexItem (hitems e he)
  | list hitems ih => exact prints_list fun e he => (ih e he).indexItem (hitems e he)
  | union _ _ ihl ihr => exact prints_union ihl ihr

/-! ## Whole types -/

/-- What is read of a text that the clean-up leaves in order. -/
theorem readType_of_orderly {text : String} {p : Snippet} (h : Orderly (p :: ps)) (hp : Leads p)
    (htext : cleanType text.toList = layOut (p :: ps)) :
    readType text = .ok ((parseTree? (layOut (p :: ps))).map Tree.expr) := by
  obtain ⟨c, r, hcr, -⟩ := h.begins hp
  have hempty : (layOut (p :: ps)).isEmpty = false := by rw [hcr]; rfl
  have hnull : (layOut (p :: ps)).contains '\x00' = false := by
    simpa using h.not_mem (c := '\x00') (by decide) (by decide)
  have hline : ∀ c ∈ layOut (p :: ps), c ≠ '\r' := by
    rintro c hc rfl
    exact h.not_mem (by decide) (by decide) hc
  unfold readType
  simp only [htext, hempty, hnull, Bool.false_eq_true, if_false, unifyLineEnds_eq hline]
  rfl

/-- The text of a type expression is read as the expression, unless the letters of `default` follow
a comma in it, in any case and whatever they belong to, or more than two hundred brackets stand in
each other: then it is read as no type. -/
theorem readType_print (h : PlainType e) :
    (¬ SaysDefault (print e).toList ∧ nesting (print e).toList ≤ 200 →
      readType (print e) = .ok (some e)) ∧
    (SaysDefault (print e).toList ∨ 200 < nesting (print e).toList →
      readType (print e) = .ok none) := by
  obtain ⟨ps, t, hps, hcs, ht, hitem⟩ := (h.prints.weak Strength.test.level (by decide)).item
  have hprint : (print e).toList = layOut ps := by rw [print, String.toList_ofList, hcs]
  have hparse := hps.parseTree hitem.reads
  rw [hprint]
  have hplain (hdefault : ¬ SaysDefault (layOut ps)) :
      readType (print e) = .ok ((parseTree? (layOut ps)).map Tree.expr) := by
    obtain ⟨p, qs, rfl, hp⟩ := hps.exists_cons
    refine readType_of_orderly hps.orderly hp ?_
    rw [hprint, hps.cleanType_of_not hdefault]
  refine ⟨fun ⟨hdefault, hnest⟩ => ?_, fun hrefused => ?_⟩
  · rw [hplain hdefault, hparse, if_pos hnest, Option.map_some, ht]
  · by_cases hdefault : SaysDefault (layOut ps)
    · obtain ⟨front, back, rfl, hclean⟩ := hps.cleanType_of_says hdefault
      obtain ⟨hfront, p, qs, rfl, hp⟩ := hps.of_comma
      rw [readType_of_orderly hfront hp (by rw [hprint, hclean]), hps.parseTree_front]
      rfl
    · have hnest : ¬ nesting (layOut ps) ≤ 200 := Nat.not_le.2 (hrefused.resolve_left hdefault)
      rw [hplain hdefault, hparse, if_neg hnest]
      rfl

/-- A mapping to numbers is read as it is printed; a mapping to `defaultdict` is no type. -/
theorem readType_print_mapping :
    readType (print (.subscript (.name "dict") (.tuple [.name "str", .name "int"]))) =
        .ok (some (.subscript (.name "dict") (.tuple [.name "str", .name "int"]))) ∧
      readType (print (.subscript (.name "dict") (.tuple [.name "str",
        .subscript (.name "defaultdict") (.tuple [.name "str", .name "int"])]))) = .ok none := by
  have dict : PlainType (.name "dict") := .name (by decide)
  have default : PlainType (.name "defaultdict") := .name (by decide)
  have str : PlainType (.name "str") := .name (by decide)
  have int : PlainType (.name "int") := .name (by decide)
  have mapping {v w : Expr} (hv : PlainType v) (hw : PlainType w) :
      PlainType (.subscript v (.tuple [.name "str", w])) :=
    .subscripts hv (List.cons_ne_nil _ _) (by simpa using ⟨str, hw⟩)
  exact ⟨(readType_print (mapping dict int)).1 (by decide),
    (readType_print (mapping dict (mapping default int))).2 (by decide)⟩

end Exemplar.Docstring
