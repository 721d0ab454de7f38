import Exemplar.Callables
import Exemplar.Proofs.Hint.Opaque
import Exemplar.Proofs.Hint.Place
import Mathlib.Logic.Relation

/-
  Which declarations have a say in a shape. The shape of a hint needs those of the hints that it
  reads, and on from there by quotes and by declarations (`Needs`); the names at the heads of all
  these hints are looked up (`LooksUp`), be they declared or not. Where two tables of declarations
  agree on them, the hint has one shape in both (`answer_agree`, by induction along the queries of
  the first table), so that the statements of a file that declare other names may come, go and
  change (`shapes_local`).
-/

namespace Exemplar.Declarations

/-- The shape of a hint needs the shape of another one: one that it reads, the one that it quotes,
or one in the declaration of the name at its head. -/
inductive Needs (t : Declarations) : Expr → Expr → Prop
  | read {e e'} (h : Hint.Reads (fun n => (t.get? n).isSome) e e') : Needs t e e'
  | quoted {s marked e} (h : Hint.parseQuoted s = .ok (some e)) :
    Needs t (.const (.str s marked)) e
  | declared {e n d e'} (h : Hint.headName? e = some n) (hd : t.get? n = some d)
    (he : e' ∈ d.hints) : Needs t e e'

/-- The name, declared or not, is at the head of a hint whose shape that of `e` needs, at any
remove. -/
def LooksUp (t : Declarations) (e : Expr) (n : String) : Prop :=
  ∃ e', Relation.ReflTransGen t.Needs e e' ∧ Hint.headName? e' = some n

variable {t t' : Declarations} {active : List String} {e e' : Expr} {n : String} {d : Declaration}

theorem LooksUp.head (h : Hint.headName? e = some n) : t.LooksUp e n := ⟨e, .refl, h⟩

theorem LooksUp.of_needs (h : t.Needs e e') (hn : t.LooksUp e' n) : t.LooksUp e n := by
  obtain ⟨e'', hneeds, hhead⟩ := hn
  exact ⟨e'', hneeds.head h, hhead⟩

/-- What a hint needs is asked for when it is resolved. -/
theorem Asks.of_reads (h : Hint.Reads (fun n => (t.get? n).isSome) e e') :
    t.Asks (.hint active e) (.hint active e') :=
  .part h.mem_parts

/-- By induction along the queries of the first table: inside the same names, a hint that looks up
no name of which the tables differ has one answer. -/
theorem answer_agree (h : ∀ n, t.LooksUp e n → t.get? n = t'.get? n) :
    Query.answer t (.hint active e) = Query.answer t' (.hint active e) := by
  generalize hq : Query.hint active e = q
  induction q using (asks_wellFounded t).transGen.induction generalizing active e with
  | _ q ih =>
    subst hq
    rw [Query.answer_step, Query.answer_step]
    -- Only what is read counts: a hint that is not may look up names of which the tables differ.
    refine Hint.step_reads (fun e' he' => ?_) (fun n hn => ?_) fun s m heq => ?_
    · have hread : Hint.Reads (fun n => (t.get? n).isSome) e e' := by simpa using he'
      exact ih _ (.single (.of_reads hread)) (fun n hn => h n (.of_needs (.read hread) hn)) rfl
    · have hsame := h n (.head hn)
      cases hd : t.get? n with
      | none => rw [← hsame, hd, Option.map_none, Option.map_none]
      | some d =>
        have hd' : t'.get? n = some d := hsame.symm.trans hd
        rw [hd']
        rw [Option.map_some, Option.map_some, answer_name hd, answer_name hd']
        refine congrArg some ?_
        by_cases ha : n ∈ active
        · rw [if_pos ha, if_pos ha]
        · rw [if_neg ha, if_neg ha]
          refine Declaration.expand_congr fun e' he' => ?_
          exact ih _ (.tail (.single (.expanded ha hd he')) (.name hn hd))
            (fun k hk => h k (.of_needs (.declared hn hd he') hk)) rfl
    · subst heq
      rw [Query.answer_step, Query.answer_step]
      refine Hint.stepQuoted_congr fun e' he' => ?_
      exact ih _ (.tail (.single (.parsed he')) .quoted)
        (fun n hn => h n (.of_needs (.quoted he') hn)) rfl

theorem inside_declared (hd : t.get? n = some d) :
    t.inside active n = some (Query.answer t (.name active n)) :=
  congrArg (Option.map _) hd

theorem inside_undeclared (hd : t.get? n = none) : t.inside active n = none :=
  congrArg (Option.map _) hd

/-- A declared name that is not being expanded stands for its declaration. -/
theorem shapeIn_name (hd : t.get? n = some d) (h : n ∉ active) :
    Hint.shapeIn (t.inside active) (.name n) =
      d.expand (Hint.shapeIn (t.inside (n :: active))) := by
  calc Hint.shapeIn (t.inside active) (.name n)
      = Query.answer t (.name active n) := by
        rw [Hint.shapeIn_step, Hint.step_name, inside_declared hd, Option.getD_some]
    _ = d.expand (Hint.shapeIn (t.inside (n :: active))) := by
        rw [answer_name hd, if_neg h]
        rfl

/-- Any other name stands for what it is known for. -/
theorem shapeIn_undeclared (hd : t.get? n = none) :
    Hint.shapeIn (t.inside active) (.name n) = pure (Hint.bareShape n) := by
  rw [Hint.shapeIn_step, Hint.step_name, inside_undeclared hd, Option.getD_none]

/-- Brackets after a name that is not declared are read by the form of that name. -/
theorem shapeIn_form {head index : Expr} {name : String} (hname : head.tailName? = some name)
    (hu : ∀ n ∈ Hint.headName? (.subscript head index), t.get? n = none) :
    Hint.shapeIn (t.inside active) (.subscript head index) =
      Hint.argumentStep (Hint.shapeIn (t.inside active)) (Hint.Form.ofName name)
        (Hint.arguments index) := by
  rw [Hint.shapeIn_step]
  exact Hint.step_form hname fun n hn => inside_undeclared (hu n hn)

/-- Brackets after a declared name are not read. -/
theorem shapeIn_declared {index : Expr} (hd : t.get? n = some d) :
    Hint.shapeIn (t.inside active) (.subscript (.name n) index) =
      Query.answer t (.name active n) := by
  rw [Hint.shapeIn_step]
  exact Hint.step_declared (inside_declared hd)

/-! ## The table of a file -/

theorem lookup_cons_ite {α : Type} (n : String) (e : String × α) (es : List (String × α)) :
    (e :: es).lookup n = if n = e.1 then some e.2 else es.lookup n := by
  rw [List.lookup_cons]
  by_cases h : n = e.1
  · rw [if_pos h, beq_iff_eq.mpr h]
  · rw [if_neg h, beq_eq_false_iff_ne.mpr h]

theorem lookup_putEntry (n : String) (d : Declaration) (m : String)
    (es : List (String × Declaration)) :
    (putEntry n d es).lookup m = if m = n then some d else es.lookup m := by
  induction es with
  | nil => exact lookup_cons_ite m (n, d) []
  | cons e es ih =>
    unfold putEntry
    split
    · rename_i hn
      rw [lookup_cons_ite, lookup_cons_ite, beq_iff_eq.mp hn]
      by_cases h : m = n
      · rw [if_pos h, if_pos h]
      · rw [if_neg h, if_neg h, if_neg h]
    · rename_i hn
      rw [lookup_cons_ite, lookup_cons_ite, ih]
      by_cases h : m = e.1
      · rw [if_pos h, if_pos h, if_neg (h ▸ fun heq => hn (beq_iff_eq.mpr heq))]
      · rw [if_neg h, if_neg h]

theorem get_put (t : Declarations) (n : String) (d : Declaration) (m : String) :
    (t.put n d).get? m = if m = n then some d else t.get? m := lookup_putEntry n d m t.entries

/-- What a file declares a name to be is what the last statement does that declares it. -/
theorem get_ofStmts (body : List Stmt) (n : String) :
    (ofStmts body).get? n = (body.filterMap Declaration.ofStmt?).reverse.lookup n := by
  unfold ofStmts
  induction body.filterMap Declaration.ofStmt? using List.reverseRecOn with
  | nil => rfl
  | append_singleton es e ih =>
    rw [List.foldl_concat, List.reverse_concat, lookup_cons_ite, ← ih]
    exact get_put _ _ _ _

/-- Statements that declare other names have no say in a name. -/
theorem get_ofStmts_between {before middle after : List Stmt}
    (h : ∀ s ∈ middle, ∀ d, Declaration.ofStmt? s ≠ some (n, d)) :
    (ofStmts (before ++ middle ++ after)).get? n = (ofStmts (before ++ after)).get? n := by
  have none : (middle.filterMap Declaration.ofStmt?).reverse.lookup n = none := by
    refine List.lookup_eq_none_iff.mpr fun e he => bne_iff_ne.mpr ?_
    rintro rfl
    obtain ⟨s, hs, heq⟩ := List.mem_filterMap.mp (List.mem_reverse.mp he)
    exact h s hs e.2 heq
  rw [get_ofStmts, get_ofStmts]
  simp only [List.filterMap_append, List.reverse_append, List.lookup_append, none, Option.none_or]

/-! ## Parameters -/

theorem resolve_congr {hint documented : Option Expr} (hh : ∀ e ∈ hint, t.shapeOf e = t'.shapeOf e)
    (hd : ∀ e ∈ documented, t.shapeOf e = t'.shapeOf e) :
    t.resolve hint documented = t'.resolve hint documented := by
  unfold resolve
  cases hint with
  | none =>
    cases documented with
    | none => rfl
    | some e => dsimp only; rw [hd e rfl]
  | some e' =>
    dsimp only
    rw [hh e' rfl]
    cases documented with
    | none => rfl
    | some e => dsimp only; rw [hd e rfl]

end Exemplar.Declarations

namespace Exemplar.Callables.Hinted

variable {t t' : Declarations} {docs : List (String × Expr)}

/-- The hints that the shape of a parameter is read from: its own and the documented one. -/
def sources (docs : List (String × Expr)) (p : Hinted) : List Expr :=
  p.hint.toList ++ (docs.lookup p.name).toList

theorem read_congr {p : Hinted} (h : ∀ e ∈ p.sources docs, t.shapeOf e = t'.shapeOf e) :
    p.read t docs = p.read t' docs := by
  have hshape : t.resolve p.hint (docs.lookup p.name) = t'.resolve p.hint (docs.lookup p.name) :=
    Declarations.resolve_congr
      (fun e he => h e (List.mem_append_left _ (Option.mem_toList.mpr he)))
      fun e he => h e (List.mem_append_right _ (Option.mem_toList.mpr he))
  unfold read shapeOrUnknown
  rw [hshape]

end Exemplar.Callables.Hinted

namespace Exemplar.Declarations

open Callables (Hinted)

/-- Two tables of declarations give a hint the same shape, and a parameter the same type, if they
agree on the names that are looked up for it: both declare such a name alike, or neither does. So
the statements of a file that declare no such name have no say in a parameter: others can stand in
their place, or none. -/
theorem shapes_local (t t' : Declarations) :
    (∀ e, (∀ n, t.LooksUp e n → t.get? n = t'.get? n) → t.shapeOf e = t'.shapeOf e) ∧
    (∀ (p : Hinted) docs,
      (∀ e ∈ p.sources docs, ∀ n, t.LooksUp e n → t.get? n = t'.get? n) →
        p.read t docs = p.read t' docs) ∧
    ∀ before middle middle' after (p : Hinted) docs,
      (∀ e ∈ p.sources docs, ∀ n, (ofStmts (before ++ middle ++ after)).LooksUp e n →
        ∀ s ∈ middle ++ middle', ∀ d, Declaration.ofStmt? s ≠ some (n, d)) →
      p.read (ofStmts (before ++ middle ++ after)) docs =
        p.read (ofStmts (before ++ middle' ++ after)) docs := by
  refine ⟨fun e h => answer_agree h, fun p docs h => Hinted.read_congr fun e he =>
    answer_agree (h e he), fun before middle middle' after p docs h => ?_⟩
  refine Hinted.read_congr fun e he => answer_agree fun n hn => ?_
  have apart := h e he n hn
  calc (ofStmts (before ++ middle ++ after)).get? n
      = (ofStmts (before ++ after)).get? n :=
        get_ofStmts_between fun s hs => apart s (List.mem_append_left _ hs)
    _ = (ofStmts (before ++ middle' ++ after)).get? n :=
        (get_ofStmts_between fun s hs => apart s (List.mem_append_right _ hs)).symm

/-- Hints of which each needs others of them alone look up the names at their own heads. -/
theorem LooksUp.of_closed {t : Declarations} {e : Expr} {n : String} {p : Expr → Prop}
    (closed : ∀ e e', p e → t.Needs e e' → p e') (he : p e) (h : t.LooksUp e n) :
    ∃ e', p e' ∧ Hint.headName? e' = some n := by
  obtain ⟨e', hneeds, hn⟩ := h
  refine ⟨e', ?_, hn⟩
  clear hn
  induction hneeds with
  | refl => exact he
  | tail _ hlast ih => exact closed _ _ ih hlast

/-- The statement that gives a type a name. -/
def nameType (name : String) (type : Tree) : Stmt :=
  .mk (.assign [.mk 0 (.name name)] type) default default

/-- A tree is a list of leaves, which are declared later. -/
def treeStmt : Stmt :=
  nameType "Tree" (.mk 0 (.subscript (.mk 0 (.name "list")) (.mk 0 (.const (.str "Leaf")))))

def leafStmt : Stmt := nameType "Leaf" (.mk 0 (.name "int"))

def spareStmt (type : String) : Stmt := nameType "Spare" (.mk 0 (.name type))

/-- A file that declares something else between a tree and its leaves. -/
def treeFile (between : List Stmt) : Declarations := ofStmts ([treeStmt] ++ between ++ [leafStmt])

/-- The hints that a tree leads to. -/
inductive TreeHint : Expr → Prop
  | tree : TreeHint (.name "Tree")
  | leaves : TreeHint (.subscript (.name "list") (.const (.str "Leaf")))
  | quoted : TreeHint (.const (.str "Leaf"))
  | leaf : TreeHint (.name "Leaf")
  | int : TreeHint (.name "int")

theorem parseQuoted_leaf : Hint.parseQuoted "Leaf" = .ok (some (.name "Leaf")) := by
  rfl

theorem treeHint_closed (e e' : Expr) (he : TreeHint e)
    (h : (treeFile [spareStmt "str"]).Needs e e') : TreeHint e' := by
  cases h with
  | read h =>
    cases h with
    | left | right => cases he
    | argument hname hu he' =>
      cases he
      cases hname
      cases List.mem_singleton.mp he'
      exact .quoted
  | quoted h =>
    cases he
    rw [parseQuoted_leaf] at h
    cases h
    exact .leaf
  | declared h hd he' =>
    cases he with
    | tree =>
      cases h
      cases hd
      cases List.mem_singleton.mp he'
      exact .leaves
    | leaf =>
      cases h
      cases hd
      cases List.mem_singleton.mp he'
      exact .int
    | quoted => cases h
    | leaves | int =>
      cases h
      cases hd

theorem looksUp_tree {n : String} (h : (treeFile [spareStmt "str"]).LooksUp (.name "Tree") n) :
    n ∈ ["Tree", "list", "Leaf", "int"] := by
  obtain ⟨e, he, hn⟩ := h.of_closed treeHint_closed .tree
  cases he <;> cases hn <;> decide

theorem shapeOf_tree :
    (treeFile [spareStmt "str"]).shapeOf (.name "Tree") = .ok (.list (.plain .number)) := by
  have tree : (treeFile [spareStmt "str"]).get? "Tree" =
      some (.synonym (.subscript (.name "list") (.const (.str "Leaf")))) := rfl
  have leaf : (treeFile [spareStmt "str"]).get? "Leaf" = some (.synonym (.name "int")) := rfl
  have int : (treeFile [spareStmt "str"]).get? "int" = none := rfl
  calc (treeFile [spareStmt "str"]).shapeOf (.name "Tree")
      = Hint.shapeIn ((treeFile [spareStmt "str"]).inside ["Tree"])
          (.subscript (.name "list") (.const (.str "Leaf"))) := shapeIn_name tree List.not_mem_nil
    _ = .list <$> Hint.shapeIn ((treeFile [spareStmt "str"]).inside ["Tree"])
          (.const (.str "Leaf")) := Hint.shapeIn_step _
    _ = .list <$> Hint.shapeIn ((treeFile [spareStmt "str"]).inside ["Leaf", "Tree"])
          (.name "int") := by
        rw [Hint.shapeIn_quoted parseQuoted_leaf, shapeIn_name leaf (by decide)]
        rfl
    _ = .ok (.list (.plain .number)) := by
        rw [shapeIn_undeclared int]
        rfl

def treeParameter : Hinted where
  name := "x"
  hint := some (.name "Tree")

theorem read_tree : Hinted.read (treeFile [spareStmt "str"]) [] treeParameter =
    .ok ⟨"x", .list (.plain .number), false⟩ := by
  unfold Hinted.read Callables.shapeOrUnknown resolve treeParameter
  dsimp only
  rw [shapeOf_tree]
  rfl

/-- The other statements declare no name that is looked up for a tree. -/
theorem spare_apart {n : String} (h : (treeFile [spareStmt "str"]).LooksUp (.name "Tree") n)
    {d : Declaration} : Declaration.ofStmt? (spareStmt "str") ≠ some (n, d) := by
  have other : n ≠ "Spare" := by
    rintro rfl
    exact absurd (looksUp_tree h) (by decide)
  rintro ⟨⟩
  exact other rfl

/-- What else the file declares is of no effect on a tree, and neither is a name that it is changed
to, or another one that comes to it. -/
theorem shapes_local_tree :
    (∀ n, (treeFile [spareStmt "str"]).LooksUp (.name "Tree") n →
      (treeFile [spareStmt "str"]).get? n = (treeFile [spareStmt "Tree", spareStmt "int"]).get? n) ∧
    (treeFile [spareStmt "str"]).shapeOf (.name "Tree") =
      (treeFile [spareStmt "Tree", spareStmt "int"]).shapeOf (.name "Tree") ∧
    Hinted.read (treeFile [spareStmt "Tree", spareStmt "int"]) [] treeParameter =
      .ok ⟨"x", .list (.plain .number), false⟩ ∧
    Hinted.read (treeFile []) [] treeParameter = .ok ⟨"x", .list (.plain .number), false⟩ := by
  have agree : ∀ n, (treeFile [spareStmt "str"]).LooksUp (.name "Tree") n →
      (treeFile [spareStmt "str"]).get? n =
        (treeFile [spareStmt "Tree", spareStmt "int"]).get? n := by
    intro n hn
    have each : ∀ n ∈ ["Tree", "list", "Leaf", "int"], (treeFile [spareStmt "str"]).get? n =
        (treeFile [spareStmt "Tree", spareStmt "int"]).get? n := by
      simp only [List.forall_mem_cons]
      exact ⟨rfl, rfl, rfl, rfl, nofun⟩
    exact each n (looksUp_tree hn)
  obtain ⟨hshape, hread, -⟩ := shapes_local (treeFile [spareStmt "str"])
    (treeFile [spareStmt "Tree", spareStmt "int"])
  obtain ⟨-, -, hfile⟩ := shapes_local {} {}
  refine ⟨agree, hshape _ agree, ?_, ?_⟩
  · refine (hread _ _ ?_).symm.trans read_tree
    exact List.forall_mem_singleton.mpr agree
  · refine (hfile [treeStmt] [spareStmt "str"] [] [leafStmt] _ _ ?_).symm.trans read_tree
    refine List.forall_mem_singleton.mpr fun n hn => ?_
    exact List.forall_mem_singleton.mpr fun d => spare_apart hn

end Exemplar.Declarations
