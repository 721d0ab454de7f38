import Exemplar.Proofs.Hint.LookUp

/-
  Hints that are spelled in another way. A name that no declaration gives may be written as an
  attribute of a module, and a hint in a place where one is read may be put into quotes; what stands
  where nothing is read may be written in any way (`Spells`). None of this changes a shape, in
  whatever combination and at whatever depth (`shapeOf_respelled`): each spelling has the shape of
  the other (`Spells.shapeIn_eq`), and the places take over the shapes (`Hint.shapeIn_replaced`).
-/

namespace Exemplar.Hint

/-- An expression of a kind that is no hint: neither `None` nor a text, neither a name nor a dotted
one, neither an index nor a `|`. -/
def Foreign : Expr → Prop
  | .const .none | .const (.str _ _) | .name _ | .attribute _ _ | .subscript _ _
  | .binary _ .bitOr _ => False
  | _ => True

/-- An argument between others stands where a form reads nothing, or no more than that it is no
literal. -/
def Form.Ignores (form : Form) (before : List Expr) (e : Expr) (after : List Expr) : Prop :=
  match form with
  | .optional | .wrapper | .sequence => before ≠ []
  | .choice => scalar? e = none
  | .mapping => before.length + after.length ≠ 1
  | .other => True
  | .union | .tuple => False

variable {ref : String → Option (HintM Shape)} {self : Expr → HintM Shape}

theorem shapeIn_foreign {e : Expr} (h : Foreign e) : shapeIn ref e = pure .unknown := by
  rw [shapeIn_step]
  unfold step
  split
  all_goals first
    | exact h.elim
    | rfl

theorem argumentStep_mapping {es : List Expr} (hne : es ≠ []) (h : es.length ≠ 2) :
    argumentStep self .mapping es = pure (.mapping .unknown .unknown) := by
  match es with
  | [] => exact absurd rfl hne
  | [_] => rfl
  | [_, _] => exact absurd rfl h
  | _ :: _ :: _ :: _ => rfl

theorem argumentStep_ignores {form : Form} {before after : List Expr} {e e' : Expr}
    (h : form.Ignores before e after) (h' : form.Ignores before e' after) :
    argumentStep self form (before ++ e :: after) =
      argumentStep self form (before ++ e' :: after) := by
  cases form with
  | optional | wrapper | sequence =>
    cases before with
    | nil => exact absurd rfl h
    | cons b bs => rfl
  | choice =>
    have literals : choiceShape (before ++ e :: after) = choiceShape (before ++ e' :: after) := by
      unfold choiceShape
      rw [List.filterMap_append, List.filterMap_append, List.filterMap_cons_none h,
        List.filterMap_cons_none h']
    cases before with
    | nil => exact congrArg pure literals
    | cons b bs => exact congrArg pure literals
  | mapping =>
    have long : ∀ e : Expr, (before ++ e :: after).length ≠ 2 := fun e hlen =>
      h (Nat.succ.inj (by rwa [List.length_append, List.length_cons] at hlen))
    rw [argumentStep_mapping (by simp) (long e), argumentStep_mapping (by simp) (long e')]
  | other => cases before <;> rfl
  | union | tuple => exact h.elim

end Exemplar.Hint

namespace Exemplar.Declarations

open Hint (Foreign arguments headName? parseQuoted)

/-- The hints differ in what is not read: in an expression of another kind, in the module of a
dotted name, in what stands before brackets that no name does, in what stands in brackets after a
declared name, or in an argument that its form ignores. -/
inductive Unread (t : Declarations) : Expr → Expr → Prop
  | foreign {e e'} (h : Foreign e) (h' : Foreign e') : Unread t e e'
  | module {m m' a} : Unread t (.attribute m a) (.attribute m' a)
  | headModule {m m' a index} :
    Unread t (.subscript (.attribute m a) index) (.subscript (.attribute m' a) index)
  | nameless {head head' index index'} (h : head.tailName? = none) (h' : head'.tailName? = none) :
    Unread t (.subscript head index) (.subscript head' index')
  | declared {n d index index'} (h : t.get? n = some d) :
    Unread t (.subscript (.name n) index) (.subscript (.name n) index')
  | argument {head index index' name before e e' after} (hname : head.tailName? = some name)
    (hi : arguments index = before ++ e :: after) (hi' : arguments index' = before ++ e' :: after)
    (h : (Hint.Form.ofName name).Ignores before e after)
    (h' : (Hint.Form.ofName name).Ignores before e' after) :
    Unread t (.subscript head index) (.subscript head index')

/-- The second hint is another spelling of the first: a name that is not declared is written as an
attribute of a module, alone or in front of brackets; the hint is put into quotes; or they differ in
what is not read. -/
inductive Spells (t : Declarations) : Expr → Expr → Prop
  | qualified {n} (m : Expr) (h : t.get? n = none) : Spells t (.name n) (.attribute m n)
  | qualifiedHead {n} (m index : Expr) (h : t.get? n = none) :
    Spells t (.subscript (.name n) index) (.subscript (.attribute m n) index)
  | quoted {e s} (marked : Bool) (h : parseQuoted s = .ok (some e)) :
    Spells t e (.const (.str s marked))
  | unread {e e'} (h : t.Unread e e') : Spells t e e'

/-- The second hint is the first with another spelling in one place. -/
def Respells (t : Declarations) (e e' : Expr) : Prop :=
  ∃ x x', t.Spells x x' ∧ Hint.Replaced x x' e e'

variable {t : Declarations} {active : List String} {e e' : Expr}

theorem Unread.shapeIn_eq (h : t.Unread e e') :
    Hint.shapeIn (t.inside active) e = Hint.shapeIn (t.inside active) e' := by
  cases h with
  | foreign h h' => rw [Hint.shapeIn_foreign h, Hint.shapeIn_foreign h']
  | module => rw [Hint.shapeIn_step, Hint.shapeIn_step]; rfl
  | headModule => rw [Hint.shapeIn_step, Hint.shapeIn_step]; rfl
  | nameless h h' =>
    rw [Hint.shapeIn_step, Hint.shapeIn_step, Hint.step_nameless h, Hint.step_nameless h']
  | declared h => rw [shapeIn_declared h, shapeIn_declared h]
  | argument hname hi hi' h h' =>
    rw [Hint.shapeIn_step, Hint.shapeIn_step]
    refine Hint.step_index hname ?_
    rw [hi, hi', Hint.argumentStep_ignores h h']

theorem Spells.shapeIn_eq (h : t.Spells e e') :
    Hint.shapeIn (t.inside active) e = Hint.shapeIn (t.inside active) e' := by
  cases h with
  | qualified m h =>
    rw [shapeIn_undeclared h, Hint.shapeIn_step]
    rfl
  | @qualifiedHead n m index h =>
    have bare : ∀ k ∈ headName? (.subscript (.attribute m n) index), t.get? k = none := by
      rintro _ ⟨⟩
    have head : ∀ k ∈ headName? (.subscript (.name n) index), t.get? k = none := by
      rintro _ ⟨⟩
      exact h
    rw [shapeIn_form rfl head, shapeIn_form rfl bare]
  | quoted marked h => exact (Hint.shapeIn_quoted h).symm
  | unread h => exact h.shapeIn_eq

/-- Hints that come from each other by any number of changes of spelling have the same shape, also
inside the declarations of any names. -/
theorem shapeOf_respelled (t : Declarations) (e e' : Expr) (h : Relation.EqvGen t.Respells e e') :
    t.shapeOf e = t.shapeOf e' ∧
      ∀ active, Hint.shapeIn (t.inside active) e = Hint.shapeIn (t.inside active) e' := by
  have all : ∀ active, Hint.shapeIn (t.inside active) e = Hint.shapeIn (t.inside active) e' := by
    intro active
    induction h with
    | rel e e' h =>
      obtain ⟨x, x', hspells, hplace⟩ := h
      exact Hint.shapeIn_replaced hplace hspells.shapeIn_eq
    | refl e => rfl
    | symm e e' _ ih => exact ih.symm
    | trans e e' e'' _ _ ih ih' => exact ih.trans ih'
  exact ⟨all [], all⟩

/-- Of a file in which a leaf is a number. -/
def leaves : Declarations where
  entries := [("Leaf", .synonym (.name "int"))]

/-- A list of leaves or nothing. -/
def leavesHint : Expr := .subscript (.name "Optional") (.subscript (.name "list") (.name "Leaf"))

/-- The same, with quotes in quotes and the name of a module. -/
def leavesHintQuoted : Expr :=
  .subscript (.attribute (.name "typing") "Optional")
    (.subscript (.name "list") (.const (.str "'Leaf'")))

theorem parseQuoted_quotedLeaf : parseQuoted "'Leaf'" = .ok (some (.const (.str "Leaf"))) := by
  rfl

theorem leaves_respelled : Relation.EqvGen leaves.Respells leavesHint leavesHintQuoted := by
  have sequence : ∀ e : Expr, (Hint.Form.ofName "list").Takes [] e [] := fun e => rfl
  have optional : ∀ e : Expr, (Hint.Form.ofName "Optional").Takes [] e [] := fun e => rfl
  have quoted : leaves.Respells leavesHint (.subscript (.name "Optional")
      (.subscript (.name "list") (.const (.str "Leaf")))) :=
    ⟨_, _, .quoted false parseQuoted_leaf,
      .argument rfl rfl rfl (optional _) (optional _)
        (.argument rfl rfl rfl (sequence _) (sequence _) .here)⟩
  have twice : leaves.Respells (.subscript (.name "Optional")
      (.subscript (.name "list") (.const (.str "Leaf"))))
      (.subscript (.name "Optional") (.subscript (.name "list") (.const (.str "'Leaf'")))) :=
    ⟨_, _, .quoted false parseQuoted_quotedLeaf,
      .argument rfl rfl rfl (optional _) (optional _)
        (.argument rfl rfl rfl (sequence _) (sequence _) .here)⟩
  have head : leaves.Respells (.subscript (.name "Optional")
      (.subscript (.name "list") (.const (.str "'Leaf'")))) leavesHintQuoted :=
    ⟨_, _, .qualifiedHead _ _ rfl, .here⟩
  exact .trans _ _ _ (.rel _ _ quoted) (.trans _ _ _ (.rel _ _ twice) (.rel _ _ head))

theorem shapeOf_leaves :
    leaves.shapeOf leavesHint = .ok (.union [.list (.plain .number), .none]) := by
  simp [leavesHint, shapeOf, resolveName, Hint.shapeIn, nameShape, depth, leaves, get?,
    Hint.shapeWith, List.lookup_cons, Hint.indexShape, Expr.tailName?, Hint.Form.ofName,
    Hint.sequenceNames, Hint.wrapperNames, Hint.bareShape, Hint.plainNames, Shape.unite,
    Shape.alternatives]
  rfl

theorem shapeOf_respelled_leaves :
    Relation.EqvGen leaves.Respells leavesHint leavesHintQuoted ∧
      leaves.shapeOf leavesHintQuoted = .ok (.union [.list (.plain .number), .none]) :=
  ⟨leaves_respelled,
    (shapeOf_respelled leaves _ _ leaves_respelled).1.symm.trans shapeOf_leaves⟩

end Exemplar.Declarations
