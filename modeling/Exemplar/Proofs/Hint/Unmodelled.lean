import Exemplar.Proofs.Hint.Faults
import Exemplar.Proofs.Hint.Spelling

/-
  Hints that no shape models: texts that are no hints, expressions of another kind, names of which
  nothing is known and brackets in which nothing of use stands (`Unmodelled`). Such a hint is
  unknown, and no more than that: the rest of a hint, or of a declaration, has the shapes that it
  would have if `Any` stood in that place (`Hint.shapeIn_replaced`, `answer_put`). Only a text with
  a null character is treated otherwise, and costs the parameter its shape (`resolve_degrades`).
-/

namespace Exemplar

namespace Hint

/-- The form makes nothing of its arguments. -/
def Form.Lacks (form : Form) (es : List Expr) : Prop :=
  match form with
  | .other => True
  | .choice => es.filterMap scalar? = []
  | .tuple => False
  | _ => es = []

theorem argumentStep_lacks {self : Expr → HintM Shape} {form : Form} {es : List Expr}
    (h : form.Lacks es) : argumentStep self form es = pure .unknown := by
  cases form with
  | other => cases es <;> rfl
  | choice =>
    cases es with
    | nil => rfl
    | cons e es =>
      have nothing : choiceShape (e :: es) = .unknown := by
        unfold choiceShape
        rw [h]
      exact congrArg pure nothing
  | tuple => exact h.elim
  | _ =>
    obtain rfl : es = [] := h
    rfl

/-- The hint that says nothing. -/
def anyHint : Expr := .attribute (.name "typing") "Any"

end Hint

namespace Declaration

/-- The second declaration is the first with another hint in a place of one of its hints. -/
inductive Replaced (x x' : Expr) : Declaration → Declaration → Prop
  | synonym {e e'} (h : Hint.Replaced x x' e e') : Replaced x x' (.synonym e) (.synonym e')
  | field {before : List (String × Expr)} {n e e' after} (h : Hint.Replaced x x' e e') :
    Replaced x x' (.record (before ++ (n, e) :: after)) (.record (before ++ (n, e') :: after))

theorem fieldShapes_replaced {shape : Expr → HintM Shape} {before after : List (String × Expr)}
    {n : String} {e e' : Expr} (h : shape e = shape e') :
    Declarations.fieldShapes shape (before ++ (n, e) :: after) =
      Declarations.fieldShapes shape (before ++ (n, e') :: after) := by
  rw [fieldShapes_mapM, fieldShapes_mapM]
  exact Hint.mapM_replaced (congrArg _ h)

theorem Replaced.expand_eq {x x' : Expr} {d d' : Declaration} (h : d.Replaced x x' d')
    {ref : String → Option (HintM Shape)} (hx : Hint.shapeIn ref x = Hint.shapeIn ref x') :
    d.expand (Hint.shapeIn ref) = d'.expand (Hint.shapeIn ref) := by
  cases h with
  | synonym h => exact Hint.shapeIn_replaced h hx
  | field h => exact congrArg (_ <$> ·) (fieldShapes_replaced (Hint.shapeIn_replaced h hx))

end Declaration

namespace Declarations

open Hint (Foreign Form anyHint arguments bareShape headName? parseQuoted)

/-- The hint stands for nothing that a shape could model: a text that is no expression, an
expression of another kind, a name that is not known or only as that of a class, or brackets after
no name, after a name that takes none or without the arguments that it takes. -/
inductive Unmodelled (t : Declarations) : Expr → Prop
  | text {s marked} (h : parseQuoted s = .ok none) : Unmodelled t (.const (.str s marked))
  | foreign {e} (h : Foreign e) : Unmodelled t e
  | name {n} (hd : t.get? n = none) (h : bareShape n = .unknown) : Unmodelled t (.name n)
  | dotted {m a} (h : bareShape a = .unknown) : Unmodelled t (.attribute m a)
  | unknownClass {e n} (h : headName? e = some n) (hd : t.get? n = some .unknownClass) :
    Unmodelled t e
  | nameless {head index} (h : head.tailName? = none) : Unmodelled t (.subscript head index)
  | lacking {head index name} (hname : head.tailName? = some name)
    (hu : ∀ n ∈ headName? (.subscript head index), t.get? n = none)
    (h : (Form.ofName name).Lacks (arguments index)) : Unmodelled t (.subscript head index)

variable {t : Declarations} {active : List String} {e x x' : Expr} {n : String} {d d' : Declaration}

theorem anyHint_unmodelled (t : Declarations) : t.Unmodelled anyHint := .dotted rfl

theorem Unmodelled.shapeIn_eq (h : t.Unmodelled e) :
    Hint.shapeIn (t.inside active) e = .ok .unknown := by
  cases h with
  | text h =>
    rw [Hint.shapeIn_text]
    unfold Hint.stepQuoted
    rw [h]
    rfl
  | foreign h => exact Hint.shapeIn_foreign h
  | name hd h =>
    rw [shapeIn_undeclared hd, h]
    rfl
  | dotted h => exact (Hint.shapeIn_step _).trans (congrArg pure h)
  | @unknownClass _ n h hd =>
    have value : Query.answer t (.name active n) = .ok .unknown := by
      rw [answer_name hd]
      split <;> rfl
    cases e with
    | name m =>
      cases h
      rw [Hint.shapeIn_step, Hint.step_name, inside_declared hd, Option.getD_some]
      exact value
    | subscript head index =>
      rw [Hint.headName_subscript.mp h]
      exact (shapeIn_declared hd).trans value
    | _ => cases h
  | nameless h => exact (Hint.shapeIn_step _).trans (Hint.step_nameless h)
  | lacking hname hu h =>
    rw [shapeIn_form hname hu]
    exact Hint.argumentStep_lacks h

/-- By the rules for one level: a hint of the same shape in a declaration makes no difference to any
query. -/
theorem answer_put (hd : t.get? n = some d) (h : d.Replaced x x' d')
    (hx : ∀ active, Hint.shapeIn (t.inside active) x = Hint.shapeIn (t.inside active) x') :
    Query.answer (t.put n d') = Query.answer t := by
  refine (Query.answer_unique fun q => ?_).symm
  rw [Query.answer_step]
  cases q with
  | hint active e =>
    -- Both tables declare the same names, and that is all that a level asks of them.
    refine Hint.step_congr (fun _ _ => rfl) (fun m _ => ?_) fun _ _ _ => rfl
    rw [get_put]
    by_cases hm : m = n
    · rw [if_pos hm, hm, hd]
      rfl
    · rw [if_neg hm]
  | quoted active s => rfl
  | name active m =>
    unfold Query.step
    dsimp only
    rw [get_put]
    by_cases hm : m = n
    · rw [if_pos hm, hm, hd]
      exact if_congr Iff.rfl rfl (h.expand_eq (hx _))
    · rw [if_neg hm]

/-- A list, or a number. -/
def listOr (x : Expr) : Expr := .binary (.subscript (.name "list") x) .bitOr (.name "int")

/-- Of a file that declares a list of what is no hint. -/
def brokenList : Declarations where
  entries := [("Broken", .synonym (listOr (.const (.str "1 +"))))]

theorem parseQuoted_broken : parseQuoted "1 +" = .ok none := by
  rfl

theorem broken_replaced : Hint.Replaced (.const (.str "1 +")) anyHint
    (listOr (.const (.str "1 +"))) (listOr anyHint) :=
  have sequence : ∀ e, (Form.ofName "list").Takes [] e [] := fun _ => rfl
  .left (.argument rfl rfl rfl (sequence _) (sequence _) .here)

theorem shapeOf_listOr_any :
    brokenList.shapeOf (listOr anyHint) = .ok (.union [.list .unknown, .plain .number]) := by
  have list : Hint.shapeIn (brokenList.inside []) (.subscript (.name "list") anyHint) =
      .list <$> Hint.shapeIn (brokenList.inside []) anyHint := Hint.shapeIn_step _
  have int : Hint.shapeIn (brokenList.inside []) (.name "int") = .ok (.plain .number) :=
    shapeIn_undeclared rfl
  show Hint.shapeIn (brokenList.inside []) (listOr anyHint) = _
  unfold listOr
  rw [Hint.shapeIn_either, list, int, (anyHint_unmodelled _).shapeIn_eq]
  rfl

/-- The text in the list is needed: the whole reads the list, and the list reads the text. -/
theorem listOr_quotesNull : brokenList.QuotesNull (listOr (.const (.str "\x00"))) := by
  have undeclared : ∀ n ∈ headName? (.subscript (.name "list") (.const (.str "\x00"))),
      ¬(brokenList.get? n).isSome := by
    rintro _ ⟨⟩
    decide
  refine ⟨"\x00", false, ?_, by decide⟩
  exact .head (.read .left) (.single (.read (.argument rfl undeclared (.head _))))

end Declarations

end Exemplar
