import Exemplar.Proofs.Hint.Keeps
import Exemplar.Proofs.Hint.LookUp

/-
  Unions, however they are written. A hint joins others by `|`, by `Union` or by `Optional`, and the
  hints that it joins may do so again; what is not taken apart is an operand (`Groups`). The
  alternatives of the whole are those of its operands one after the other, each as often as it
  stands there and none of them a union (`union_alternatives`). For a single union this is so
  because the shapes that it joins are in normal form (`alternatives_unite`), and from there by
  induction on the grouping. A shape in normal form is known by its alternatives
  (`unite_alternatives`), so two groupings of the same operands stand for the same shape.
-/

namespace Exemplar

open HintM (Gives)

theorem HintM.Gives.mapM {α β : Type} {f : α → HintM β} {q : β → Prop} (h : ∀ a, Gives (f a) q)
    (as : List α) : Gives (as.mapM f) fun bs => bs.length = as.length ∧ ∀ b ∈ bs, q b := by
  induction as with
  | nil => exact .pure ⟨rfl, nofun⟩
  | cons a as ih =>
    rw [List.mapM_cons]
    exact .bind (h a) fun b hb => .bind ih fun bs hbs =>
      .pure ⟨congrArg Nat.succ hbs.1, List.forall_mem_cons.mpr ⟨hb, hbs.2⟩⟩

namespace Shape

theorem Normal.alternatives_ne_nil {s : Shape} (h : s.Normal) : s.alternatives ≠ [] := by
  cases h with
  | union several =>
    rintro rfl
    exact absurd several (by decide)
  | _ => exact List.cons_ne_nil _ _

theorem alternatives_eq_singleton {s : Shape} (h : ¬s.IsUnion) : s.alternatives = [s] := by
  cases s with
  | union => exact absurd trivial h
  | _ => rfl

/-- Shapes in normal form lend a union all their alternatives. -/
theorem alternatives_unite {ss : List Shape} (hne : ss ≠ []) (h : ∀ s ∈ ss, s.Normal) :
    (unite ss).alternatives = ss.flatMap alternatives := by
  unfold unite
  split
  · rename_i hnone
    obtain ⟨s, rest, rfl⟩ := List.exists_cons_of_ne_nil hne
    rw [List.flatMap_cons, List.append_eq_nil_iff] at hnone
    exact absurd hnone.1 (h s (.head _)).alternatives_ne_nil
  · rename_i a hone
    have hmem : a ∈ ss.flatMap alternatives := hone ▸ .head _
    obtain ⟨s, hs, ha⟩ := List.mem_flatMap.mp hmem
    rw [alternatives_eq_singleton ((h s hs).alternatives a ha).2, hone]
  · rfl

/-- A shape in normal form is known by its alternatives. -/
theorem unite_alternatives {s : Shape} (h : s.Normal) : unite s.alternatives = s := by
  have flat : s.alternatives.flatMap Shape.alternatives = s.alternatives := by
    rw [List.flatMap_congr fun a ha => alternatives_eq_singleton (h.alternatives a ha).2]
    exact List.flatMap_singleton' _
  unfold unite
  rw [flat]
  cases h with
  | @union as several _ _ =>
    match as, several with
    | _ :: _ :: _, _ => rfl
  | _ => rfl

end Shape

namespace Hint

/-- The hint is written as the union of others: by `|`, by `Union` with arguments, or by `Optional`,
which adds `None`. -/
inductive Joins : Expr → List Expr → Prop
  | either {l r} : Joins (.binary l .bitOr r) [l, r]
  | union {head index} (hname : head.tailName? = some "Union") (hargs : arguments index ≠ []) :
    Joins (.subscript head index) (arguments index)
  | optional {head index x} (hname : head.tailName? = some "Optional")
    (harg : arguments index = [x]) : Joins (.subscript head index) [x, .const .none]

theorem Joins.ne_nil {e : Expr} {args : List Expr} (h : Joins e args) : args ≠ [] := by
  cases h with
  | union hname hargs => exact hargs
  | _ => exact List.cons_ne_nil _ _

/-- The hints of the first list, one after the other, are groupings of the operands in the second:
an operand stands for itself, and a hint that joins others for the operands of those. -/
inductive Groups : List Expr → List Expr → Prop
  | nil : Groups [] []
  | operand {e es os} (h : Groups es os) : Groups (e :: es) (e :: os)
  | joined {e args es os} (hj : Joins e args) (h : Groups (args ++ es) os) : Groups (e :: es) os

/-- The alternatives of the shapes of hints, one after the other. -/
def alternativesOf (shape : Expr → HintM Shape) (es : List Expr) : HintM (List Shape) :=
  List.flatten <$> es.mapM fun e => Shape.alternatives <$> shape e

variable {shape : Expr → HintM Shape}

theorem alternativesOf_cons (e : Expr) (es : List Expr) :
    alternativesOf shape (e :: es) = do
      let as ← Shape.alternatives <$> shape e
      return as ++ (← alternativesOf shape es) := by
  unfold alternativesOf
  rw [List.mapM_cons]
  simp

theorem alternativesOf_singleton (e : Expr) :
    alternativesOf shape [e] = Shape.alternatives <$> shape e := by
  unfold alternativesOf
  simp

theorem alternativesOf_append (es es' : List Expr) :
    alternativesOf shape (es ++ es') = do
      let as ← alternativesOf shape es
      return as ++ (← alternativesOf shape es') := by
  unfold alternativesOf
  rw [List.mapM_append]
  simp

theorem mapM_alternatives (es : List Expr) : (es.mapM fun e => Shape.alternatives <$> shape e) =
    List.map Shape.alternatives <$> es.mapM shape := by
  induction es with
  | nil => rfl
  | cons e es ih => rw [List.mapM_cons, List.mapM_cons, ih]; simp

/-- The alternatives of a union are those of what it joins. -/
theorem alternativesOf_unite {args : List Expr} (hne : args ≠ [])
    (hnormal : ∀ e, Gives (shape e) Shape.Normal) :
    Shape.alternatives <$> Shape.unite <$> args.mapM shape = alternativesOf shape args := by
  unfold alternativesOf
  rw [mapM_alternatives]
  have normal := Gives.mapM hnormal args
  cases hss : args.mapM shape with
  | error f => rfl
  | ok ss =>
    obtain ⟨hlen, hss⟩ := normal ss hss
    have hne : ss ≠ [] := by
      rintro rfl
      exact hne (List.length_eq_zero_iff.mp hlen.symm)
    exact congrArg Except.ok (Shape.alternatives_unite hne hss)

theorem unite_alternativesOf {e : Expr} (hnormal : Gives (shape e) Shape.Normal) :
    Shape.unite <$> Shape.alternatives <$> shape e = shape e := by
  cases hs : shape e with
  | error f => rfl
  | ok s => exact congrArg Except.ok (Shape.unite_alternatives (hnormal s hs))

/-- By induction on the grouping: taking a union apart changes no alternative. -/
theorem alternativesOf_groups {es os : List Expr} (h : Groups es os)
    (hjoins : ∀ e args, Joins e args → shape e = Shape.unite <$> args.mapM shape)
    (hnormal : ∀ e, Gives (shape e) Shape.Normal) :
    alternativesOf shape es = alternativesOf shape os := by
  induction h with
  | nil => rfl
  | operand h ih => rw [alternativesOf_cons, alternativesOf_cons, ih]
  | joined hj h ih =>
    rw [← ih, alternativesOf_cons, alternativesOf_append, hjoins _ _ hj,
      alternativesOf_unite hj.ne_nil hnormal]

end Hint

namespace Declarations

open Hint (Joins Groups alternativesOf arguments headName?)

variable {t : Declarations} {active : List String}

theorem shapeIn_normal (t : Declarations) (active : List String) (e : Expr) :
    Gives (Hint.shapeIn (t.inside active) e) Shape.Normal := by
  refine Hint.normal_keeps.shapeIn (fun n s hs => ?_) trivial
  obtain ⟨d, -, rfl⟩ := Option.map_eq_some_iff.mp hs
  exact Hint.normal_keeps.nameShape t.hints_true _ _ _

/-- A hint that joins others stands for the union of their shapes. -/
theorem shapeIn_joins (hu : t.get? "Union" = none) (ho : t.get? "Optional" = none) {e : Expr}
    {args : List Expr} (h : Joins e args) : Hint.shapeIn (t.inside active) e =
      Shape.unite <$> args.mapM (Hint.shapeIn (t.inside active)) := by
  have undeclared : ∀ {head index : Expr} {name : String}, t.get? name = none →
      head.tailName? = some name →
        ∀ n ∈ headName? (.subscript head index), t.get? n = none := by
    intro head index name hname htail n hn
    rw [Hint.headName_subscript.mp hn] at htail
    cases htail
    exact hname
  cases h with
  | either =>
    rw [Hint.shapeIn_either]
    simp
  | union hname hargs =>
    rw [shapeIn_form hname (undeclared hu hname)]
    exact Hint.argumentStep_union hargs
  | optional hname harg =>
    rw [shapeIn_form hname (undeclared ho hname), harg]
    have : Hint.shapeIn (t.inside active) (.const .none) = pure .none := Hint.shapeIn_step _
    unfold Hint.argumentStep
    simp [Hint.Form.ofName, this]

/-- Where `Union` and `Optional` are not declared, the alternatives of a hint that joins others are
those of its operands one after the other, in their order, however they are grouped: none is lost,
repeated or itself a union. Two groupings of the same operands have the same shape. So it is outside
all declarations and inside those of any names. -/
theorem union_alternatives (t : Declarations) (hu : t.get? "Union" = none)
    (ho : t.get? "Optional" = none) (active : List String) :
    (∀ e, Hint.shapeIn (t.inside []) e = t.shapeOf e) ∧
    (∀ e os, Groups [e] os →
      Shape.alternatives <$> Hint.shapeIn (t.inside active) e =
        List.flatten <$> os.mapM fun o => Shape.alternatives <$> Hint.shapeIn (t.inside active) o) ∧
    (∀ e s, Hint.shapeIn (t.inside active) e = .ok s → ∀ a ∈ s.alternatives, ¬a.IsUnion) ∧
    ∀ e e' os, Groups [e] os → Groups [e'] os →
      Hint.shapeIn (t.inside active) e = Hint.shapeIn (t.inside active) e' := by
  have joins : ∀ e args, Joins e args → Hint.shapeIn (t.inside active) e =
      Shape.unite <$> args.mapM (Hint.shapeIn (t.inside active)) :=
    fun e args => shapeIn_joins hu ho
  have groups : ∀ {e os}, Groups [e] os → Shape.alternatives <$> Hint.shapeIn (t.inside active) e =
      alternativesOf (Hint.shapeIn (t.inside active)) os := by
    intro e os h
    rw [← Hint.alternativesOf_singleton]
    exact Hint.alternativesOf_groups h joins (shapeIn_normal t active)
  refine ⟨fun _ => rfl, fun e os h => groups h, fun e s hs a ha => ?_, fun e e' os h h' => ?_⟩
  · exact ((shapeIn_normal t active e s hs).alternatives a ha).2
  · calc Hint.shapeIn (t.inside active) e
        = Shape.unite <$> Shape.alternatives <$> Hint.shapeIn (t.inside active) e :=
          (Hint.unite_alternativesOf (shapeIn_normal t active e)).symm
      _ = Shape.unite <$> Shape.alternatives <$> Hint.shapeIn (t.inside active) e' := by
          rw [groups h, groups h']
      _ = Hint.shapeIn (t.inside active) e' :=
          Hint.unite_alternativesOf (shapeIn_normal t active e')

/-- A pong is a number or a text. -/
def pong : Declarations where
  entries := [("Pong", .synonym (.binary (.name "int") .bitOr (.name "str")))]

/-- A pong in quotes, and a truth value with a remark. -/
def pongOperands : List Expr :=
  [.const (.str "Pong"), .subscript (.name "Annotated") (.tuple [.name "bool", .const (.int 1)])]

/-- The operands joined by `Union`, and that with nothing by `|`. -/
def pongUnion : Expr :=
  .binary (.subscript (.name "Union") (.tuple pongOperands)) .bitOr (.const .none)

/-- The operands joined by `|`, and that with nothing by `Optional`. -/
def pongOptional : Expr :=
  .subscript (.name "Optional")
    (.binary (.const (.str "Pong")) .bitOr
      (.subscript (.name "Annotated") (.tuple [.name "bool", .const (.int 1)])))

theorem groups_pongUnion : Groups [pongUnion] (pongOperands ++ [.const .none]) :=
  .joined .either <| .joined (.union rfl (List.cons_ne_nil _ _)) <|
    .operand <| .operand <| .operand .nil

theorem groups_pongOptional : Groups [pongOptional] (pongOperands ++ [.const .none]) :=
  .joined (.optional rfl rfl) <| .joined .either <| .operand <| .operand <| .operand .nil

theorem alternativesOf_pong :
    alternativesOf (Hint.shapeIn (pong.inside [])) (pongOperands ++ [.const .none]) =
      .ok [.plain .number, .plain .text, .plain .boolean, .none] := by
  have declared : pong.get? "Pong" =
      some (.synonym (.binary (.name "int") .bitOr (.name "str"))) := rfl
  have int : ∀ active, Hint.shapeIn (pong.inside active) (.name "int") = .ok (.plain .number) :=
    fun _ => shapeIn_undeclared rfl
  have str : ∀ active, Hint.shapeIn (pong.inside active) (.name "str") = .ok (.plain .text) :=
    fun _ => shapeIn_undeclared rfl
  have quoted : Hint.shapeIn (pong.inside []) (.const (.str "Pong")) =
      .ok (.union [.plain .number, .plain .text]) := by
    rw [Hint.shapeIn_quoted parseQuoted_pong, shapeIn_name declared List.not_mem_nil]
    refine (shapeIn_joins rfl rfl .either).trans ?_
    simp [int, str]
    rfl
  have remarked : Hint.shapeIn (pong.inside [])
      (.subscript (.name "Annotated") (.tuple [.name "bool", .const (.int 1)])) =
        .ok (.plain .boolean) :=
    (Hint.shapeIn_step _).trans (shapeIn_undeclared rfl)
  have nothing : Hint.shapeIn (pong.inside []) (.const .none) = .ok .none := Hint.shapeIn_step _
  simp [alternativesOf, pongOperands, quoted, remarked, nothing]
  rfl

theorem union_alternatives_pong :
    pong.get? "Union" = none ∧ pong.get? "Optional" = none ∧
    Groups [pongUnion] (pongOperands ++ [.const .none]) ∧
    Groups [pongOptional] (pongOperands ++ [.const .none]) ∧
    Shape.alternatives <$> pong.shapeOf pongUnion =
      .ok [.plain .number, .plain .text, .plain .boolean, .none] ∧
    pong.shapeOf pongUnion = pong.shapeOf pongOptional := by
  obtain ⟨-, concat, -, same⟩ := union_alternatives pong rfl rfl []
  exact ⟨rfl, rfl, groups_pongUnion, groups_pongOptional,
    (concat _ _ groups_pongUnion).trans alternativesOf_pong,
    same _ _ _ groups_pongUnion groups_pongOptional⟩

end Declarations

end Exemplar
