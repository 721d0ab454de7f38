import Exemplar.Proofs.Hint.Unfold

/-
  The places in a hint where other hints stand: operands of `|`, and arguments that their form takes
  for hints. The shape of a hint in such a place is all that counts there, so that another hint of
  the same shape can be put into the place (`shapeIn_replaced`), at any depth.
-/

namespace Exemplar.Hint

/-- An argument between others stands in a place where a form reads a hint. An ellipsis after the
only element of a tuple, and empty brackets in place of its elements, are no hints. -/
def Form.Takes (form : Form) (before : List Expr) (e : Expr) (after : List Expr) : Prop :=
  match form with
  | .optional | .wrapper | .sequence => before = []
  | .union => True
  | .tuple =>
    (before.length = 1 → after = [] → e ≠ .const .ellipsis) ∧
      (before = [] → after = [] → e ≠ .tuple [])
  | .mapping => before.length + after.length = 1
  | .choice | .other => False

/-- The second hint is the first with `x'` for `x` in a place where a hint is read: an operand of
`|` or an argument that its form takes, at any depth. Of a hint in quotes the place is one in the
hint that its text is. -/
inductive Replaced (x x' : Expr) : Expr → Expr → Prop
  | here : Replaced x x' x x'
  | left {l l' r} (h : Replaced x x' l l') :
    Replaced x x' (.binary l .bitOr r) (.binary l' .bitOr r)
  | right {l r r'} (h : Replaced x x' r r') :
    Replaced x x' (.binary l .bitOr r) (.binary l .bitOr r')
  | argument {head index index' name before e e' after} (hname : head.tailName? = some name)
    (hi : arguments index = before ++ e :: after) (hi' : arguments index' = before ++ e' :: after)
    (ht : (Form.ofName name).Takes before e after) (ht' : (Form.ofName name).Takes before e' after)
    (h : Replaced x x' e e') : Replaced x x' (.subscript head index) (.subscript head index')
  | quoted {s marked e e'} (hs : parseQuoted s = .ok (some e)) (h : Replaced x x' e e') :
    Replaced x x' (.const (.str s marked)) e'

section Step

variable {ref : String → Option (HintM Shape)} {quoted : String → HintM Shape}
  {self self' : Expr → HintM Shape} {form : Form} {before after es : List Expr} {e e' : Expr}

theorem mapM_replaced {α β : Type} {f : α → HintM β} {before after : List α} {a a' : α}
    (h : f a = f a') : (before ++ a :: after).mapM f = (before ++ a' :: after).mapM f := by
  rw [List.mapM_append, List.mapM_append, List.mapM_cons, List.mapM_cons, h]

theorem argumentStep_union (h : es ≠ []) :
    argumentStep self .union es = .unite <$> es.mapM self := by
  cases es with
  | nil => exact absurd rfl h
  | cons e es => exact (map_eq_pure_bind ..).symm

theorem argumentStep_items (hrest : ∀ e, es ≠ [e, .const .ellipsis]) (hnone : es ≠ [.tuple []]) :
    argumentStep self .tuple es = .tuple <$> es.mapM self := by
  cases es with
  | nil => rfl
  | cons e es =>
    unfold argumentStep
    dsimp only
    split
    · exact absurd rfl (hrest e)
    · exact absurd rfl hnone
    · exact (map_eq_pure_bind ..).symm

/-- A tuple that takes a hint, and not as the element that it repeats, is a tuple of items. -/
theorem Form.Takes.items (ht : Form.tuple.Takes before e after)
    (hrest : ¬(before = [] ∧ after = [.const .ellipsis])) :
    argumentStep self .tuple (before ++ e :: after) =
      .tuple <$> (before ++ e :: after).mapM self := by
  -- The hint is the element before the ellipsis, the ellipsis itself, or the empty brackets.
  refine argumentStep_items (fun a heq => ?_) fun heq => ?_
  · rcases List.append_eq_cons_iff.mp heq with ⟨rfl, hone⟩ | ⟨bs, rfl, hone⟩
    · obtain ⟨-, rfl⟩ := List.cons.inj hone
      exact hrest ⟨rfl, rfl⟩
    · rcases List.append_eq_singleton_iff.mp hone.symm with ⟨rfl, hlast⟩ | ⟨-, hlast⟩
      · obtain ⟨rfl, rfl⟩ := List.cons.inj hlast
        exact ht.1 rfl rfl rfl
      · cases hlast
  · rcases List.append_eq_singleton_iff.mp heq with ⟨rfl, hone⟩ | ⟨-, hone⟩
    · obtain ⟨rfl, rfl⟩ := List.cons.inj hone
      exact ht.2 rfl rfl rfl
    · cases hone

/-- The shape of a form is made of the shapes of the hints that it takes. -/
theorem argumentStep_takes (ht : form.Takes before e after) (ht' : form.Takes before e' after)
    (h : self e = self e') :
    argumentStep self form (before ++ e :: after) =
      argumentStep self form (before ++ e' :: after) := by
  have all : (before ++ e :: after).mapM self = (before ++ e' :: after).mapM self :=
    mapM_replaced h
  cases form with
  | optional | wrapper | sequence =>
    obtain rfl : before = [] := ht
    simp only [argumentStep, List.nil_append, h]
  | union => rw [argumentStep_union (by simp), argumentStep_union (by simp), all]
  | tuple =>
    by_cases hrest : before = [] ∧ after = [.const .ellipsis]
    · obtain ⟨rfl, rfl⟩ := hrest
      simp only [argumentStep, List.nil_append, h]
    · rw [ht.items hrest, ht'.items hrest, all]
  | mapping =>
    rcases Nat.add_eq_one_iff.mp ht with ⟨hb, ha⟩ | ⟨hb, ha⟩
    · obtain rfl := List.length_eq_zero_iff.mp hb
      obtain ⟨v, rfl⟩ := List.length_eq_one_iff.mp ha
      simp only [argumentStep, List.nil_append, h]
    · obtain ⟨k, rfl⟩ := List.length_eq_one_iff.mp hb
      obtain rfl := List.length_eq_zero_iff.mp ha
      simp only [argumentStep, List.singleton_append, h]
  | choice | other => exact ht.elim

/-! ## An index -/

theorem headName_subscript {head index : Expr} {n : String} :
    headName? (.subscript head index) = some n ↔ head = .name n := by
  cases head <;> simp [headName?]

theorem step_name (n : String) :
    step self ref quoted (.name n) = (ref n).getD (pure (bareShape n)) := rfl

theorem step_nameless {head index : Expr} (h : head.tailName? = none) :
    step self ref quoted (.subscript head index) = pure .unknown := by
  unfold step
  dsimp only
  rw [h]

theorem step_declared {index : Expr} {n : String} {s : HintM Shape} (h : ref n = some s) :
    step self ref quoted (.subscript (.name n) index) = s := by
  unfold step
  dsimp only [Expr.tailName?]
  rw [h]

theorem step_form {head index : Expr} {name : String} (hname : head.tailName? = some name)
    (hu : ∀ n ∈ headName? (.subscript head index), ref n = none) :
    step self ref quoted (.subscript head index) =
      argumentStep self (Form.ofName name) (arguments index) := by
  unfold step
  dsimp only
  rw [hname]
  cases head with
  | name n =>
    dsimp only
    rw [hu n rfl]
  | «attribute» _ attr => rfl
  | _ => cases hname

theorem step_index {head index index' : Expr} {name : String} (hname : head.tailName? = some name)
    (h : argumentStep self (Form.ofName name) (arguments index) =
      argumentStep self (Form.ofName name) (arguments index')) :
    step self ref quoted (.subscript head index) =
      step self ref quoted (.subscript head index') := by
  unfold step
  dsimp only
  rw [hname]
  dsimp only
  rw [h]

theorem shapeIn_either (l r : Expr) : shapeIn ref (.binary l .bitOr r) = do
    return .unite [← shapeIn ref l, ← shapeIn ref r] :=
  shapeIn_step _

theorem shapeIn_text (s : String) (marked : Bool) :
    shapeIn ref (.const (.str s marked)) = stepQuoted (shapeIn ref) s :=
  (shapeIn_step _).trans (quotedShape_step s)

theorem shapeIn_quoted {s : String} {marked : Bool} (h : parseQuoted s = .ok (some e)) :
    shapeIn ref (.const (.str s marked)) = shapeIn ref e := by
  rw [shapeIn_text]
  unfold stepQuoted
  rw [h]
  rfl

/-- By induction on the place: a hint of the same shape makes no difference to the whole. -/
theorem shapeIn_replaced {x x' : Expr} (h : Replaced x x' e e')
    (hx : shapeIn ref x = shapeIn ref x') : shapeIn ref e = shapeIn ref e' := by
  induction h with
  | here => exact hx
  | left h ih => rw [shapeIn_either, shapeIn_either, ih]
  | right h ih => rw [shapeIn_either, shapeIn_either, ih]
  | argument hname hi hi' ht ht' h ih =>
    rw [shapeIn_step, shapeIn_step]
    refine step_index hname ?_
    rw [hi, hi', argumentStep_takes ht ht' ih]
  | quoted hs h ih => exact (shapeIn_quoted hs).trans ih

end Step

end Exemplar.Hint
