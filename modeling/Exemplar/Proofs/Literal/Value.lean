import Exemplar.Proofs.Except
import Exemplar.Proofs.Literal.Printed

/-
  The value of a literal's text. `Expr.value` evaluates constants, signs and displays: the parts in
  order, and a dictionary once all its keys and values are there. The tree that a literal's text is
  read as evaluates to the datum that the literal stands for.
-/

namespace Exemplar

/-! ## Evaluation -/

/-- The datum of a constant that a literal can be written with. -/
def Constant.scalar? : Constant → Option Scalar
  | .none => some .none
  | .bool b => some (.bool b)
  | .int n => some (.int n)
  | .float x => some (.float x)
  | .str s _ => some (.str s)
  | _ => Option.none

/-- What is raised for an expression that is no literal. -/
def noLiteral : Raised := .valueError "malformed node or string"

namespace Datum

/-- A number with its sign changed. -/
def negated : Datum → Except Raised Datum
  | .scalar (.int n) => .ok (.scalar (.int (-n)))
  | .scalar (.float x) => .ok (.scalar (.float x.neg))
  | .scalar (.bool b) => .ok (.scalar (.int (if b then -1 else 0)))
  | _ => .error noLiteral

/-- Enters keys with their values in a dictionary, one after another. -/
def enter (done : List (Datum × Datum)) :
    List (Datum × Datum) → Except Raised (List (Datum × Datum))
  | [] => .ok done
  | (k, v) :: es =>
    match k.unhashable? with
    | some type => .error (Literal.unhashable type)
    | none => enter (put done k v) es

end Datum

namespace Expr

mutual

/-- The datum that an expression of constants, signs and displays evaluates to. -/
def value : Expr → Except Raised Datum
  | .const c =>
    match c.scalar? with
    | some s => .ok (.scalar s)
    | none => .error noLiteral
  | .unary .minus e => do
    let x ← value e
    x.negated
  | .list es => do
    let xs ← values es
    pure (.list xs)
  | .tuple es => do
    let xs ← values es
    pure (.tuple xs)
  | .dict es => do
    let xs ← entryValues es
    let done ← Datum.enter [] xs
    pure (.dict done)
  | _ => .error noLiteral

def values : List Expr → Except Raised (List Datum)
  | [] => .ok []
  | e :: es => do
    let x ← value e
    let xs ← values es
    pure (x :: xs)

def entryValues : List (Option Expr × Expr) → Except Raised (List (Datum × Datum))
  | [] => .ok []
  | (none, _) :: _ => .error noLiteral
  | (some k, v) :: es => do
    let x ← value k
    let y ← value v
    let xs ← entryValues es
    pure ((x, y) :: xs)

end

theorem values_eq_ok {es : List Expr} {xs : List Datum} :
    values es = .ok xs ↔ List.Forall₂ (fun e x => e.value = .ok x) es xs := by
  induction es generalizing xs with
  | nil => simp [values, eq_comm]
  | cons e es ih =>
    simp only [values, bind_eq_ok, pure_eq_ok, ih]
    constructor
    · rintro ⟨y, hy, ys, hys, rfl⟩
      exact .cons hy hys
    · rintro (_ | ⟨hy, hys⟩)
      exact ⟨_, hy, _, hys, rfl⟩

theorem entryValues_eq_ok {es : List (Expr × Expr)} {xs : List (Datum × Datum)} :
    entryValues (es.map fun e => (some e.1, e.2)) = .ok xs ↔
      List.Forall₂ (fun e x => e.1.value = .ok x.1 ∧ e.2.value = .ok x.2) es xs := by
  induction es generalizing xs with
  | nil => simp [entryValues, eq_comm]
  | cons e es ih =>
    simp only [List.map_cons, entryValues, bind_eq_ok, pure_eq_ok, ih]
    constructor
    · rintro ⟨y, hy, z, hz, ys, hys, rfl⟩
      exact .cons ⟨hy, hz⟩ hys
    · rintro (_ | ⟨hy, hys⟩)
      exact ⟨_, hy.1, _, hy.2, _, hys, rfl⟩

end Expr

namespace Literal

theorem toData_eq_ok {ls : List Literal} {xs : List Datum} :
    toData ls = .ok xs ↔ List.Forall₂ (fun l x => l.toDatum = .ok x) ls xs := by
  induction ls generalizing xs with
  | nil => simp [toData, eq_comm]
  | cons l ls ih =>
    simp only [toData, bind_eq_ok, pure_eq_ok, ih]
    constructor
    · rintro ⟨y, hy, ys, hys, rfl⟩
      exact .cons hy hys
    · rintro (_ | ⟨hy, hys⟩)
      exact ⟨_, hy, _, hys, rfl⟩

theorem toEntries_eq_ok {es : List (Literal × Literal)} {done out : List (Datum × Datum)} :
    toEntries done es = .ok out ↔ ∃ xs, List.Forall₂
      (fun e x => e.1.toDatum = .ok x.1 ∧ e.2.toDatum = .ok x.2) es xs ∧
        Datum.enter done xs = .ok out := by
  induction es generalizing done with
  | nil => simp [toEntries, Datum.enter]
  | cons e es ih =>
    simp only [toEntries, bind_eq_ok, List.forall₂_cons_left_iff]
    constructor
    · rintro ⟨k, hk, v, hv, h⟩
      split at h
      · cases h
      · rename_i hash
        obtain ⟨xs, hxs, henter⟩ := ih.mp h
        refine ⟨(k, v) :: xs, ⟨(k, v), xs, ⟨hk, hv⟩, hxs, rfl⟩, ?_⟩
        rw [Datum.enter, hash]
        exact henter
    · rintro ⟨_, ⟨⟨k, v⟩, xs, ⟨hk, hv⟩, hxs, rfl⟩, henter⟩
      rw [Datum.enter] at henter
      refine ⟨k, hk, v, hv, ?_⟩
      cases hash : k.unhashable? with
      | some type =>
        rw [hash] at henter
        cases henter
      | none =>
        rw [hash] at henter
        exact ih.mpr ⟨xs, hxs, henter⟩

/-- The fields of a record as entries, whose keys are texts. -/
def asEntries (fields : List (String × Literal)) : List (Literal × Literal) :=
  fields.map fun f => (.text f.1, f.2)

theorem toFields_eq (done : List (Datum × Datum)) (fields : List (String × Literal)) :
    toFields done fields = toEntries done (asEntries fields) := by
  induction fields generalizing done with
  | nil => rfl
  | cons f fields ih =>
    simp only [toFields, ih]
    rfl

/-! ## The value of a literal's tree -/

theorem exprs_trees (line : Nat) (ls : List Literal) :
    Tree.exprs (trees line ls) = ls.map fun l => (l.tree line).expr := by
  induction ls with
  | nil => rfl
  | cons l ls ih => rw [trees, Tree.exprs, ih, List.map_cons]

theorem entries_entryTrees (line : Nat) (es : List (Literal × Literal)) :
    Tree.entries (entryTrees line es) =
      (es.map fun e => ((e.1.tree line).expr, (e.2.tree line).expr)).map
        fun e => (some e.1, e.2) := by
  induction es with
  | nil => rfl
  | cons e es ih =>
    rw [entryTrees, Tree.entries, ih]
    rfl

theorem fieldTrees_eq_entryTrees (line : Nat) (fs : List (String × Literal)) :
    fieldTrees line fs = entryTrees line (asEntries fs) := by
  induction fs with
  | nil => rfl
  | cons f fs ih =>
    rw [fieldTrees, ih]
    rfl

theorem value_number (line : Nat) (n : Number) :
    (n.tree line).expr.value = (Literal.number n).toDatum := by
  cases n with
  | int n =>
    unfold Number.tree Number.isNegative
    dsimp only
    split
    · rename_i hn
      have hneg : -(n.natAbs : Int) = n := by
        have := of_decide_eq_true hn
        omega
      show Except.ok (Datum.scalar (.int (-(n.natAbs : Int)))) = _
      rw [hneg]
      rfl
    · rename_i hn
      have hpos : (n.natAbs : Int) = n := by
        have : ¬n < 0 := fun h => hn (decide_eq_true h)
        omega
      show Except.ok (Datum.scalar (.int (n.natAbs : Int))) = _
      rw [hpos]
      rfl
  | float x =>
    unfold Number.tree Number.isNegative Number.size
    dsimp only
    split
    · show Except.ok (Datum.scalar (.float x.neg.neg)) = _
      rw [Decimal.neg_neg]
      rfl
    · rfl

/-- Relations that agree on the members of a list. -/
theorem forall₂_congr {α β : Type} {r s : α → β → Prop} {as : List α} {bs : List β}
    (h : ∀ a ∈ as, ∀ b, r a b ↔ s a b) : List.Forall₂ r as bs ↔ List.Forall₂ s as bs := by
  induction as generalizing bs with
  | nil => rw [List.forall₂_nil_left_iff, List.forall₂_nil_left_iff]
  | cons a as ih =>
    obtain ⟨ha, has⟩ := List.forall_mem_cons.mp h
    simp only [List.forall₂_cons_left_iff, ha, ih has]

theorem value_items {line : Nat} {items : List Literal}
    (ih : ∀ x ∈ items, ∀ d, (x.tree line).expr.value = .ok d ↔ x.toDatum = .ok d)
    (xs : List Datum) :
    Expr.values (Tree.exprs (trees line items)) = .ok xs ↔ toData items = .ok xs := by
  rw [exprs_trees, Expr.values_eq_ok, List.forall₂_map_left_iff, toData_eq_ok]
  exact forall₂_congr ih

theorem value_entries {line : Nat} {entries : List (Literal × Literal)}
    (ih : ∀ e ∈ entries, (∀ d, (e.1.tree line).expr.value = .ok d ↔ e.1.toDatum = .ok d) ∧
      ∀ d, (e.2.tree line).expr.value = .ok d ↔ e.2.toDatum = .ok d) (d : Datum) :
    (Tree.mk line (.dict (entryTrees line entries))).expr.value = .ok d ↔
      (Literal.mapping entries).toDatum = .ok d := by
  have each (xs : List (Datum × Datum)) :
      Expr.entryValues (Tree.entries (entryTrees line entries)) = .ok xs ↔ List.Forall₂
        (fun e x => e.1.toDatum = .ok x.1 ∧ e.2.toDatum = .ok x.2) entries xs := by
    rw [entries_entryTrees, Expr.entryValues_eq_ok, List.forall₂_map_left_iff]
    exact forall₂_congr fun e he x => and_congr ((ih e he).1 x.1) ((ih e he).2 x.2)
  simp only [Tree.expr, Tree.formExpr, Expr.value, toDatum, bind_eq_ok, pure_eq_ok,
    toEntries_eq_ok, each]
  constructor
  · rintro ⟨xs, hxs, out, hout, rfl⟩
    exact ⟨out, ⟨xs, hxs, hout⟩, rfl⟩
  · rintro ⟨out, ⟨xs, hxs, hout⟩, rfl⟩
    exact ⟨xs, hxs, out, hout, rfl⟩

/-- The tree that the text of a literal is read as evaluates to the datum that the literal stands
for, if it stands for one. -/
theorem value_tree (line : Nat) (l : Literal) :
    ∀ d, (l.tree line).expr.value = .ok d ↔ l.toDatum = .ok d := by
  induction l using parts_induction with
  | text s => exact fun d => Iff.rfl
  | number n => exact fun d => by rw [tree, value_number]
  | boolean b => exact fun d => Iff.rfl
  | none => exact fun d => Iff.rfl
  | list items ih =>
    intro d
    simp only [tree, Tree.expr, Tree.formExpr, Expr.value, toDatum, bind_eq_ok, pure_eq_ok,
      value_items ih]
  | tuple items ih =>
    intro d
    simp only [tree, Tree.expr, Tree.formExpr, Expr.value, toDatum, bind_eq_ok, pure_eq_ok,
      value_items ih]
  | mapping entries ih => exact value_entries ih
  | record fields ih =>
    have each : ∀ e ∈ asEntries fields,
        (∀ d, (e.1.tree line).expr.value = .ok d ↔ e.1.toDatum = .ok d) ∧
          ∀ d, (e.2.tree line).expr.value = .ok d ↔ e.2.toDatum = .ok d := by
      intro e he
      obtain ⟨f, hf, rfl⟩ := List.mem_map.mp he
      exact ⟨fun d => Iff.rfl, ih f hf⟩
    intro d
    have all := value_entries each d
    rw [← fieldTrees_eq_entryTrees] at all
    refine all.trans ?_
    rw [toDatum, toDatum, toFields_eq]

end Literal

end Exemplar
