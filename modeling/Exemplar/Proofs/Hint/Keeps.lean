import Exemplar.Hint
import Mathlib.Data.List.Basic

/-
  Properties that all shapes of hints have. Such a property holds of the shapes that need no parts
  and is kept by every way to build a shape from parts; what it asks of the literals of a choice is
  asked of the hints (`Keeps`). Then the shape of a hint has it, whatever names the hint uses and
  whatever it quotes (`Keeps.shapeIn`), and so have the shapes that declarations give
  (`Keeps.nameShape`, `Keeps.shapeOf`, `Keeps.resolve`).

  Every shape that hints, declared names and documentations give is in normal form
  (`resolved_normal`), whatever the declarations are and however they refer to each other. The one
  step that could break the form is the union of shapes: it takes unions among them apart only
  once. That is enough because the alternatives of a shape in normal form are no unions themselves
  (`Normal.alternatives`), so the form of the parts carries over to the whole (`Normal.unite`).
-/

namespace Exemplar

namespace HintM

variable {α β : Type} {q : α → Prop} {r : β → Prop}

/-- What the reader answers, if it does, has a property. -/
def Gives (x : HintM α) (q : α → Prop) : Prop := ∀ a, x = .ok a → q a

theorem Gives.pure {a : α} (h : q a) : Gives (Pure.pure a) q := by
  intro b hb
  cases hb
  exact h

theorem Gives.error {e : HintFault} : Gives (.error e) q := nofun

theorem Gives.bind {x : HintM α} {f : α → HintM β} (hx : Gives x q)
    (hf : ∀ a, q a → Gives (f a) r) : Gives (x >>= f) r := by
  intro b hb
  cases x with
  | error e => cases hb
  | ok a => exact hf a (hx a rfl) b hb

end HintM

open HintM (Gives)

namespace Hint

variable {ok : Expr → Prop} {q : Shape → Prop}

/-- The property `q` of shapes is kept by all that hints with the property `ok` say; the hints
inside such a hint have the property too, and so has every hint that is read from quotes. -/
structure Keeps (ok : Expr → Prop) (q : Shape → Prop) : Prop where
  index {head index : Expr} (h : ok (.subscript head index)) : ok index
  operands {left right : Expr} {op : BinaryOp} (h : ok (.binary left op right)) :
    ok left ∧ ok right
  items {es : List Expr} (h : ok (.tuple es)) : ∀ e ∈ es, ok e
  parsed (s : String) : Gives (parseQuoted s) fun o => ∀ e ∈ o, ok e
  plain (kind : Plain) : q (.plain kind)
  none : q .none
  unknown : q .unknown
  choice {args : List Expr} (h : ∀ e ∈ args, ok e) : q (choiceShape args)
  list {s : Shape} (h : q s) : q (.list s)
  tuple {ss : List Shape} (h : ∀ s ∈ ss, q s) : q (.tuple ss)
  mapping {k v : Shape} (hk : q k) (hv : q v) : q (.mapping k v)
  record {fs : List (String × Shape)} (h : ∀ f ∈ fs, q f.2) : q (.record fs)
  unite {ss : List Shape} (h : ∀ s ∈ ss, q s) : q (.unite ss)

namespace Keeps

theorem bare (k : Keeps ok q) (name : String) : q (bareShape name) := by
  have known : ∀ e ∈ plainNames, q e.2 := by
    simp only [plainNames, List.forall_mem_cons]
    exact ⟨k.plain _, k.plain _, k.plain _, k.plain _, k.plain _, k.plain _, k.plain _, k.none,
      k.unknown, k.unknown, List.forall_mem_nil _⟩
  unfold bareShape
  split
  · rename_i s heq
    obtain ⟨l, r, hlist, -⟩ := List.lookup_eq_some_iff.mp heq
    exact known (name, s) (hlist ▸ List.mem_append_right _ (.head _))
  · split
    · exact k.list k.unknown
    · split
      · exact k.mapping k.unknown k.unknown
      · exact k.unknown

/-! ## One hint -/

section Shapes

variable {ref : String → Option (HintM Shape)} {quoted : String → HintM Shape}

mutual

theorem shapeWith (k : Keeps ok q) (href : ∀ n, ∀ s ∈ ref n, Gives s q)
    (hquoted : ∀ s, Gives (quoted s) q) (e : Expr) (he : ok e) :
    Gives (shapeWith ref quoted e) q := by
  cases e with
  | const c =>
    unfold Hint.shapeWith
    cases c with
    | none => exact .pure k.none
    | str s => exact hquoted s
    | _ => exact .pure k.unknown
  | name n =>
    unfold Hint.shapeWith
    cases hn : ref n with
    | none => exact .pure (k.bare n)
    | some s => exact href n s hn
  | «attribute» value attr =>
    unfold Hint.shapeWith
    exact .pure (k.bare attr)
  | subscript head index =>
    have hindex := fun name => indexShape k href hquoted (Form.ofName name) index (k.index he)
    unfold Hint.shapeWith
    split
    · exact .pure k.unknown
    · dsimp only
      split
      · rename_i s heq
        split at heq
        · exact href _ s heq
        · cases heq
      · exact hindex _
  | binary left op right =>
    have hleft := shapeWith k href hquoted left (k.operands he).1
    have hright := shapeWith k href hquoted right (k.operands he).2
    cases op with
    | bitOr =>
      unfold Hint.shapeWith
      exact .bind hleft fun l hl => .bind hright fun r hr => .pure (k.unite
        (List.forall_mem_cons.mpr ⟨hl, List.forall_mem_singleton.mpr hr⟩))
    | _ =>
      unfold Hint.shapeWith
      exact .pure k.unknown
  | _ =>
    unfold Hint.shapeWith
    exact .pure k.unknown
termination_by 2 * sizeOf e
decreasing_by
  all_goals
    subst e
    simp only [Expr.subscript.sizeOf_spec, Expr.binary.sizeOf_spec]
    omega

theorem indexShape (k : Keeps ok q) (href : ∀ n, ∀ s ∈ ref n, Gives s q)
    (hquoted : ∀ s, Gives (quoted s) q) (form : Form) (e : Expr) (he : ok e) :
    Gives (indexShape ref quoted form e) q := by
  have hone := shapeWith k href hquoted e he
  have single : ∀ {s : Shape}, q s → ∀ t ∈ [s], q t := List.forall_mem_singleton.mpr
  unfold Hint.indexShape
  split
  · rename_i es
    exact argumentShape k href hquoted form es (k.items he)
  · split
    · exact .bind hone fun s hs => .pure (k.unite
        (List.forall_mem_cons.mpr ⟨hs, single k.none⟩))
    · exact .bind hone fun s hs => .pure (k.unite (single hs))
    · exact .pure (k.choice (List.forall_mem_singleton.mpr he))
    · exact hone
    · exact .bind hone fun s hs => .pure (k.list hs)
    · exact .bind hone fun s hs => .pure (k.tuple (single hs))
    · exact .pure (k.mapping k.unknown k.unknown)
    · exact .pure k.unknown
termination_by 2 * sizeOf e + 1

theorem argumentShape (k : Keeps ok q) (href : ∀ n, ∀ s ∈ ref n, Gives s q)
    (hquoted : ∀ s, Gives (quoted s) q) (form : Form) :
    ∀ es : List Expr, (∀ e ∈ es, ok e) → Gives (argumentShape ref quoted form es) q
  | [], _ => by
    unfold Hint.argumentShape
    refine .pure ?_
    split
    · exact k.tuple nofun
    · exact k.unknown
  | e :: es, he => by
    obtain ⟨hok, hoks⟩ := List.forall_mem_cons.mp he
    have hfirst := shapeWith k href hquoted e hok
    have hrest := shapesWith k href hquoted es hoks
    unfold Hint.argumentShape
    split
    · exact .bind hfirst fun s hs => .pure (k.unite
        (List.forall_mem_cons.mpr ⟨hs, List.forall_mem_singleton.mpr k.none⟩))
    · exact .bind hfirst fun s hs => .bind hrest fun ss hss =>
        .pure (k.unite (List.forall_mem_cons.mpr ⟨hs, hss⟩))
    · exact .pure (k.choice he)
    · exact hfirst
    · exact .bind hfirst fun s hs => .pure (k.list hs)
    · split
      · exact .bind hfirst fun s hs => .pure (k.list hs)
      · exact .pure (k.tuple nofun)
      · exact .bind hfirst fun s hs => .bind hrest fun ss hss =>
          .pure (k.tuple (List.forall_mem_cons.mpr ⟨hs, hss⟩))
    · split
      · rename_i v
        exact .bind hfirst fun key hkey => .bind (shapeWith k href hquoted v (hoks v (.head _)))
          fun value hvalue => .pure (k.mapping hkey hvalue)
      · exact .pure (k.mapping k.unknown k.unknown)
    · exact .pure k.unknown
termination_by es => 2 * sizeOf es

theorem shapesWith (k : Keeps ok q) (href : ∀ n, ∀ s ∈ ref n, Gives s q)
    (hquoted : ∀ s, Gives (quoted s) q) :
    ∀ es : List Expr, (∀ e ∈ es, ok e) →
      Gives (shapesWith ref quoted es) fun ss => ∀ s ∈ ss, q s
  | [], _ => by
    unfold Hint.shapesWith
    exact .pure nofun
  | e :: es, he => by
    obtain ⟨hok, hoks⟩ := List.forall_mem_cons.mp he
    unfold Hint.shapesWith
    exact .bind (shapeWith k href hquoted e hok) fun s hs =>
      .bind (shapesWith k href hquoted es hoks) fun ss hss =>
        .pure (List.forall_mem_cons.mpr ⟨hs, hss⟩)
termination_by es => 2 * sizeOf es

end

end Shapes

variable {ref : String → Option (HintM Shape)}

theorem quotedShape (k : Keeps ok q) (href : ∀ n, ∀ s ∈ ref n, Gives s q) (n : Nat) :
    ∀ s, Gives (quotedShape ref n s) q := by
  induction n with
  | zero => exact fun _ => .pure k.unknown
  | succ n ih =>
    refine fun s => .bind (k.parsed s) fun o ho => ?_
    cases o with
    | none => exact .pure k.unknown
    | some e => exact k.shapeWith href ih e (ho e rfl)

theorem shapeIn (k : Keeps ok q) (href : ∀ n, ∀ s ∈ ref n, Gives s q) {e : Expr} (he : ok e) :
    Gives (shapeIn ref e) q :=
  k.shapeWith href (fun s => k.quotedShape href (s.length + 1) s) e he

end Keeps

end Hint

/-! ## Declarations -/

/-- The hints of the declaration have a property. -/
def Declaration.Hints (ok : Expr → Prop) : Declaration → Prop
  | .synonym value => ok value
  | .record fields => ∀ f ∈ fields, ok f.2
  | .unknownClass => True

namespace Declarations

/-- The hints of all declarations have a property. -/
def Hints (ok : Expr → Prop) (t : Declarations) : Prop := ∀ e ∈ t.entries, e.2.Hints ok

theorem Hints.get {ok : Expr → Prop} {t : Declarations} (ht : t.Hints ok) {name : String}
    {d : Declaration} (h : t.get? name = some d) : d.Hints ok := by
  obtain ⟨l, r, hlist, -⟩ := List.lookup_eq_some_iff.mp h
  exact ht (name, d) (hlist ▸ List.mem_append_right _ (.head _))

end Declarations

namespace Hint.Keeps

open Declarations

variable {ok : Expr → Prop} {q : Shape → Prop} {t : Declarations}

theorem fieldShapes {shape : Expr → HintM Shape} (h : ∀ e, ok e → Gives (shape e) q)
    {fields : List (String × Expr)} (hf : (Declaration.record fields).Hints ok) :
    Gives (fieldShapes shape fields) fun fs => ∀ f ∈ fs, q f.2 := by
  induction fields with
  | nil => exact .pure nofun
  | cons f fields ih =>
    obtain ⟨hfirst, hrest⟩ := List.forall_mem_cons.mp hf
    exact .bind (h f.2 hfirst) fun s hs => .bind (ih hrest) fun fs hfs =>
      .pure (List.forall_mem_cons.mpr ⟨hs, hfs⟩)

/-- By induction on the levels: the names inside a declaration are read one level deeper. -/
theorem nameShape (k : Keeps ok q) (ht : t.Hints ok) (n : Nat) :
    ∀ active name, Gives (t.nameShape n active name) q := by
  induction n with
  | zero => exact fun _ _ => .pure k.unknown
  | succ n ih =>
    intro active name
    have inner : ∀ other, ∀ s ∈ (t.get? other).map fun _ =>
        t.nameShape n (name :: active) other, Gives s q := by
      intro other s hs
      obtain ⟨_, -, rfl⟩ := Option.map_eq_some_iff.mp hs
      exact ih _ _
    unfold Declarations.nameShape
    split
    · exact .pure k.unknown
    · dsimp only
      cases hd : t.get? name with
      | none => exact .pure k.unknown
      | some d =>
        have hhints := ht.get hd
        cases d with
        | synonym value => exact k.shapeIn inner hhints
        | record fields =>
          have each := fieldShapes (fun _ => k.shapeIn inner) hhints
          exact .bind each fun fs hfs => .pure (k.record hfs)
        | unknownClass => exact .pure k.unknown

theorem shapeOf (k : Keeps ok q) (ht : t.Hints ok) {e : Expr} (he : ok e) :
    Gives (t.shapeOf e) q := by
  refine k.shapeIn (fun name s hs => ?_) he
  obtain ⟨_, -, rfl⟩ := Option.map_eq_some_iff.mp hs
  exact k.nameShape ht _ _ _

/-- What is documented stands in for an unknown shape. -/
theorem orDocumented (k : Keeps ok q) (ht : t.Hints ok) {documented : Option Expr}
    (hd : ∀ e ∈ documented, ok e) (own : Shape) (hown : q own) :
    Gives (match own with
      | .unknown =>
        match documented with
        | some e => t.shapeOf e
        | .none => pure .unknown
      | s => pure s) q := by
  split
  · cases documented with
    | none => exact .pure k.unknown
    | some e => exact k.shapeOf ht (hd e rfl)
  · exact .pure hown

theorem resolve (k : Keeps ok q) (ht : t.Hints ok) {hint documented : Option Expr}
    (hh : ∀ e ∈ hint, ok e) (hd : ∀ e ∈ documented, ok e) :
    Gives (t.resolve hint documented) q := by
  unfold Declarations.resolve
  cases hint with
  | none => exact .bind (.pure k.unknown) (k.orDocumented ht hd)
  | some e => exact .bind (k.shapeOf ht (hh e rfl)) (k.orDocumented ht hd)

end Hint.Keeps

end Exemplar

namespace Exemplar

/-! ## Normal form -/

open HintM (Gives)

namespace Shape

def IsUnion : Shape → Prop
  | .union _ => True
  | _ => False

/-- The shape is in normal form at every depth: no name in it awaits its declaration, unions list at
least two shapes that are no unions, and choices list at least one scalar. -/
inductive Normal : Shape → Prop
  | plain {kind} : Normal (.plain kind)
  | none : Normal .none
  | choice {values} (some : values ≠ []) : Normal (.choice values)
  | list {element} (h : Normal element) : Normal (.list element)
  | tuple {elements} (h : ∀ e ∈ elements, Normal e) : Normal (.tuple elements)
  | mapping {key value} (hk : Normal key) (hv : Normal value) : Normal (.mapping key value)
  | record {fields} (h : ∀ f ∈ fields, Normal f.2) : Normal (.record fields)
  | union {alternatives} (several : 2 ≤ alternatives.length) (flat : ∀ a ∈ alternatives, ¬a.IsUnion)
      (h : ∀ a ∈ alternatives, Normal a) : Normal (.union alternatives)
  | unknown : Normal .unknown

namespace Normal

theorem alternatives {s : Shape} (h : s.Normal) :
    ∀ a ∈ s.alternatives, a.Normal ∧ ¬a.IsUnion := by
  cases h with
  | union _ flat h => exact fun a ha => ⟨h a ha, flat a ha⟩
  | _ => exact List.forall_mem_singleton.mpr ⟨by constructor <;> assumption, id⟩

theorem unite {shapes : List Shape} (h : ∀ s ∈ shapes, s.Normal) : (unite shapes).Normal := by
  have all : ∀ a ∈ shapes.flatMap Shape.alternatives, a.Normal ∧ ¬a.IsUnion := by
    intro a ha
    obtain ⟨s, hs, ha⟩ := List.mem_flatMap.mp ha
    exact (h s hs).alternatives a ha
  unfold Shape.unite
  split
  · exact .unknown
  · rename_i s heq
    rw [heq] at all
    exact (all s (.head _)).1
  · rename_i ss hempty hone
    refine .union ?_ (fun a ha => (all a ha).2) fun a ha => (all a ha).1
    match hss : shapes.flatMap Shape.alternatives with
    | [] => exact absurd hss hempty
    | [s] => exact absurd hss (hone s)
    | _ :: _ :: _ => exact Nat.le_add_left 2 _

/-- No name is left in a shape in normal form. -/
theorem hasName {s : Shape} (h : s.Normal) : s.hasName = false := by
  have items : ∀ {ss : List Shape}, (∀ s ∈ ss, s.hasName = false) → anyHasName ss = false := by
    intro ss hss
    induction ss with
    | nil => rfl
    | cons s ss ih =>
      obtain ⟨hs, hrest⟩ := List.forall_mem_cons.mp hss
      rw [anyHasName, hs, ih hrest, Bool.false_or]
  have named : ∀ {fs : List (String × Shape)}, (∀ f ∈ fs, f.2.hasName = false) →
      anyFieldHasName fs = false := by
    intro fs hfs
    induction fs with
    | nil => rfl
    | cons f fs ih =>
      obtain ⟨hf, hrest⟩ := List.forall_mem_cons.mp hfs
      rw [anyFieldHasName, hf, ih hrest, Bool.false_or]
  induction h with
  | list _ ih => rwa [Shape.hasName]
  | tuple _ ih => rw [Shape.hasName, items ih]
  | mapping _ _ hk hv => rw [Shape.hasName, hk, hv, Bool.false_or]
  | record _ ih => rw [Shape.hasName, named ih]
  | union _ _ _ ih => rw [Shape.hasName, items ih]
  | _ => simp only [Shape.hasName]

end Normal

end Shape

namespace Hint

theorem choiceShape_normal (args : List Expr) : (choiceShape args).Normal := by
  unfold choiceShape
  split
  · exact .unknown
  · exact .choice ‹_›

theorem normal_keeps : Keeps (fun _ => True) Shape.Normal where
  index _ := trivial
  operands _ := ⟨trivial, trivial⟩
  items _ _ _ := trivial
  parsed _ _ _ _ _ := trivial
  plain _ := .plain
  none := .none
  unknown := .unknown
  choice _ := choiceShape_normal _
  list := .list
  tuple := .tuple
  mapping := .mapping
  record := .record
  unite := .unite

end Hint

namespace Declarations

theorem hints_true (t : Declarations) : t.Hints fun _ => True := by
  intro ⟨_, d⟩ _
  cases d with
  | record fields => exact fun _ _ => trivial
  | _ => trivial

/-- For all declarations, also ones that refer to each other in circles: the shape of every hint, of
every parameter and of every declared name is in normal form. -/
theorem resolved_normal (t : Declarations) :
    (∀ e, Gives (t.shapeOf e) Shape.Normal) ∧
    (∀ hint documented, Gives (t.resolve hint documented) Shape.Normal) ∧
    (∀ name, Gives (t.resolveName name) Shape.Normal) :=
  ⟨fun _ => Hint.normal_keeps.shapeOf t.hints_true trivial,
   fun _ _ => Hint.normal_keeps.resolve t.hints_true (fun _ _ => trivial) fun _ _ => trivial,
   fun _ => Hint.normal_keeps.nameShape t.hints_true _ _ _⟩

/-- `Tree` is a number or a `Branch`, which is a `Tree` or a text. -/
def treeAndBranch : Declarations where
  entries :=
    [("Tree", .synonym (.binary (.name "int") .bitOr (.name "Branch"))),
     ("Branch", .synonym (.binary (.name "Tree") .bitOr (.name "str")))]

theorem resolved_normal_treeAndBranch :
    treeAndBranch.resolveName "Tree" = .ok (.union [.plain .number, .unknown, .plain .text]) ∧
      Shape.Normal (.union [.plain .number, .unknown, .plain .text]) := by
  have answer :
      treeAndBranch.resolveName "Tree" = .ok (.union [.plain .number, .unknown, .plain .text]) := by
    simp [resolveName, nameShape, depth, treeAndBranch, get?, Hint.shapeIn, Hint.shapeWith,
      List.lookup_cons, Hint.bareShape, Hint.plainNames, Shape.unite, Shape.alternatives]
    rfl
  exact ⟨answer, (resolved_normal treeAndBranch).2.2 "Tree" _ answer⟩

end Declarations

end Exemplar
