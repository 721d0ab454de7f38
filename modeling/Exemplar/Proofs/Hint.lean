import Exemplar.Proofs.Callables
import Exemplar.Proofs.Decimal.Text
import Exemplar.Proofs.Hint.Keeps
import Exemplar.Proofs.Parser.SoundStmt

/-
  Which scalars the shapes of a file list. A choice lists literals of the source text, and no text
  writes the double that is no number; so none is in the shape that a hint, a declared name or a
  documentation gives (`shape_proper`).
-/

namespace Exemplar

/-- The scalar is not the double that is no number. -/
def Scalar.Proper : Scalar → Prop
  | .float x => x.isNaN = false
  | _ => True

/-- Every scalar that a choice in the shape lists has a property. -/
inductive Shape.Lists (p : Scalar → Prop) : Shape → Prop
  | plain {kind} : Lists p (.plain kind)
  | none : Lists p .none
  | choice {values} (h : ∀ v ∈ values, p v) : Lists p (.choice values)
  | list {element} (h : Lists p element) : Lists p (.list element)
  | tuple {elements} (h : ∀ e ∈ elements, Lists p e) : Lists p (.tuple elements)
  | mapping {key value} (hk : Lists p key) (hv : Lists p value) : Lists p (.mapping key value)
  | record {fields} (h : ∀ f ∈ fields, Lists p f.2) : Lists p (.record fields)
  | union {alternatives} (h : ∀ a ∈ alternatives, Lists p a) : Lists p (.union alternatives)
  | named {name} : Lists p (.named name)
  | unknown : Lists p .unknown

/-- The shape lists proper scalars only. -/
abbrev Shape.Proper (s : Shape) : Prop := s.Lists Scalar.Proper

namespace Shape

variable {p : Scalar → Prop}

theorem Lists.alternatives {s : Shape} (h : s.Lists p) : ∀ a ∈ s.alternatives, a.Lists p := by
  cases h with
  | union h => exact h
  | _ => exact List.forall_mem_singleton.mpr (by constructor <;> assumption)

theorem Lists.unite {shapes : List Shape} (h : ∀ s ∈ shapes, s.Lists p) :
    (unite shapes).Lists p := by
  have all : ∀ a ∈ shapes.flatMap Shape.alternatives, a.Lists p := by
    intro a ha
    obtain ⟨s, hs, ha⟩ := List.mem_flatMap.mp ha
    exact (h s hs).alternatives a ha
  unfold Shape.unite
  split
  · exact .unknown
  · rename_i s heq
    rw [heq] at all
    exact all s (.head _)
  · exact .union all

end Shape

namespace Hint

open HintM (Gives)

theorem scalar_proper {e : Expr} {v : Scalar} (he : e.Sound AnyText) (h : scalar? e = some v) :
    v.Proper := by
  unfold scalar? at h
  split at h <;> cases h
  · trivial
  · trivial
  · trivial
  · exact he
  · trivial
  · trivial
  · exact (Decimal.isNaN_neg _).trans he

theorem choiceShape_proper {args : List Expr} (h : ∀ e ∈ args, e.Sound AnyText) :
    (choiceShape args).Proper := by
  unfold choiceShape
  split
  · exact .unknown
  · refine .choice fun v hv => ?_
    obtain ⟨e, he, hev⟩ := List.mem_filterMap.mp hv
    exact scalar_proper (h e he) hev

theorem sound_of_allSound {es : List Expr} (h : Expr.AllSound AnyText es) :
    ∀ e ∈ es, e.Sound AnyText := by
  induction es with
  | nil => exact nofun
  | cons e es ih => exact List.forall_mem_cons.mpr ⟨h.1, ih h.2⟩

/-- What sound hints say is proper. A hint in quotes is read from a text, and so it is sound. -/
theorem proper_keeps : Keeps (Expr.Sound AnyText) Shape.Proper where
  index h := h
  operands h := h
  items h := sound_of_allSound h
  parsed s := by
    unfold parseQuoted
    dsimp only
    split
    · exact .error
    · exact .pure fun e he => Syntax.parseExpr_sound (fun _ _ => trivial) he
  plain _ := .plain
  none := .none
  unknown := .unknown
  choice := choiceShape_proper
  list := .list
  tuple := .tuple
  mapping := .mapping
  record := .record
  unite := .unite

end Hint

/-! ## Declarations -/

open HintM (Gives)

/-- The hints of the declaration are sound. -/
abbrev Declaration.Sound (d : Declaration) : Prop := d.Hints (Expr.Sound AnyText)

namespace Declaration

open Syntax Syntax.Parser

theorem classFields_sound {body : List Stmt} (h : ∀ s ∈ body, s.Sound AnyText) :
    ∀ f ∈ classFields body, f.2.Sound AnyText := by
  intro f hf
  obtain ⟨⟨a, start, stop⟩, hs, heq⟩ := List.mem_filterMap.mp hf
  have ha : a.Sound AnyText := h _ hs
  dsimp only [Stmt.action] at heq
  split at heq
  · cases heq
    exact ha.2.1
  · cases heq

theorem textEntries_sound {entries : List (Option Expr × Expr)}
    (h : Expr.ValuesSound AnyText entries) :
    ∀ f ∈ textEntries entries, f.2.Sound AnyText := by
  have values : ∀ e ∈ entries, e.2.Sound AnyText := by
    induction entries with
    | nil => exact nofun
    | cons e entries ih => exact List.forall_mem_cons.mpr ⟨h.1, ih h.2⟩
  intro f hf
  obtain ⟨⟨k, v⟩, hv, heq⟩ := List.mem_filterMap.mp hf
  dsimp only at heq
  split at heq
  · cases heq
    exact values _ hv
  · cases heq

theorem calledFields_sound {e : Expr} (he : e.Sound AnyText) {fields : List (String × Expr)}
    (h : calledFields? e = some fields) : ∀ f ∈ fields, f.2.Sound AnyText := by
  unfold calledFields? at h
  split at h
  · split at h
    · cases h
      exact textEntries_sound he.2.1
    · cases h
  · cases h

theorem ofStmt_sound {s : Stmt} (hs : s.Sound AnyText) {name : String} {d : Declaration}
    (h : ofStmt? s = some (name, d)) : d.Sound := by
  obtain ⟨a, start, stop⟩ := s
  have ha : a.Sound AnyText := hs
  dsimp only [ofStmt?, Stmt.action] at h
  split at h
  · split at h <;> cases h
    · exact classFields_sound (Stmt.allSound_iff.mp ha)
    · trivial
  · split at h <;> cases h
    · exact calledFields_sound ha.2 ‹_›
    · exact ha.2
  · split at h <;> cases h
    exact ha.2.2 _ rfl
  · cases h

end Declaration

namespace Declarations

/-- The hints of all declarations are sound. -/
abbrev Sound (t : Declarations) : Prop := t.Hints (Expr.Sound AnyText)

theorem putEntry_sound {name : String} {d : Declaration} (hd : d.Sound) :
    ∀ {es : List (String × Declaration)}, (∀ e ∈ es, e.2.Sound) →
      ∀ e ∈ putEntry name d es, e.2.Sound := by
  intro es h
  induction es with
  | nil => exact List.forall_mem_singleton.mpr hd
  | cons e es ih =>
    obtain ⟨he, hes⟩ := List.forall_mem_cons.mp h
    unfold putEntry
    split
    · exact List.forall_mem_cons.mpr ⟨hd, hes⟩
    · exact List.forall_mem_cons.mpr ⟨he, ih hes⟩

theorem ofStmts_sound {body : List Stmt} (h : ∀ s ∈ body, s.Sound AnyText) :
    (ofStmts body).Sound := by
  have each : ∀ e ∈ body.filterMap Declaration.ofStmt?, e.2.Sound := by
    intro e he
    obtain ⟨s, hs, heq⟩ := List.mem_filterMap.mp he
    exact Declaration.ofStmt_sound (h s hs) heq
  unfold ofStmts
  generalize body.filterMap Declaration.ofStmt? = es at each
  have start : Sound {} := nofun
  generalize ({} : Declarations) = t at start
  induction es generalizing t with
  | nil => exact start
  | cons e es ih =>
    obtain ⟨he, hes⟩ := List.forall_mem_cons.mp each
    exact ih hes _ (putEntry_sound he start)

end Declarations

/-! ## Parameters -/

namespace Callables

open Syntax Syntax.Parser

/-- The parameter has a name, and its hint is sound. -/
structure Hinted.Sound (p : Hinted) : Prop where
  name : IsName p.name
  hint : ∀ e ∈ p.hint, e.Sound AnyText

theorem typeExprs_sound (text : String) : ∀ d ∈ Docstring.typeExprs text, d.2.Sound AnyText := by
  intro d hd
  obtain ⟨⟨n, o⟩, hmem, heq⟩ := List.mem_filterMap.mp hd
  obtain ⟨e, he, rfl⟩ := Option.map_eq_some_iff.mp heq
  obtain ⟨⟨n', type⟩, -, htype⟩ := List.mem_map.mp hmem
  cases htype
  unfold Docstring.typeExpr? at he
  dsimp only at he
  split at he
  · cases he
  · exact parseExpr_sound (fun _ _ => trivial) he

/-- The shape that a sound parameter has in a file with sound declarations is proper. -/
theorem Hinted.shape_proper {t : Declarations} (ht : t.Sound) {p : Hinted} (hp : p.Sound)
    (documentation : String) : (p.shape t (Docstring.typeExprs documentation)).Proper := by
  have documented : ∀ e ∈ (Docstring.typeExprs documentation).lookup p.name, e.Sound AnyText := by
    intro e he
    obtain ⟨l, r, hlist, -⟩ := List.lookup_eq_some_iff.mp he
    exact typeExprs_sound documentation (p.name, e) (hlist ▸ List.mem_append_right _ (.head _))
  have given := Hint.proper_keeps.resolve ht hp.hint documented
  unfold Hinted.shape
  cases hr : t.resolve p.hint ((Docstring.typeExprs documentation).lookup p.name) with
  | error e => exact .unknown
  | ok s => exact given s hr

theorem sound_of_parameters {ps : List Parameter} (h : Parameter.AllSound AnyText ps) :
    ∀ p ∈ ps, IsName p.name ∧ ∀ e ∈ p.hint, e.Sound AnyText := by
  induction ps with
  | nil => exact nofun
  | cons p ps ih =>
    obtain ⟨kind, name, hint, default⟩ := p
    refine List.forall_mem_cons.mpr ⟨⟨h.1.1, fun e he => ?_⟩, ih h.2⟩
    cases he
    exact h.1.2

theorem functionParameters_sound {ps : List Parameter} (h : Parameter.AllSound AnyText ps) :
    ∀ p ∈ functionParameters ps, p.Sound := by
  have each := sound_of_parameters h
  intro p hp
  rcases List.mem_append.mp hp with hp | hp <;> obtain ⟨q, hq, rfl⟩ := List.mem_map.mp hp
  · exact ⟨(each q (List.mem_of_mem_filter hq)).1, (each q (List.mem_of_mem_filter hq)).2⟩
  · exact ⟨(each q (List.mem_of_mem_filter hq)).1, (each q (List.mem_of_mem_filter hq)).2⟩

theorem lambdaParameters_sound {hints : List Expr} (hh : ∀ e ∈ hints, e.Sound AnyText)
    {ps : List Parameter} (h : Parameter.AllSound AnyText ps) :
    ∀ p ∈ lambdaParameters hints ps, p.Sound := by
  have each := sound_of_parameters h
  intro p hp
  rcases List.mem_append.mp hp with hp | hp
  · obtain ⟨⟨q, i⟩, hq, rfl⟩ := List.mem_map.mp hp
    have hq : q ∈ ps := List.mem_of_mem_filter (List.fst_mem_of_mem_zipIdx hq)
    exact ⟨(each q hq).1, fun e he => hh e (List.mem_of_getElem? he)⟩
  · obtain ⟨q, hq, rfl⟩ := List.mem_map.mp hp
    exact ⟨(each q (List.mem_of_mem_filter hq)).1, nofun⟩

theorem argumentHints_sound {e : Expr} (he : e.Sound AnyText) :
    ∀ a ∈ argumentHints e, a.Sound AnyText := by
  unfold argumentHints
  split
  · split
    · exact Hint.sound_of_allSound he.1
    · exact nofun
  · exact nofun

/-- What a sound statement declares has a name, and its parameters are sound. -/
theorem declared_sound {lines : LineIndex} {s : Stmt} (hs : s.Sound AnyText) {d : Declared}
    (h : declared? lines s = some d) : IsName d.name ∧ ∀ p ∈ d.parameters, p.Sound := by
  obtain ⟨a, start, stop⟩ := s
  have ha : a.Sound AnyText := hs
  dsimp only [declared?, Stmt.action] at h
  split at h
  · cases h
    exact ⟨ha.1, functionParameters_sound (allSound_parameters ha.2.1)⟩
  · cases h
    exact ⟨ha.1 _ (.head _), lambdaParameters_sound (List.forall_mem_nil _) ha.2.1⟩
  · cases h
    exact ⟨ha.1, lambdaParameters_sound (argumentHints_sound ha.2.1) (ha.2.2 _ rfl).1⟩
  · cases h

end Callables

end Exemplar
