import Exemplar.Callables
import Exemplar.Source.Module

/-
  Which callables a file has. What can go wrong where one is read is said once for each reader, as
  the condition under which it answers together with what it then answers (`Answers`). Conditions
  and answers of the parts give those of the whole, so that the callables of a file are those of its
  statements, each read on its own (`ofFile_ok_iff`).
-/

namespace Exemplar

variable {α β γ : Type}

namespace HintM

/-- A reader answers exactly where `P` holds, and there with the value of `g`. -/
def Answers (f : α → HintM β) (P : α → Prop) (g : α → β) : Prop :=
  ∀ x y, f x = .ok y ↔ P x ∧ y = g x

namespace Answers

variable {f : α → HintM β} {P : α → Prop} {g : α → β}

theorem bind {k : α → β → HintM γ} {Q : α → Prop} {r : α → γ} (hf : Answers f P g)
    (hk : Answers (fun x => k x (g x)) Q r) :
    Answers (fun x => f x >>= k x) (fun x => P x ∧ Q x) r := by
  intro x z
  show f x >>= k x = .ok z ↔ (P x ∧ Q x) ∧ z = r x
  constructor
  · intro h
    cases hx : f x with
    | error e => rw [hx] at h; cases h
    | ok y =>
      obtain ⟨hp, rfl⟩ := (hf x y).mp hx
      rw [hx] at h
      obtain ⟨hq, hz⟩ := (hk x z).mp h
      exact ⟨⟨hp, hq⟩, hz⟩
  · rintro ⟨⟨hp, hq⟩, hz⟩
    rw [(hf x (g x)).mpr ⟨hp, rfl⟩]
    exact (hk x z).mpr ⟨hq, hz⟩

theorem pure (g : α → β) : Answers (fun x => (Pure.pure (g x) : HintM β)) (fun _ => True) g := by
  intro x y
  constructor
  · intro h
    cases h
    exact ⟨trivial, rfl⟩
  · rintro ⟨-, rfl⟩
    rfl

theorem map (hf : Answers f P g) (r : α → β → γ) :
    Answers (fun x => f x >>= fun b => Pure.pure (r x b)) P fun x => r x (g x) := by
  intro x z
  have h : _ ↔ (P x ∧ True) ∧ _ :=
    hf.bind (k := fun x b => Pure.pure (r x b)) (pure fun x => r x (g x)) x z
  rwa [and_true] at h

theorem comp (hf : Answers f P g) (r : γ → α) :
    Answers (fun x => f (r x)) (fun x => P (r x)) fun x => g (r x) := fun x y => hf (r x) y

/-- A reader of lists answers where each item can be read. -/
theorem list (hf : Answers f P g) :
    Answers (fun xs : List α => xs.mapM f) (fun xs => ∀ x ∈ xs, P x) (List.map g) := by
  intro xs
  induction xs with
  | nil =>
    intro ys
    have h := pure (fun _ : Unit => ([] : List β)) () ys
    exact h.trans (and_congr_left fun _ => iff_of_true trivial (List.forall_mem_nil P))
  | cons x xs ih =>
    intro ys
    have rest : Answers (fun _ : Unit => xs.mapM f) (fun _ => ∀ x ∈ xs, P x) fun _ => xs.map g :=
      fun _ zs => ih zs
    have whole := (hf.comp fun _ : Unit => x).bind (k := fun _ y => do return y :: (← xs.mapM f))
      (rest.map fun _ zs => g x :: zs) () ys
    rwa [← List.mapM_cons, ← List.forall_mem_cons] at whole

end Answers

end HintM

namespace Docstring

/-- The documentation gives no parameter a type whose text holds the null character. -/
def NullFree (text : String) : Prop := ∀ e ∈ typeTexts text, '\x00' ∉ cleanType e.2.toList

/-- The expression that the text of a type stands for, if any. -/
def typeExpr? (text : String) : Option Expr :=
  let cs := cleanType text.toList
  if cs.isEmpty then none else Syntax.parseExpr? (Text.unifyLineEnds cs)

/-- The types that a documentation text gives to parameters, leaving out what is no type. -/
def typeExprs (text : String) : List (String × Expr) :=
  ((typeTexts text).map fun e => (e.1, typeExpr? e.2)).filterMap fun (n, e) => e.map fun e => (n, e)

theorem readType_answers :
    HintM.Answers readType (fun t => '\x00' ∉ cleanType t.toList) typeExpr? := by
  intro t e
  show readType t = .ok e ↔ '\x00' ∉ cleanType t.toList ∧ e = typeExpr? t
  unfold readType typeExpr?
  generalize cleanType t.toList = cs
  cases cs with
  | nil => simp [pure, Except.pure, eq_comm]
  | cons c cs =>
    by_cases hn : '\x00' ∈ c :: cs
    · simp [hn]
    · simp [hn, pure, Except.pure, eq_comm]

theorem types_answers : HintM.Answers types NullFree typeExprs := by
  have each : HintM.Answers (fun e : String × String => do return (e.1, ← readType e.2))
      (fun e => '\x00' ∉ cleanType e.2.toList) (fun e => (e.1, typeExpr? e.2)) :=
    (readType_answers.comp Prod.snd).map fun e t => (e.1, t)
  have all := (each.list.comp typeTexts).map fun _ read =>
    read.filterMap fun r => r.2.map fun e => (r.1, e)
  exact all

end Docstring

namespace Callables

/-! ## Parameters -/

namespace Hinted

variable {t : Declarations} {docs : List (String × Expr)}

/-- The parameter has a shape, or the fault of its hints can be reported. -/
def Tellable (t : Declarations) (docs : List (String × Expr)) (p : Hinted) : Prop :=
  (∃ s, t.resolve p.hint (docs.lookup p.name) = .ok s) ∨
    p.hint.bind Syntax.Unprintable.of? = none

/-- The shape that the hints of the parameter give, or else the unknown shape. -/
def shape (t : Declarations) (docs : List (String × Expr)) (p : Hinted) : Shape :=
  (t.resolve p.hint (docs.lookup p.name)).toOption.getD .unknown

/-- The parameter with its own shape. -/
def shaped (t : Declarations) (docs : List (String × Expr)) (p : Hinted) : ShapedParameter :=
  ⟨p.name, p.shape t docs, p.keywordOnly⟩

theorem shapeOrUnknown_answers :
    HintM.Answers (fun p : Hinted => shapeOrUnknown t p.hint (docs.lookup p.name))
      (Tellable t docs) (shape t docs) := by
  intro p s
  unfold Tellable shape
  show shapeOrUnknown t p.hint (docs.lookup p.name) = .ok s ↔ _
  unfold shapeOrUnknown
  cases t.resolve p.hint (docs.lookup p.name) with
  | ok s' => simp [Except.toOption, eq_comm]
  | error e =>
    cases p.hint.bind Syntax.Unprintable.of? with
    | some why => simp
    | none => simp [Except.toOption, eq_comm]

theorem read_answers : HintM.Answers (read t docs) (Tellable t docs) (shaped t docs) :=
  shapeOrUnknown_answers.map fun p s => (⟨p.name, s, p.keywordOnly⟩ : ShapedParameter)

end Hinted

/-! ## Declarations -/

namespace Declared

variable {t : Declarations}

/-- The types that the documentation gives to parameters. -/
def docs (d : Declared) : List (String × Expr) := Docstring.typeExprs d.documentation

/-- The documentation can be read, and so can each of the parameters. -/
def Readable (t : Declarations) (d : Declared) : Prop :=
  Docstring.NullFree d.documentation ∧ ∀ p ∈ d.parameters, p.Tellable t d.docs

/-- The callable of a declaration, every parameter with its own shape. -/
def callable (t : Declarations) (d : Declared) : Callable :=
  ⟨d.name, d.parameters.map (Hinted.shaped t d.docs), d.anchor, d.stop, d.isAsync⟩

theorem read_answers : HintM.Answers (read t) (Readable t) (callable t) := by
  have parameters : HintM.Answers (fun d : Declared => d.parameters.mapM (Hinted.read t d.docs))
      (fun d => ∀ p ∈ d.parameters, p.Tellable t d.docs)
      (fun d => d.parameters.map (Hinted.shaped t d.docs)) :=
    fun d ps => Hinted.read_answers.list d.parameters ps
  have rest := parameters.map fun d ps =>
    (⟨d.name, ps, d.anchor, d.stop, d.isAsync⟩ : Callable)
  exact (Docstring.types_answers.comp documentation).bind rest

end Declared

/-- A declaration spans the places of its statement. -/
theorem span_of_declared {lines : LineIndex} {s : Stmt} {d : Declared}
    (h : declared? lines s = some d) : d.anchor = lines.offset s.start.line s.start.column ∧
      d.stop = lines.offset s.stop.line s.stop.column := by
  unfold declared? at h
  split at h
  all_goals cases h
  all_goals exact ⟨rfl, rfl⟩

/-- Every callable of a file is that of a statement. -/
theorem exists_declared {text : List Char} {body : List Stmt} {cs : List Callable}
    (h : ofFile text body = .ok cs) {c : Callable} (hc : c ∈ cs) :
    ∃ s ∈ body, ∃ d, declared? (.ofText text) s = some d ∧ d.read (.ofStmts body) = .ok c := by
  obtain ⟨hread, rfl⟩ := (Declared.read_answers.list _ cs).mp h
  obtain ⟨d, hd, rfl⟩ := List.mem_map.mp hc
  obtain ⟨s, hs, hsd⟩ := List.mem_filterMap.mp hd
  exact ⟨s, hs, d, hsd, (Declared.read_answers d _).mpr ⟨hread d hd, rfl⟩⟩

end Callables

/-- The statements of an accepted file are those that its text is parsed into, and keep the rules of
scopes. -/
theorem Module.body_of_parse {filename : String} {text : List Char} {m : Module}
    (h : parse filename text = .ok m) : m.text = text ∧
      Syntax.parseFile? (Syntax.endLine (Text.unifyLineEnds text)) = some m.body ∧
      Syntax.scopeFault? m.body = none := by
  unfold parse at h
  split at h
  · cases h
  · split at h
    · rename_i body hbody
      cases h
      unfold statements at hbody
      dsimp only at hbody
      split at hbody
      · cases hbody
      · rename_i parsed hparse
        split at hbody
        · cases hbody
        · rename_i hscope
          cases hbody
          exact ⟨rfl, hparse, hscope⟩
    · cases h

end Exemplar
