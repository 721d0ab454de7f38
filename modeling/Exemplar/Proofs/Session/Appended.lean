import Exemplar.Proofs.Callables
import Exemplar.Proofs.Session.Plan

/-
  What functions at the end of a file change in a session. They declare nothing that a hint could
  mean (`Declarations.ofStmts_append`), and they are drawn for behind the callables above them
  (`sites_plan_append`). A longer text may put these at other places, which have no say in names and
  calls (`site_outlined`). So a longer file shows the names and calls of the shorter one, and those
  of the functions behind them (`run_appended`).

  This holds where the functions at the end can be read. One that cannot be takes all the
  annotations of the file with it, those above it as well (`run_unreadable`).
-/

namespace Exemplar

/-- The statement defines a function, to be awaited or not. -/
def Stmt.IsFunction (s : Stmt) : Prop := ∃ isAsync name params returns decorators body,
  s.action = .function isAsync name params returns decorators body

/-- What an outline shows apart from its place: a name and a call. -/
def Outline.site (o : Outline) : String × String := (o.name, o.call)

/-- The callable without its place in a file. -/
def Callable.unplaced (c : Callable) : Callable := { c with anchor := 0, stop := 0 }

namespace Callables

/-- The declaration without its place in a file. -/
def Declared.unplaced (d : Declared) : Declared := { d with anchor := 0, stop := 0 }

theorem declared_unplaced (lines lines' : LineIndex) (s : Stmt) :
    (declared? lines s).map Declared.unplaced = (declared? lines' s).map Declared.unplaced := by
  unfold declared?
  split <;> rfl

theorem read_unplaced (t : Declarations) (d : Declared) :
    d.unplaced.read t = Callable.unplaced <$> d.read t := by
  have hread (d : Declared) : d.read t = Docstring.types d.documentation >>= fun docs =>
      d.parameters.mapM (Hinted.read t docs) >>= fun ps =>
        .ok ⟨d.name, ps, d.anchor, d.stop, d.isAsync⟩ := rfl
  rw [hread, hread]
  show Docstring.types d.documentation >>= _ = _
  cases Docstring.types d.documentation with
  | error f => rfl
  | ok docs =>
    show d.parameters.mapM (Hinted.read t docs) >>= _ =
      Callable.unplaced <$> (d.parameters.mapM (Hinted.read t docs) >>= _)
    cases d.parameters.mapM (Hinted.read t docs) <;> rfl

theorem mapM_read_unplaced (t : Declarations) (ds : List Declared) :
    (ds.map Declared.unplaced).mapM (Declared.read t) =
      List.map Callable.unplaced <$> ds.mapM (Declared.read t) := by
  induction ds with
  | nil => rfl
  | cons d ds ih =>
    rw [List.map_cons, List.mapM_cons, List.mapM_cons, ih, read_unplaced]
    cases d.read t with
    | error f => rfl
    | ok c => cases ds.mapM (Declared.read t) <;> rfl

/-- The declarations of statements in a text, in order. -/
def declaredIn (text : List Char) (body : List Stmt) : List Declared :=
  body.filterMap (declared? (.ofText text))

/-- But for their places, they are the same in every text. -/
theorem declaredIn_unplaced (text text' : List Char) (body : List Stmt) :
    (declaredIn text body).map Declared.unplaced =
      (declaredIn text' body).map Declared.unplaced := by
  unfold declaredIn
  rw [List.map_filterMap, List.map_filterMap]
  simp only [declared_unplaced (.ofText text) (.ofText text')]

end Callables

theorem Declaration.ofStmt_function {s : Stmt} (h : s.IsFunction) : ofStmt? s = none := by
  obtain ⟨_, _, _, _, _, _, h⟩ := h
  unfold ofStmt?
  rw [h]

/-- Functions declare no names of types. -/
theorem Declarations.ofStmts_append {fs : List Stmt} (h : ∀ f ∈ fs, f.IsFunction)
    (body : List Stmt) : ofStmts (body ++ fs) = ofStmts body := by
  have hnone : fs.filterMap Declaration.ofStmt? = [] :=
    List.filterMap_eq_nil_iff.mpr fun f hf => Declaration.ofStmt_function (h f hf)
  unfold ofStmts
  rw [List.filterMap_append, hnone, List.append_nil]

theorem Callables.mapM_read_ok_iff (t : Declarations) (ds : List Declared) (cs : List Callable) :
    ds.mapM (Declared.read t) = .ok cs ↔
      (∀ d ∈ ds, d.Readable t) ∧ cs = ds.map (Declared.callable t) :=
  Declared.read_answers.list ds cs

/-- The callables of a longer file are those of the shorter one, but for their places, and those of
the functions behind them. -/
theorem Callables.ofFile_appended (text text' : List Char) (body : List Stmt) {fs : List Stmt}
    (hfs : ∀ f ∈ fs, f.IsFunction) :
    match ofFile text body with
    | .error f => ofFile text' (body ++ fs) = .error f
    | .ok cs => ∃ cs', cs'.map Callable.unplaced = cs.map Callable.unplaced ∧
        ofFile text' (body ++ fs) =
          (cs' ++ ·) <$> (declaredIn text' fs).mapM (Declared.read (.ofStmts body)) := by
  have hplaces := mapM_read_unplaced (.ofStmts body) (declaredIn text' body)
  rw [declaredIn_unplaced text' text, mapM_read_unplaced] at hplaces
  have hfile : ofFile text' (body ++ fs) = do
      let cs ← (declaredIn text' body).mapM (Declared.read (.ofStmts body))
      let more ← (declaredIn text' fs).mapM (Declared.read (.ofStmts body))
      return cs ++ more := by
    unfold ofFile declaredIn
    rw [Declarations.ofStmts_append hfs, List.filterMap_append, List.mapM_append]
  have hshort : ofFile text body =
      (declaredIn text body).mapM (Declared.read (.ofStmts body)) := rfl
  rw [hfile, hshort]
  generalize (declaredIn text' body).mapM (Declared.read (.ofStmts body)) = long at hplaces
  generalize (declaredIn text body).mapM (Declared.read (.ofStmts body)) = short at hplaces
  cases short with
  | error f =>
    cases long with
    | error f' =>
      cases hplaces
      rfl
    | ok cs' => cases hplaces
  | ok cs =>
    cases long with
    | error f' => cases hplaces
    | ok cs' => exact ⟨cs', (Except.ok.inj hplaces).symm, rfl⟩

namespace Session

open Callables (Declared declaredIn mapM_read_ok_iff ofFile_appended)

variable {σ ε ε' : Type} {d : Draws σ} {settings : SynthesisSettings} {evaluate : Evaluator ε}
  {evaluate' : Evaluator ε'}

/-- The names and calls of a plan, and the state after it. -/
def sites (r : Except Raised (List Outline) × σ) : Except Raised (List (String × String)) × σ :=
  (List.map Outline.site <$> r.1, r.2)

/-- The names and calls that a run shows, and the state in which it leaves the source of
decisions. -/
def shown (r : Except Raised (List Annotation) × σ × ε) :
    Except Raised (List (String × String)) × σ :=
  (List.map (fun a => (a.name, a.call)) <$> r.1, r.2.1)

theorem sites_outlines (r : Except Raised (List Annotation) × σ × ε) :
    sites (outlines r) = shown r := by
  obtain ⟨answer, states⟩ := r
  cases answer with
  | error e => rfl
  | ok as =>
    unfold sites outlines shown
    show (Except.ok ((as.map Annotation.outline).map Outline.site), _) = _
    rw [List.map_map]
    rfl

/-- What a callable shows by what writing its call came to. -/
def siteOf (name : String) : Except Raised String → Except Raised (String × String)
  | .ok call => .ok (name, call)
  | .error e => if endsProgram e.name then .error e else .ok (name, name ++ "(...)")

/-- The text of a call of what has a name and parameters, and the state after it. -/
def callText (d : Draws σ) (settings : SynthesisSettings) (name : String)
    (ps : List ShapedParameter) (s : σ) : Except Raised String × σ :=
  let drawn := (Call.draw d settings ps).run s
  (drawn.1 >>= fun args => Syntax.source (Call.expr name args), drawn.2)

/-- A callable shows what its name and its parameters come to. -/
theorem site_outlined (d : Draws σ) (settings : SynthesisSettings) (c : Callable) (s : σ) :
    Outline.site <$> outlined c ((Call.build d settings c).run s).1 =
        siteOf c.name (callText d settings c.name c.parameters s).1 ∧
      ((Call.build d settings c).run s).2 = (callText d settings c.name c.parameters s).2 := by
  have hfailed (e : Raised) :
      Outline.site <$> outlined c (.error e) = siteOf c.name (.error e) := by
    show Outline.site <$> Annotation.outline <$> failed c (c.name ++ "(...)") e =
      if endsProgram e.name then .error e else .ok (c.name, c.name ++ "(...)")
    unfold failed
    split <;> rfl
  unfold Call.build callText
  rw [DrawM.run_bind]
  cases (Call.draw d settings c.parameters).run s with
  | mk drawn s' =>
    cases drawn with
    | error e => exact ⟨hfailed e, rfl⟩
    | ok args =>
      dsimp only [bind, Except.bind]
      cases Syntax.source (Call.expr c.name args) with
      | error e => exact ⟨hfailed e, rfl⟩
      | ok source => exact ⟨rfl, rfl⟩

/-- Names and calls one callable at a time. -/
theorem sites_plan_cons (c : Callable) (cs : List Callable) (s : σ) :
    sites (plan d settings (c :: cs) s) =
      let call := callText d settings c.name c.parameters s
      match siteOf c.name call.1 with
      | .error e => (.error e, call.2)
      | .ok site =>
        let rest := sites (plan d settings cs call.2)
        ((site :: ·) <$> rest.1, rest.2) := by
  obtain ⟨hsite, hstate⟩ := site_outlined d settings c s
  rw [plan]
  dsimp only
  rw [← hsite, ← hstate]
  cases outlined c ((Call.build d settings c).run s).1 with
  | error e => rfl
  | ok o =>
    unfold sites
    dsimp only
    cases plan d settings cs ((Call.build d settings c).run s).2 with
    | mk r s' => cases r <;> rfl

theorem sites_plan_unplaced (cs : List Callable) : ∀ s,
    sites (plan d settings (cs.map Callable.unplaced) s) = sites (plan d settings cs s) := by
  induction cs with
  | nil => exact fun _ => rfl
  | cons c cs ih =>
    intro s
    rw [List.map_cons, sites_plan_cons, sites_plan_cons]
    simp only [ih]
    rfl

/-- Callables behind others are planned from the state that those leave. -/
theorem sites_plan_append (cs cs' : List Callable) : ∀ s,
    sites (plan d settings (cs ++ cs') s) =
      match sites (plan d settings cs s) with
      | (.error e, s') => (.error e, s')
      | (.ok first, s') =>
        let rest := sites (plan d settings cs' s')
        ((first ++ ·) <$> rest.1, rest.2) := by
  induction cs with
  | nil =>
    intro s
    show sites (plan d settings cs' s) =
      (([] ++ ·) <$> (sites (plan d settings cs' s)).1, (sites (plan d settings cs' s)).2)
    cases sites (plan d settings cs' s) with
    | mk r s' => cases r <;> rfl
  | cons c cs ih =>
    intro s
    rw [List.cons_append, sites_plan_cons, sites_plan_cons]
    dsimp only
    cases siteOf c.name (callText d settings c.name c.parameters s).1 with
    | error e => rfl
    | ok site =>
      dsimp only
      rw [ih]
      cases sites (plan d settings cs (callText d settings c.name c.parameters s).2) with
      | mk r s' =>
        cases r with
        | error e => rfl
        | ok first =>
          show ((site :: ·) <$> (first ++ ·) <$> (sites (plan d settings cs' s')).1, _) =
            ((site :: first ++ ·) <$> (sites (plan d settings cs' s')).1, _)
          cases (sites (plan d settings cs' s')).1 <;> rfl

/-! ## Runs -/

theorem shown_run (he : evaluate.RaisesCaught) (d : Draws σ) (settings : SynthesisSettings)
    (m : Module) (s : σ) (t : ε) :
    shown (run d settings evaluate m (s, t)) =
      match Callables.ofFile m.text m.body with
      | .error f => (.error (hintRaised f), s)
      | .ok cs => sites (plan d settings cs s) := by
  rw [← sites_outlines]
  unfold run
  cases Callables.ofFile m.text m.body with
  | error f => rfl
  | ok cs => exact congrArg sites (annotateAll_planned he d settings m cs s t)

variable {m m' : Module} {fs : List Stmt}

/-- Functions that can be read are planned behind what the shorter file shows. -/
theorem shown_appended (he : evaluate.RaisesCaught) (he' : evaluate'.RaisesCaught) (d : Draws σ)
    (settings : SynthesisSettings) (hfs : ∀ f ∈ fs, f.IsFunction) (hm : m'.body = m.body ++ fs)
    (h : ∀ g ∈ declaredIn m'.text fs, g.Readable (.ofStmts m.body)) (s : σ) (t : ε) (t' : ε') :
    shown (run d settings evaluate' m' (s, t')) =
      match shown (run d settings evaluate m (s, t)) with
      | (.error e, s') => (.error e, s')
      | (.ok first, s') =>
        let more := (declaredIn m'.text fs).map (Declared.callable (.ofStmts m.body))
        let rest := sites (plan d settings more s')
        ((first ++ ·) <$> rest.1, rest.2) := by
  have hfile := ofFile_appended m.text m'.text m.body hfs
  rw [← hm] at hfile
  rw [shown_run he, shown_run he']
  cases hcs : Callables.ofFile m.text m.body with
  | error f =>
    rw [hcs] at hfile
    rw [hfile]
  | ok cs =>
    rw [hcs] at hfile
    obtain ⟨cs', hplaces, hfile⟩ := hfile
    rw [hfile, (mapM_read_ok_iff _ _ _).mpr ⟨h, rfl⟩]
    show sites (plan d settings (cs' ++ _) s) = _
    rw [sites_plan_append, ← sites_plan_unplaced cs', hplaces, sites_plan_unplaced]

/-- A function that cannot be read takes all annotations of the file with it. -/
theorem run_unreadable (hfs : ∀ f ∈ fs, f.IsFunction) (hm : m'.body = m.body ++ fs)
    (h : ¬∀ g ∈ declaredIn m'.text fs, g.Readable (.ofStmts m.body)) (states : σ × ε) :
    ∃ f, run d settings evaluate m' states = (.error (hintRaised f), states) := by
  have hfile := ofFile_appended m.text m'.text m.body hfs
  rw [← hm] at hfile
  unfold run
  cases hlong : Callables.ofFile m'.text m'.body with
  | error f => exact ⟨f, rfl⟩
  | ok cs =>
    rw [hlong] at hfile
    cases hshort : Callables.ofFile m.text m.body with
    | error f =>
      rw [hshort] at hfile
      cases hfile
    | ok first =>
      rw [hshort] at hfile
      obtain ⟨cs', -, hfile⟩ := hfile
      cases hmore : (declaredIn m'.text fs).mapM (Declared.read (.ofStmts m.body)) with
      | error f =>
        rw [hmore] at hfile
        cases hfile
      | ok more => exact absurd ((mapM_read_ok_iff _ _ _).mp hmore).1 h

/-- The first of two functions alone. -/
def oneFunction : Module := { twoFunctions with body := [functionOfTruth "f" 1] }

end Session

end Exemplar
