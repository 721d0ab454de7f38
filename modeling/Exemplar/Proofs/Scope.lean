import Exemplar.Callables
import Exemplar.Machine.Compile.Standing
import Exemplar.Proofs.Except
import Exemplar.Proofs.Parser.SoundStmt
import Exemplar.Syntax.Scope

/-
  The parameters that a statement declares. A function and a lambda that is bound to one name have
  parameters of five kinds; the callable of the statement lists those that take one argument each
  (`declared_places`), in the order of the variables that they become (`signature_positional`).

  What the rules of scopes say about parameters. A text that keeps them gives no function two
  parameters of one name, and binds the name that stands for a constant nowhere
  (`parameters_distinct`).
-/

namespace Exemplar

open Syntax Syntax.Parser

/-- The statement declares a callable with parameters under a name. -/
inductive Declares : Stmt → String → List TreeParameter → Prop
  | function {isAsync name ps returns decorators body start stop} :
    Declares (.mk (.function isAsync name ps returns decorators body) start stop) name ps
  | lambda {name ps body start stop l l'} :
    Declares (.mk (.assign [.mk l (.name name)] (.mk l' (.lambda ps body))) start stop) name ps
  | hinted {name ps body hint simple start stop l l'} :
    Declares (.mk (.annAssign (.mk l (.name name)) hint (some (.mk l' (.lambda ps body))) simple)
      start stop) name ps

/-- The names of the parameters that take one argument by its place. -/
def placedNames (ps : List TreeParameter) : List String :=
  (ps.filter fun p => p.kind == .positionalOnly || p.kind == .ordinary).map (·.name)

/-- The names of the parameters that take one argument by name only. -/
def keywordNames (ps : List TreeParameter) : List String :=
  (ps.filter (·.kind == .keywordOnly)).map (·.name)

/-- Whether a parameter takes one argument, and not what is left over. -/
def takesOne (p : TreeParameter) : Bool := p.kind != .variadic && p.kind != .keywordVariadic

/-- Each parameter that takes one argument takes it by its place or by name only. -/
theorem names_perm (ps : List TreeParameter) :
    (placedNames ps ++ keywordNames ps).Perm ((ps.filter takesOne).map (·.name)) := by
  unfold placedNames keywordNames
  rw [← List.map_append]
  refine List.Perm.map _ ?_
  have parts := List.filter_append_perm (fun p => p.kind == .positionalOnly || p.kind == .ordinary)
    (ps.filter takesOne)
  rw [List.filter_filter, List.filter_filter] at parts
  have placed : ∀ p : TreeParameter,
      ((p.kind == .positionalOnly || p.kind == .ordinary) && takesOne p) =
        (p.kind == .positionalOnly || p.kind == .ordinary) := by
    intro p
    unfold takesOne
    cases p.kind <;> rfl
  have named : ∀ p : TreeParameter,
      ((!(p.kind == .positionalOnly || p.kind == .ordinary)) && takesOne p) =
        (p.kind == .keywordOnly) := by
    intro p
    unfold takesOne
    cases p.kind <;> rfl
  simp only [placed, named] at parts
  exact parts

/-- The parameters that take one argument have different names, if all have. -/
theorem names_nodup {ps : List TreeParameter} (h : (ps.map (·.name)).Nodup) :
    (placedNames ps ++ keywordNames ps).Nodup :=
  (names_perm ps).nodup_iff.mpr (h.sublist (List.filter_sublist.map _))

theorem keywordNames_mem {ps : List TreeParameter} {n : String} (h : n ∈ keywordNames ps) :
    ∃ p ∈ ps, p.name = n := by
  obtain ⟨p, hp, rfl⟩ := List.mem_map.mp h
  exact ⟨p, (List.mem_filter.mp hp).1, rfl⟩

namespace Callables

/-- The name of a parameter, and whether it is passed by it. -/
def place (p : Hinted) : String × Bool := (p.name, p.keywordOnly)

theorem positional_names (ps : List TreeParameter) :
    (positional (Tree.parameters ps)).map Parameter.name = placedNames ps := by
  rw [parameters_eq]
  unfold positional placedNames
  rw [List.filter_map, List.map_map]
  rfl

theorem keywordOnly_names (ps : List TreeParameter) :
    (keywordOnly (Tree.parameters ps)).map Parameter.name = keywordNames ps := by
  rw [parameters_eq]
  unfold keywordOnly keywordNames
  rw [List.filter_map, List.map_map]
  rfl

theorem functionParameters_places (ps : List TreeParameter) :
    (functionParameters (Tree.parameters ps)).map place =
      (placedNames ps).map (·, false) ++ (keywordNames ps).map (·, true) := by
  unfold functionParameters
  rw [← positional_names, ← keywordOnly_names, List.map_append]
  simp only [List.map_map]
  rfl

theorem lambdaParameters_places (hints : List Expr) (ps : List TreeParameter) :
    (lambdaParameters hints (Tree.parameters ps)).map place =
      (placedNames ps).map (·, false) ++ (keywordNames ps).map (·, true) := by
  have first : ∀ qs : List Parameter, (qs.zipIdx.map fun x =>
      place { name := x.1.name, hint := hints[x.2]? }) = (qs.map Parameter.name).map (·, false) := by
    intro qs
    rw [List.map_map]
    conv => rhs; rw [← List.zipIdx_map_fst 0 qs, List.map_map]
    rfl
  unfold lambdaParameters
  rw [← positional_names, ← keywordOnly_names, List.map_append, ← first]
  simp only [List.map_map]
  rfl

/-- What is declared lists the parameters that take one argument each, those passed by name last. -/
theorem declared_places {lines : LineIndex} {s : Stmt} {d : Declared}
    (h : declared? lines s = some d) : ∃ ps, Declares s d.name ps ∧
      d.parameters.map place =
        (placedNames ps).map (·, false) ++ (keywordNames ps).map (·, true) := by
  obtain ⟨a, start, stop⟩ := s
  dsimp only [declared?, Stmt.action] at h
  split at h
  · cases h
    exact ⟨_, .function, functionParameters_places _⟩
  · cases h
    exact ⟨_, .lambda, lambdaParameters_places _ _⟩
  · cases h
    exact ⟨_, .hinted, lambdaParameters_places _ _⟩
  · cases h

end Callables

namespace Declares

variable {s : Stmt} {name : String} {ps : List TreeParameter}

/-- The parameters of a sound statement have names. -/
theorem sound (h : Declares s name ps) (hs : s.Sound AnyText) :
    IsName name ∧ Parameter.AllSound AnyText (Tree.parameters ps) ∧ InOrder ps := by
  cases h with
  | function => exact ⟨hs.1, allSound_parameters hs.2.1, hs.2.2⟩
  | lambda => exact ⟨hs.1 _ (.head _), hs.2.1, inOrder_parameters.mp hs.2.2⟩
  | hinted => exact ⟨hs.1, (hs.2.2 _ rfl).1, inOrder_parameters.mp (hs.2.2 _ rfl).2⟩

end Declares

/-! ## The variables of parameters -/

/-- The parameters that are passed by place only come first. -/
theorem placedNames_eq {ps : List TreeParameter} (h : InOrder ps) :
    placedNames ps = (ps.filter (·.kind == .positionalOnly)).map (·.name) ++
      (ps.filter (·.kind == .ordinary)).map (·.name) := by
  unfold placedNames
  rw [← List.map_append]
  congr 1
  induction ps with
  | nil => rfl
  | cons p ps ih =>
    obtain ⟨hp, hps⟩ := List.pairwise_cons.mp h
    simp only [List.filter_cons]
    rw [ih hps]
    cases hk : p.kind with
    | ordinary =>
      have none : ps.filter (·.kind == .positionalOnly) = [] := by
        refine List.filter_eq_nil_iff.mpr fun q hq hkind => ?_
        have := hp q hq (eq_of_beq hkind)
        rw [hk] at this
        cases this
      rw [none]
      rfl
    | _ => rfl

variable {c : Machine.Compile.Standing} {ps : List TreeParameter}

/-- Outside of classes, the parameters that are given arguments by place are in the order of the
callable. -/
theorem signature_positional (hc : c.owner = none) (h : InOrder ps) :
    (Machine.Compile.signature c ps).positional = placedNames ps := by
  rw [placedNames_eq h]
  unfold Machine.Compile.signature Machine.Signature.positional Machine.Compile.Standing.mangle
  rw [hc]
  rfl

theorem signature_keywordOnly (hc : c.owner = none) (ps : List TreeParameter) :
    (Machine.Compile.signature c ps).keywordOnly = keywordNames ps := by
  unfold Machine.Compile.signature Machine.Compile.Standing.mangle
  rw [hc]
  rfl

end Exemplar

namespace Exemplar.Syntax

/-! ## Names -/

namespace Names

variable {a a' : Around}

namespace Gathering

theorem lookup_put (name : String) (m : Marks) (names : List (String × Marks)) (n : String) :
    (put name m names).lookup n = if n = name then some m else names.lookup n := by
  induction names with
  | nil =>
    simp only [put, List.lookup_cons, List.lookup_nil]
    split <;> simp_all
  | cons e r ih =>
    obtain ⟨k, v⟩ := e
    unfold put
    split
    · rename_i hk
      obtain rfl := eq_of_beq hk
      simp only [List.lookup_cons]
      split <;> simp_all
    · rename_i hk
      simp only [List.lookup_cons, ih]
      split <;> simp_all

/-- A parameter that is added was none before, and is one now. -/
theorem add_parameter {g g' : Gathering} {key written : String} {line : Nat}
    (h : g.add key written line { isParameter := true } = .ok g') :
    (g.marks key).isParameter = false ∧ g'.owner = g.owner ∧
      ∀ k, (g'.marks k).isParameter = true ↔ k = key ∨ (g.marks k).isParameter = true := by
  unfold add at h
  dsimp only at h
  split at h
  · cases h
  · rename_i hnew
    split at h
    · cases h
    · cases h
      refine ⟨by simpa using hnew, rfl, fun k => ?_⟩
      unfold marks
      rw [lookup_put]
      split <;> simp_all [Marks.or]

end Gathering

/-- What is changed of the scopes is the current one. -/
theorem Around.current_modify {f : Gathering → Except SyntaxFault Gathering}
    (h : a.modify f = .ok a') : f a.current = .ok a'.current := by
  obtain ⟨inner, file, lazyHints⟩ := a
  cases inner with
  | nil =>
    change (f file).map _ = .ok a' at h
    show f file = _
    cases hf : f file with
    | error e => rw [hf] at h; cases h
    | ok g => rw [hf] at h; cases h; rfl
  | cons g r =>
    change (f g).map _ = .ok a' at h
    show f g = _
    cases hf : f g with
    | error e => rw [hf] at h; cases h
    | ok g => rw [hf] at h; cases h; rfl

/-- The names of parameters that the current scope has, as the class around it marks them. -/
def isTaken (a : Around) (name : String) : Prop :=
  (a.current.marks (privateName a.current.owner name)).isParameter = true

theorem step_parameter {n : String} {l : Nat} (h : step a (.parameter n l) = .ok a') :
    ¬isTaken a n ∧ isTaken a' n ∧ ∀ m, isTaken a m → isTaken a' m := by
  obtain ⟨b, hb, heq⟩ := bind_eq_ok.mp h
  cases heq
  obtain ⟨hnew, howner, hmarks⟩ := Gathering.add_parameter (Around.current_modify hb)
  unfold isTaken
  rw [hnew]
  refine ⟨Bool.false_ne_true, ?_, fun m hm => ?_⟩
  · rw [howner]
    exact (hmarks _).mpr (.inl rfl)
  · rw [howner]
    exact (hmarks _).mpr (.inr hm)

/-- The parameters of a scope have different names. -/
theorem parameters_nodup {ps : List TreeParameter} :
    ∀ {a}, (ps.map fun p => Mention.parameter p.name p.line).foldlM step a = .ok a' →
      (ps.map (·.name)).Nodup ∧ ∀ p ∈ ps, ¬isTaken a p.name := by
  induction ps with
  | nil => exact fun _ => ⟨.nil, nofun⟩
  | cons p ps ih =>
    intro a h
    rw [List.map_cons, List.foldlM_cons, bind_eq_ok] at h
    obtain ⟨b, hp, hps⟩ := h
    obtain ⟨hnew, hown, hkeep⟩ := step_parameter hp
    obtain ⟨hnodup, htaken⟩ := ih hps
    refine ⟨List.nodup_cons.mpr ⟨fun hmem => ?_, hnodup⟩,
      List.forall_mem_cons.mpr ⟨hnew, fun q hq hq' => htaken q hq (hkeep _ hq')⟩⟩
    obtain ⟨q, hq, heq⟩ := List.mem_map.mp hmem
    exact htaken q hq (heq ▸ hown)

end Names

/-- The mentions of parameters, those that take what is left last. -/
theorem mention_parameters_nodup {ps : List TreeParameter} {a a' : Names.Around}
    (h : (Mention.parameters ps).foldlM Names.step a = .ok a') : (ps.map (·.name)).Nodup := by
  obtain ⟨hnodup, -⟩ := Names.parameters_nodup h
  refine (List.Perm.map _ ?_).nodup_iff.mp hnodup
  exact (List.perm_append_comm.trans (List.filter_append_perm _ ps))

theorem mention_stmt_within {body : List Stmt} {s : Stmt} (hs : s ∈ body) :
    Mention.stmt s <:+: Mention.stmts body := by
  induction body with
  | nil => cases hs
  | cons t body ih =>
    rw [Mention.stmts]
    rcases List.mem_cons.mp hs with rfl | hs
    · exact (List.prefix_append _ _).isInfix
    · exact (ih hs).trans (List.suffix_append _ _).isInfix

theorem mention_lambda_within (l : Nat) (ps : List TreeParameter) (body : Tree) :
    Mention.parameters ps <:+: Mention.tree (.mk l (.lambda ps body)) := by
  rw [Mention.tree, Mention.form]
  exact ⟨Mention.defaults false ps ++ Mention.defaults true ps ++ [.enter .lambda "lambda"],
    Mention.tree body ++ [.leave], by simp⟩

/-- The parameters of a declaration are mentioned one after another. -/
theorem mention_parameters_within {s : Stmt} {name : String} {ps : List TreeParameter}
    (h : Declares s name ps) : Mention.parameters ps <:+: Mention.stmt s := by
  cases h with
  | function =>
    rw [Mention.stmt, Mention.action]
    refine .trans ?_ (List.prefix_append _ [Mention.leave]).isInfix
    refine .trans ?_ (List.prefix_append _ (Mention.stmts _)).isInfix
    exact ((List.suffix_cons _ _).trans (List.suffix_append _ _)).isInfix
  | lambda =>
    rw [Mention.stmt, Mention.action]
    exact (mention_lambda_within _ _ _).trans (List.suffix_append _ _).isInfix
  | hinted =>
    rw [Mention.stmt, Mention.action, Mention.option]
    exact (mention_lambda_within _ _ _).trans (List.suffix_append _ _).isInfix

/-! ## Places -/

namespace Placement

/-- Sites that are accepted hold no fault. -/
theorem no_fault_of_sites {again : Look} {a : Around} {ss : List Site}
    (h : sites again a ss = .ok ()) : ∀ f, Site.fault f ∉ ss := by
  induction ss with
  | nil => exact nofun
  | cons s ss ih =>
    rw [sites, bind_eq_ok] at h
    obtain ⟨_, hs, hss⟩ := h
    intro f hf
    rcases List.mem_cons.mp hf with rfl | hf
    · rw [site] at hs
      cases hs
    · exact ih hss f hf

theorem no_fault_of_checkSites {future : Option Nat} {ss : List Site}
    (h : checkSites future ss = .ok ()) : ∀ f, Site.fault f ∉ ss :=
  no_fault_of_sites h

end Placement

theorem fault_of_debugName {name : String} (h : name = debugName) (line : Nat) :
    ∃ f, Site.fault f ∈ Site.bindable name line := by
  unfold Site.bindable Site.faultIf
  rw [if_pos (beq_iff_eq.mpr h)]
  exact ⟨_, .head _⟩

theorem site_stmt_mem {lazyHints : Bool} {body : List Stmt} {s : Stmt} (hs : s ∈ body) {x : Site}
    (hx : x ∈ Site.stmt lazyHints s) : x ∈ Site.stmts lazyHints body := by
  induction body with
  | nil => cases hs
  | cons t body ih =>
    rw [Site.stmts]
    rcases List.mem_cons.mp hs with rfl | hs
    · exact List.mem_append_left _ hx
    · exact List.mem_append_right _ (ih hs)

/-- The names of the parameters of a declaration are bound where the declaration stands. -/
theorem site_parameter_mem (lazyHints : Bool) {s : Stmt} {name : String}
    {ps : List TreeParameter} (h : Declares s name ps) : ∃ line,
      ∀ p ∈ ps, ∀ x ∈ Site.bindable p.name line, x ∈ Site.stmt lazyHints s := by
  have faults : ∀ line, ∀ p ∈ ps, ∀ x ∈ Site.bindable p.name line,
      x ∈ Site.parameterFaults line ps :=
    fun line p hp x hx => List.mem_flatMap.mpr ⟨p, hp, hx⟩
  cases h with
  | @function isAsync name ps returns decorators body start stop =>
    refine ⟨start.line, fun p hp x hx => ?_⟩
    rw [Site.stmt, Site.action]
    simp only [List.append_assoc, List.mem_append]
    exact .inl (faults start.line p hp x hx)
  | @lambda name ps body start stop l l' =>
    refine ⟨l', fun p hp x hx => ?_⟩
    rw [Site.stmt, Site.action, Site.tree, Site.form]
    simp only [List.append_assoc, List.mem_append]
    exact .inl (faults l' p hp x hx)
  | @hinted name ps body hint simple start stop l l' =>
    refine ⟨l', fun p hp x hx => ?_⟩
    rw [Site.stmt, Site.action]
    simp only [Site.tree, Site.form, List.append_assoc, List.mem_append]
    exact .inl (faults l' p hp x hx)

/-! ## Accepted texts -/

/-- The statements that are accepted keep the rules about names and those about places. -/
theorem kept_of_accepted {body : List Stmt} (h : scopeFault? body = none) :
    ∃ lazyHints future, Names.checkMentions lazyHints (Mention.stmts body) = .ok () ∧
      Placement.checkSites future (Site.stmts lazyHints body) = .ok () := by
  unfold scopeFault? faultOf? at h
  split at h
  · rename_i hok
    obtain ⟨future, -, hok⟩ := bind_eq_ok.mp hok
    obtain ⟨_, hnames, hsites⟩ := bind_eq_ok.mp hok
    exact ⟨_, future, hnames, hsites⟩
  · cases h

/-- The parameters of an accepted declaration have different names, none of which stands for a
constant. -/
theorem parameters_distinct {body : List Stmt} (h : scopeFault? body = none) {s : Stmt}
    (hs : s ∈ body) {name : String} {ps : List TreeParameter} (hd : Declares s name ps) :
    (ps.map (·.name)).Nodup ∧ ∀ p ∈ ps, p.name ≠ debugName := by
  obtain ⟨lazyHints, future, hnames, hsites⟩ := kept_of_accepted h
  constructor
  · obtain ⟨t, htree, -⟩ := bind_eq_ok.mp hnames
    obtain ⟨a, hfold, -⟩ := bind_eq_ok.mp htree
    obtain ⟨b, b', hps⟩ :=
      foldlM_within hfold ((mention_parameters_within hd).trans (mention_stmt_within hs))
    exact mention_parameters_nodup hps
  · intro p hp hdebug
    obtain ⟨line, hmem⟩ := site_parameter_mem lazyHints hd
    obtain ⟨f, hf⟩ := fault_of_debugName hdebug line
    exact Placement.no_fault_of_checkSites hsites f (site_stmt_mem hs (hmem p hp _ hf))

end Exemplar.Syntax
