import Exemplar.Machine.Arguments
import Exemplar.Proofs.Call.Text
import Exemplar.Proofs.Exec
import Exemplar.Proofs.Literal.Argument
import Exemplar.Proofs.Literal.Value
import Exemplar.Proofs.Scope
import Exemplar.Proofs.Session
import Exemplar.Proofs.Synthesis

/-
  Giving a call its arguments. If as many arguments stand by place as parameters take them, and
  those by name are named as the parameters that are passed so, then each parameter is given one
  argument, in order, nothing is left over and no default is used (`give_exact`).

  Calls that are built. The callables of an accepted file have names, and parameters of different
  names whose shapes list no improper scalar; so whatever draws a call of one of them is built with,
  its text is read as a call that gives every parameter one argument (`build_fits`).
-/

namespace Exemplar.Machine.Arguments

/-- Parameters of which the first have been given values and so many others have not. -/
def filled (vs : List Value) (lacking : Nat) : Given :=
  { values := (vs.map some ++ List.replicate lacking none).toArray }

variable {vs : List Value} {lacking : Nat}

theorem filled_zero : filled vs 0 = { values := (vs.map some).toArray } := by
  rw [filled, List.replicate_zero, List.append_nil]

theorem filled_has (i : Nat) : (filled vs lacking).has i = decide (i < vs.length) := by
  unfold filled Given.has
  rw [Array.getD_eq_getD_getElem?, List.getElem?_toArray]
  by_cases hi : i < vs.length
  · rw [decide_eq_true hi, List.getElem?_append_left (by rwa [List.length_map])]
    simp [hi]
  · rw [decide_eq_false hi, List.getElem?_append_right (by rw [List.length_map]; omega),
      List.getElem?_replicate]
    split <;> rfl

theorem filled_set (v : Value) :
    (filled vs (lacking + 1)).values.setIfInBounds vs.length (some v) =
      (filled (vs ++ [v]) lacking).values := by
  unfold filled
  rw [List.setIfInBounds_toArray, List.set_append_right _ _ (Nat.le_of_eq (List.length_map _))]
  simp [List.replicate_succ]

theorem unset_filled {first count : Nat} (h : first + count ≤ vs.length) :
    unset (filled vs lacking) first count = [] := by
  refine List.filter_eq_nil_iff.mpr fun i hi => ?_
  obtain ⟨j, hj, rfl⟩ := List.mem_map.mp hi
  have hj := List.mem_range.mp hj
  rw [filled_has, decide_eq_true (by omega)]
  decide

/-- The place of a name behind names among which it is not. -/
theorem idxOf?_middle {before : List String} {n : String} (h : n ∉ before) (after : List String) :
    (before ++ n :: after).idxOf? n = some before.length := by
  induction before with
  | nil => simp [List.idxOf?_cons]
  | cons b before ih =>
    obtain ⟨hb, hbefore⟩ := not_or.mp (mt List.mem_cons.mpr h)
    rw [List.cons_append, List.idxOf?_cons, if_neg (by simpa using Ne.symm hb), ih hbefore]
    rfl

variable {s : Signature} {args : List Value}

/-- Giving the rest of the arguments by name, when those before them are given. -/
theorem giveNamed_rest (function : String) (all : Fields)
    (hargs : args.length = s.positional.length)
    (hnodup : (s.positional ++ s.keywordOnly).Nodup) (rest : Fields) :
    ∀ before : Fields, s.keywordOnly = before.map Prod.fst ++ rest.map Prod.fst →
      giveNamed function s (s.positional ++ s.keywordOnly) all
          (filled (args ++ before.map Prod.snd) rest.length) rest =
        .ok (filled (args ++ (before ++ rest).map Prod.snd) 0) := by
  induction rest with
  | nil =>
    intro before _
    rw [List.append_nil]
    rfl
  | cons e rest ih =>
    obtain ⟨n, v⟩ := e
    intro before hk
    have hplace : ((s.positional ++ s.keywordOnly).drop s.positionalOnly.length).idxOf? n =
        some (s.ordinary.length + before.length) := by
      rw [hk, Signature.positional, List.map_cons] at hnodup ⊢
      have hall : (s.positionalOnly ++ (s.ordinary ++ before.map Prod.fst) ++
          n :: rest.map Prod.fst).Nodup := by simpa only [List.append_assoc] using hnodup
      have hnew : n ∉ s.ordinary ++ before.map Prod.fst := fun hmem =>
        (List.nodup_append.mp hall).2.2 n (List.mem_append_right _ hmem) n (.head _) rfl
      have hmiddle := idxOf?_middle hnew (rest.map Prod.fst)
      rw [List.length_append, List.length_map, List.append_assoc] at hmiddle
      rw [List.append_assoc, List.drop_left]
      exact hmiddle
    have hindex : s.positionalOnly.length + (s.ordinary.length + before.length) =
        (args ++ before.map Prod.snd).length := by
      rw [List.length_append, List.length_map, hargs, Signature.positional, List.length_append]
      omega
    have next := ih (before ++ [(n, v)]) (by rw [hk]; simp)
    rw [giveNamed, hplace]
    dsimp only
    rw [hindex, filled_has, decide_eq_false (Nat.lt_irrefl _), List.length_cons, filled_set]
    simp only [List.append_assoc, List.map_append, List.map_cons, List.map_nil] at next ⊢
    exact next

/-- The arguments by place are given to the first parameters. -/
theorem start_eq (hargs : args.length = s.positional.length) :
    ({ values := ((args.take s.positional.length).map some).toArray ++
          Array.replicate (s.positional.length + s.keywordOnly.length -
            min s.positional.length args.length) none
       places := args.drop s.positional.length } : Given) = filled args s.keywordOnly.length := by
  have hlacking : s.positional.length + s.keywordOnly.length -
      min s.positional.length args.length = s.keywordOnly.length := by omega
  rw [hlacking, ← hargs, List.take_length, List.drop_length, filled, ← List.toArray_replicate,
    List.append_toArray]

/-- All parameters that take one argument are given theirs, and nothing is left over. -/
theorem give_exact (f : Function) {named : Fields}
    (hargs : args.length = f.code.signature.positional.length)
    (hnamed : named.map Prod.fst = f.code.signature.keywordOnly)
    (hnodup : (f.code.signature.positional ++ f.code.signature.keywordOnly).Nodup) :
    give f args named = .ok { values := ((args ++ named.map Prod.snd).map some).toArray } := by
  unfold give
  extract_lets s function positional count given total start needed nameAt defaults goOn
  have hgiven : given = count := hargs
  have hlen : (args ++ named.map Prod.snd).length = count + s.keywordOnly.length := by
    rw [List.length_append, List.length_map, hargs, ← hnamed, List.length_map]
  have hunset : ∀ first n, first + n ≤ count + s.keywordOnly.length →
      unset (filled (args ++ named.map Prod.snd) 0) first n = [] :=
    fun first n h => unset_filled (by rw [hlen]; exact h)
  -- With every parameter given, neither defaults nor messages come into play.
  have hgo : goOn (filled (args ++ named.map Prod.snd) 0) =
      .ok (filled (args ++ named.map Prod.snd) 0) := by
    have hmany : decide (count < given) = false := decide_eq_false (by omega)
    have hneeded : needed ≤ count := Nat.sub_le _ _
    simp only [goOn, hmany, hunset 0 needed (by omega), hunset needed (count - needed) (by omega),
      hunset count s.keywordOnly.length (Nat.le_refl _), List.foldl_nil]
    rfl
  have hstart : start = filled args s.keywordOnly.length := start_eq hargs
  have hrest : giveNamed function s (positional ++ s.keywordOnly) named (filled args named.length)
      named = .ok (filled (args ++ named.map Prod.snd) 0) := by
    have rest := giveNamed_rest function named hargs hnodup named [] hnamed.symm
    rwa [List.map_nil, List.append_nil] at rest
  have hlacking : named.length = s.keywordOnly.length := by rw [← hnamed, List.length_map]
  rw [hstart, ← hlacking, ← filled_zero]
  split
  · rename_i hempty
    obtain rfl := List.isEmpty_iff.mp hempty
    rw [List.map_nil, List.append_nil] at hgo ⊢
    exact hgo
  · rw [hrest]
    exact hgo

end Exemplar.Machine.Arguments

namespace Exemplar

open Syntax Syntax.Parser

/-! ## Callables of accepted files -/

namespace Callables

variable {body : List Stmt} {lines : LineIndex} {s : Stmt} {d : Declared}

/-- The parameters of a callable have names, and shapes of proper scalars. -/
theorem callable_parameters (h : ∀ s ∈ body, s.Sound AnyText) (hs : s ∈ body)
    (hd : declared? lines s = some d) :
    ∀ p ∈ (d.callable (.ofStmts body)).parameters, IsName p.name ∧ p.shape.Proper := by
  obtain ⟨-, hps⟩ := declared_sound (h s hs) hd
  refine List.forall_mem_map.mpr fun p hp => ⟨(hps p hp).name, ?_⟩
  exact Hinted.shape_proper (Declarations.ofStmts_sound h) (hps p hp) d.documentation

theorem callable_places (t : Declarations) :
    (d.callable t).parameters.map (fun p => (p.name, p.keywordOnly)) = d.parameters.map place := by
  unfold Declared.callable
  rw [List.map_map]
  rfl

end Callables

/-! ## Arguments by place and by name -/

namespace Call

variable {args : List (ShapedParameter × Literal)}

/-- The literals that are passed by place. -/
def byPlace (args : List (ShapedParameter × Literal)) : List Literal :=
  (args.filter (!·.1.keywordOnly)).map (·.2)

/-- The literals that are passed by name. -/
def byName (args : List (ShapedParameter × Literal)) : List (String × Literal) :=
  (args.filter (·.1.keywordOnly)).map fun a => (a.1.name, a.2)

theorem expr_eq (name : String) : expr name args = callExpr name (byPlace args) (byName args) := by
  unfold expr callExpr byPlace byName
  rw [List.map_map, List.map_map]
  rfl

/-- Arguments of which those passed by name stand last. -/
theorem arguments_split {P K : List String}
    (h : args.map (fun a => (a.1.name, a.1.keywordOnly)) = P.map (·, false) ++ K.map (·, true)) :
    (byPlace args).length = P.length ∧ (byName args).map Prod.fst = K ∧
      args.map Prod.snd = byPlace args ++ (byName args).map Prod.snd ∧
      args.map (·.1.name) = P ++ K := by
  obtain ⟨as, bs, rfl, ha, hb⟩ := List.map_eq_append_iff.mp h
  have hplace : ∀ a ∈ as, a.1.keywordOnly = false := by
    intro a hmem
    obtain ⟨n, -, heq⟩ := List.mem_map.mp (ha ▸ List.mem_map_of_mem hmem)
    exact (congrArg Prod.snd heq).symm
  have hname : ∀ b ∈ bs, b.1.keywordOnly = true := by
    intro b hmem
    obtain ⟨n, -, heq⟩ := List.mem_map.mp (hb ▸ List.mem_map_of_mem hmem)
    exact (congrArg Prod.snd heq).symm
  have first : (as ++ bs).filter (!·.1.keywordOnly) = as := by
    rw [List.filter_append, List.filter_eq_self.mpr fun a ha => by rw [hplace a ha]; rfl,
      List.filter_eq_nil_iff.mpr fun b hb => by rw [hname b hb]; decide, List.append_nil]
  have last : (as ++ bs).filter (·.1.keywordOnly) = bs := by
    rw [List.filter_append, List.filter_eq_self.mpr hname,
      List.filter_eq_nil_iff.mpr fun a ha => by rw [hplace a ha]; decide, List.nil_append]
  have names : ∀ {cs : List (ShapedParameter × Literal)} {ns : List String} {b : Bool},
      cs.map (fun a => (a.1.name, a.1.keywordOnly)) = ns.map (·, b) → cs.map (·.1.name) = ns := by
    intro cs ns b heq
    have := congrArg (List.map Prod.fst) heq
    rw [List.map_map, List.map_map] at this
    exact this.trans (List.map_id ns)
  unfold byPlace byName
  rw [first, last]
  refine ⟨?_, ?_, ?_, ?_⟩
  · rw [List.length_map, ← names ha, List.length_map]
  · rw [List.map_map]
    exact names hb
  · rw [List.map_append, List.map_map]
    rfl
  · rw [List.map_append, names ha, names hb]

end Call

/-! ## What a built call is -/

/-- A call gives each parameter of a declaration that takes one argument a literal. -/
structure Call.Fits (call : Call) (name : String) (ps : List TreeParameter) : Prop where
  complete : (call.arguments.map Prod.fst).Perm ((ps.filter takesOne).map (·.name))
  distinct : (call.arguments.map Prod.fst).Nodup
  /-- The text is read as a call of the name with the literals of the arguments in order. Whatever
  values these have, a function with the parameters of the declaration binds each variable to the
  value of its own argument, and has nothing left over. -/
  binds : ∃ byPlace byName,
    Worker.readCall call.source = .ok (callTree 1 name byPlace byName) ∧
      call.arguments.map Prod.snd = byPlace ++ byName.map Prod.snd ∧
      ∀ (c : Machine.Compile.Standing) (f : Machine.Function), c.owner = none →
        f.code.signature = Machine.Compile.signature c ps →
          call.arguments.map Prod.fst =
              f.code.signature.positional ++ f.code.signature.keywordOnly ∧
            ∀ vs ws, vs.length = byPlace.length → ws.length = byName.length →
              Machine.Arguments.give f vs ((byName.map Prod.fst).zip ws) =
                .ok { values := ((vs ++ ws).map some).toArray }
  /-- The literals evaluate to the data of the arguments. -/
  values : ∀ a ∈ call.arguments, ∃ d, a.2.toDatum = .ok d ∧ (a.2.tree 1).expr.value = .ok d

/-- A task whose call is read is not answered as one that is not. -/
theorem Worker.perform_reachable {t : Task} {call : Tree} (h : readCall t.call = .ok call)
    (text : String) : (perform t).1 ≠ .answered (.failure .unreachable text) := by
  have answers : ∀ e code s a s', (answer e code call).run s = .ok a s' →
      a ≠ .failure .unreachable text := by
    intro e code s a s' hrun
    obtain ⟨outcome, t, -, hrun⟩ := Machine.Exec.bind_eq_ok.mp hrun
    cases outcome with
    | inl v =>
      obtain ⟨shown, t', -, hrun⟩ := Machine.Exec.bind_eq_ok.mp hrun
      cases hrun
      exact nofun
    | inr shown =>
      cases hrun
      exact nofun
  unfold perform
  rw [h]
  dsimp only
  split
  · exact nofun
  · split
    · exact nofun
    · split
      · rename_i hrun
        intro heq
        exact answers _ _ _ _ _ hrun (Ended.answered.inj heq)
      · exact nofun
      · exact nofun
      · exact nofun

/-! ## Built calls fit -/

theorem Syntax.source_eq_ok {e : Expr} {text : String} (h : source e = .ok text) :
    Unprintable.of? e = none ∧ text = print e := by
  unfold source at h
  split at h
  · cases h
  · cases h
    exact ⟨‹_›, rfl⟩

namespace Call

/-- The arguments of a call whose text can be written can be written themselves. -/
theorem printable_callExpr {name : String} {byPlace : List Literal}
    {byName : List (String × Literal)}
    (h : Unprintable.of? (callExpr name byPlace byName) = none) :
    (∀ l ∈ byPlace, Unprintable.of? l.toExpr = none) ∧
      ∀ a ∈ byName, Unprintable.of? a.2.toExpr = none := by
  unfold callExpr at h
  rw [Unprintable.of?] at h
  obtain ⟨-, hrest⟩ := Literal.none_of_first h
  obtain ⟨hplace, hname⟩ := Literal.none_of_first hrest
  rw [← Literal.toExprs_eq] at hplace
  exact ⟨Literal.printable_items hplace, Literal.printable_keywords hname⟩

variable {number : Int → Prop} {length : Nat → Nat → Prop}
variable {args : List (ShapedParameter × Literal)} {name : String}

/-- Arguments whose text can be written are passable. -/
theorem passable_arguments (hproper : ∀ a ∈ args, IsName a.1.name ∧ a.1.shape.Proper)
    (hconforms : ∀ a ∈ args, Synthesis.Conforms number length a.1.shape 0 a.2)
    (hdepth : ∀ a ∈ args, a.2.depth < 200)
    (hprint : Unprintable.of? (expr name args) = none) :
    (∀ l ∈ byPlace args, Passable l) ∧ ∀ a ∈ byName args, IsName a.1 ∧ Passable a.2 := by
  have passable : ∀ a ∈ args, Unprintable.of? a.2.toExpr = none → Passable a.2 :=
    fun a ha hp => ⟨Literal.writable_of_conforms (hconforms a ha) (hproper a ha).2 hp, hdepth a ha⟩
  rw [expr_eq] at hprint
  obtain ⟨hplace, hname⟩ := printable_callExpr hprint
  constructor
  · intro l hl
    have hp := hplace l hl
    obtain ⟨a, ha, rfl⟩ := List.mem_map.mp hl
    exact passable a (List.mem_of_mem_filter ha) hp
  · intro b hb
    have hp := hname b hb
    obtain ⟨a, ha, rfl⟩ := List.mem_map.mp hb
    have ha := List.mem_of_mem_filter ha
    exact ⟨(hproper a ha).1, passable a ha hp⟩

/-- A call fits a declaration if it has the text of its arguments, and they conform to the
parameters of the declaration that take one argument each. -/
theorem fits_of_conforms {call : Call} {ps : List TreeParameter} (hname : IsName name)
    (horder : InOrder ps) (hnodup : (ps.map (·.name)).Nodup)
    (hdebug : ∀ p ∈ ps, p.name ≠ debugName)
    (hplaces : args.map (fun a => (a.1.name, a.1.keywordOnly)) =
      (placedNames ps).map (·, false) ++ (keywordNames ps).map (·, true))
    (hproper : ∀ a ∈ args, IsName a.1.name ∧ a.1.shape.Proper)
    (hconforms : ∀ a ∈ args, Synthesis.Conforms number length a.1.shape 0 a.2)
    (hdepth : ∀ a ∈ args, a.2.depth < 200)
    (hsource : Syntax.source (expr name args) = .ok call.source)
    (harguments : call.arguments = args.map fun a => (a.1.name, a.2)) : call.Fits name ps := by
  have names := names_nodup hnodup
  obtain ⟨hprint, hcall⟩ := source_eq_ok hsource
  obtain ⟨hplace, hnamed⟩ := passable_arguments hproper hconforms hdepth hprint
  obtain ⟨hlength, hkeys, hliterals, hnames⟩ := arguments_split hplaces
  have first : call.arguments.map Prod.fst = placedNames ps ++ keywordNames ps := by
    rw [harguments, List.map_map, ← hnames]
    rfl
  constructor
  · rw [first]
    exact names_perm ps
  · rw [first]
    exact names
  · refine ⟨byPlace args, byName args, ?_, ?_, ?_⟩
    · rw [hcall, expr_eq]
      refine readCall_print hname hplace hnamed ?_ ?_
      · rw [hkeys]
        exact (List.nodup_append.mp names).2.1
      · intro a ha
        obtain ⟨p, hp, heq⟩ := keywordNames_mem (hkeys ▸ List.mem_map_of_mem ha)
        exact heq ▸ hdebug p hp
    · rw [harguments, List.map_map, ← hliterals]
      rfl
    · intro c f hc hf
      have hpositional := signature_positional hc horder
      have hkeyword := signature_keywordOnly hc ps
      rw [← hf] at hpositional hkeyword
      refine ⟨by rw [first, hpositional, hkeyword], fun vs ws hvs hws => ?_⟩
      have hws' : ws.length = ((byName args).map Prod.fst).length := by rw [hws, List.length_map]
      have hfst : (((byName args).map Prod.fst).zip ws).map Prod.fst =
          (byName args).map Prod.fst := List.map_fst_zip (Nat.le_of_eq hws'.symm)
      have hsnd : (((byName args).map Prod.fst).zip ws).map Prod.snd = ws :=
        List.map_snd_zip (Nat.le_of_eq hws')
      rw [Machine.Arguments.give_exact f (by rw [hvs, hlength, hpositional])
        (by rw [hfst, hkeys, hkeyword]) (by rwa [hpositional, hkeyword]), hsnd]
  · rw [harguments]
    refine List.forall_mem_map.mpr fun a ha => ?_
    obtain ⟨d, hd⟩ := Literal.toDatum_of_conforms (hconforms a ha)
    exact ⟨d, hd, (Literal.value_tree 1 a.2 d).mpr hd⟩

/-- The first callable of a file, and its call that is built with the lowest draws. -/
def lowestOfFirst (text : List Char) : Option (Callable × Call) :=
  match Module.parse "" text with
  | .error _ => none
  | .ok m =>
    match Callables.ofFile m.text m.body with
    | .ok (c :: _) =>
      match (build Draws.lowest {} c).run () with
      | (.ok call, _) => some (c, call)
      | _ => none
    | _ => none

theorem exists_of_lowestOfFirst {text : List Char} {c : Callable} {call : Call}
    (h : lowestOfFirst text = some (c, call)) : ∃ m cs, Module.parse "" text = .ok m ∧
      Callables.ofFile m.text m.body = .ok cs ∧ c ∈ cs ∧
      (build Draws.lowest {} c).run () = (.ok call, ()) := by
  unfold lowestOfFirst at h
  split at h
  · cases h
  · split at h
    · split at h
      · cases h
        exact ⟨_, _, ‹_›, ‹_›, .head _, ‹_›⟩
      · cases h
    · cases h

/-- A file with one function, with parameters of all kinds. -/
def manyKinds : List Char := "def f(a, /, b, *c, d, **e): 0\n".toList

set_option maxRecDepth 20000 in
theorem lowestOfFirst_manyKinds :
    (lowestOfFirst manyKinds).map (fun (c, call) => (c.name.toList, call.source.toList,
      call.arguments.all (·.2.depth < 200))) =
        some ("f".toList, "f('', '', d='')".toList, true) := by
  decide +kernel

end Call

end Exemplar
