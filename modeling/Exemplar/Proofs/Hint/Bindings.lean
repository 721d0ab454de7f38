import Exemplar.Proofs.Hint.LookUp

/-
  The table of declarations against the names that a file binds. A class, an assignment, a hint with
  a value, a function and an import bind names; of these only a class, an assignment to one name and
  the synonym of a type declare one (`bound_of_ofStmt`). So a name has the declaration of the last
  statement that binds it, if that statement declares it. If it does not, the name keeps what was
  declared before (`table_of_bindings`): the table is a fold over the statements that declare, which
  takes no notice of the others.
-/

namespace Exemplar

mutual

/-- The names that a target of an assignment binds. -/
def Tree.targetNames : Tree → List String
  | .mk _ f => f.targetNames

def Form.targetNames : Form → List String
  | .name n => [n]
  | .tuple es | .list es => Tree.targetNamesAmong es
  | .starred e => e.targetNames
  | _ => []

def Tree.targetNamesAmong : List Tree → List String
  | [] => []
  | e :: es => e.targetNames ++ Tree.targetNamesAmong es

end

/-- The name that an import binds; a star stands for names that the file does not tell. -/
def Import.bound? (i : Import) : Option String :=
  if i.path == ["*"] then none else some (i.alias?.getD (i.path.headD ""))

/-- The names that a statement binds whenever it runs. -/
def Stmt.bound (s : Stmt) : List String :=
  match s.action with
  | .function _ name _ _ _ _ | .classDef name _ _ _ _ => [name]
  | .assign targets _ => Tree.targetNamesAmong targets
  | .annAssign target _ (some _) _ => target.targetNames
  | .importModules names | .importFrom _ _ names => names.filterMap Import.bound?
  | _ => []

namespace Declaration

/-- A statement that declares a name binds that name alone. -/
theorem bound_of_ofStmt {s : Stmt} {n : String} {d : Declaration} (h : ofStmt? s = some (n, d)) :
    s.bound = [n] := by
  unfold ofStmt? at h
  unfold Stmt.bound
  split at h
  · rename_i heq
    rw [heq]
    split at h <;> cases h <;> rfl
  · rename_i heq
    rw [heq]
    split at h <;> cases h <;> rfl
  · rename_i heq
    rw [heq]
    split at h <;> cases h
    rfl
  · cases h

theorem ofStmt_ne {s : Stmt} {n : String} (h : n ∉ s.bound) (d : Declaration) :
    ofStmt? s ≠ some (n, d) := fun hd => by
  rw [bound_of_ofStmt hd] at h
  exact h List.mem_cons_self

end Declaration

namespace Declarations

open Declaration (ofStmt?)

variable {body before after : List Stmt} {s : Stmt} {n : String} {d : Declaration}

/-! ## One more statement -/

theorem ofStmts_concat_some (h : ofStmt? s = some (n, d)) :
    ofStmts (body ++ [s]) = (ofStmts body).put n d := by
  unfold ofStmts
  rw [List.filterMap_append, List.foldl_append, List.filterMap_cons_some h]
  rfl

theorem ofStmts_concat_none (h : ofStmt? s = none) : ofStmts (body ++ [s]) = ofStmts body := by
  unfold ofStmts
  rw [List.filterMap_append, List.filterMap_cons_none h, List.filterMap_nil, List.append_nil]

theorem names_putEntry (n : String) (d : Declaration) (es : List (String × Declaration)) :
    (putEntry n d es).map (·.1) =
      if n ∈ es.map (·.1) then es.map (·.1) else es.map (·.1) ++ [n] := by
  induction es with
  | nil => rfl
  | cons e es ih =>
    unfold putEntry
    by_cases he : e.1 = n
    · rw [if_pos (beq_iff_eq.mpr he)]
      simp [he]
    · rw [if_neg (mt beq_iff_eq.mp he), List.map_cons, ih]
      by_cases hmem : n ∈ es.map (·.1)
      · rw [if_pos hmem, List.map_cons, if_pos (List.mem_cons_of_mem _ hmem)]
      · have hne : n ∉ e.1 :: es.map (·.1) := by simp [Ne.symm he, hmem]
        rw [if_neg hmem, List.map_cons, if_neg hne, List.cons_append]

/-- A name that is declared again keeps its place. -/
theorem names_put (t : Declarations) (n : String) (d : Declaration) :
    (t.put n d).names = if n ∈ t.names then t.names else t.names ++ [n] :=
  names_putEntry n d t.entries

/-! ## All statements -/

theorem eraseDups_concat (l : List String) (n : String) :
    (l ++ [n]).eraseDups = if n ∈ l then l.eraseDups else l.eraseDups ++ [n] := by
  rw [List.eraseDups_append]
  by_cases hmem : n ∈ l
  · rw [if_pos hmem]
    simp [List.removeAll, hmem]
  · rw [if_neg hmem]
    simp [List.removeAll, hmem, List.eraseDups_cons]

/-- The names of a table are in the order in which they are declared first. -/
theorem names_ofStmts (body : List Stmt) :
    (ofStmts body).names = ((body.filterMap ofStmt?).map (·.1)).eraseDups := by
  induction body using List.reverseRecOn with
  | nil => rfl
  | append_singleton body s ih =>
    cases h : ofStmt? s with
    | none =>
      rw [ofStmts_concat_none h, ih, List.filterMap_append, List.filterMap_cons_none h,
        List.filterMap_nil, List.append_nil]
    | some e =>
      rw [ofStmts_concat_some h, names_put, ih, List.filterMap_append, List.filterMap_cons_some h,
        List.filterMap_nil, List.map_append, List.map_singleton, eraseDups_concat]
      simp only [List.mem_eraseDups]

/-- What statements behind the last one that binds a name say does not matter to the name. -/
theorem get_ofStmts_of_last (hafter : ∀ s' ∈ after, n ∉ s'.bound) :
    (ofStmts (before ++ s :: after)).get? n = (ofStmts (before ++ [s])).get? n := by
  have hbetween : (ofStmts (before ++ [s] ++ after ++ [])).get? n =
      (ofStmts (before ++ [s] ++ [])).get? n :=
    get_ofStmts_between fun s' hs' => Declaration.ofStmt_ne (hafter s' hs')
  simpa using hbetween

theorem get_ofStmts_eq_none : (ofStmts body).get? n = none ↔
    ∀ s ∈ body, ∀ d, ofStmt? s ≠ some (n, d) := by
  rw [get_ofStmts, List.lookup_eq_none_iff]
  constructor
  · rintro h s hs d heq
    have hmem : (n, d) ∈ body.filterMap ofStmt? := List.mem_filterMap.mpr ⟨s, hs, heq⟩
    exact absurd (h _ (List.mem_reverse.mpr hmem)) (by simp)
  · intro h e he
    obtain ⟨s, hs, heq⟩ := List.mem_filterMap.mp (List.mem_reverse.mp he)
    refine bne_iff_ne.mpr ?_
    rintro rfl
    exact h s hs e.2 heq

/-- A name that no statement binds has no declaration. Any other has the declaration that the last
statement makes that binds it; if that declares nothing, it has the one that was made before, and
none if none was. Names stand in the order in which they are declared first. -/
theorem table_of_bindings (body : List Stmt) :
    (∀ n, (∀ s ∈ body, n ∉ s.bound) → (ofStmts body).get? n = none) ∧
      (∀ before s after n, body = before ++ s :: after → n ∈ s.bound →
        (∀ s' ∈ after, n ∉ s'.bound) →
          (∀ m d, ofStmt? s = some (m, d) → m = n ∧ (ofStmts body).get? n = some d) ∧
          (ofStmt? s = none → (ofStmts body).get? n = (ofStmts before).get? n ∧
            ((ofStmts body).get? n = none ↔ ∀ s' ∈ before, ∀ d, ofStmt? s' ≠ some (n, d)))) ∧
      (ofStmts body).names = ((body.filterMap ofStmt?).map (·.1)).eraseDups := by
  refine ⟨fun n h => ?_, ?_, names_ofStmts body⟩
  · exact get_ofStmts_eq_none.mpr fun s hs => Declaration.ofStmt_ne (h s hs)
  · rintro before s after n rfl hs hafter
    rw [get_ofStmts_of_last hafter]
    refine ⟨fun m d hd => ?_, fun hnone => ?_⟩
    · rw [Declaration.bound_of_ofStmt hd, List.mem_singleton] at hs
      subst hs
      rw [ofStmts_concat_some hd, get_put]
      exact ⟨rfl, if_pos rfl⟩
    · rw [ofStmts_concat_none hnone]
      exact ⟨rfl, get_ofStmts_eq_none⟩

/-- The statement that defines a function without parameters, which does nothing. -/
def emptyFunction (name : String) : Stmt :=
  .mk (.function false name [] none [] [.mk .pass default default]) default default

/-- A name that is given to a type and then to a function still stands for the type. -/
theorem table_of_bindings_stale :
    (ofStmts [nameType "X" (.mk 0 (.name "int")), emptyFunction "X"]).get? "X" =
      some (.synonym (.name "int")) := by
  obtain ⟨-, hlast, -⟩ := table_of_bindings [nameType "X" (.mk 0 (.name "int")), emptyFunction "X"]
  obtain ⟨-, hnone⟩ := hlast [nameType "X" (.mk 0 (.name "int"))] (emptyFunction "X") [] "X" rfl
    (by decide) nofun
  rw [(hnone rfl).1]
  rfl

end Declarations

end Exemplar
