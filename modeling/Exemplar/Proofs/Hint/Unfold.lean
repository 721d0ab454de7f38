import Exemplar.Proofs.LineIndex
import Exemplar.Proofs.Parser.SoundStmt
import Exemplar.Hint

/-
  One level of a hint. `step` says what a hint stands for, given what the hints inside it, the names
  that the file declares and the hints in quotes stand for; the shapes of hints are what it makes of
  themselves (`shapeWith_step`). Of the arguments in brackets, a form reads some (`Form.reads`), and
  a level needs the shapes of those alone (`step_reads`). The hints inside a hint are smaller than
  it, and a hint in quotes quotes only shorter texts than its own (`parseQuoted_bound`), so that
  more levels of quotes than a text has characters change nothing (`quotedShape_levels`).
-/

namespace Exemplar.Hint

/-- The hints inside a hint whose shapes its own can need. -/
def parts : Expr → List Expr
  | .subscript _ index => arguments index
  | .binary left .bitOr right => [left, right]
  | _ => []

/-- The name that stands alone or in front of brackets. -/
def headName? : Expr → Option String
  | .name n => some n
  | .subscript (.name n) _ => some n
  | _ => none

/-- The shape of a form with a list of arguments, given the shapes of those. -/
def argumentStep (self : Expr → HintM Shape) (form : Form) : List Expr → HintM Shape
  | [] => pure (if form == .tuple then .tuple [] else .unknown)
  | e :: es =>
    match form with
    | .optional => do return .unite [← self e, .none]
    | .union => do return .unite (← (e :: es).mapM self)
    | .choice => pure (choiceShape (e :: es))
    | .wrapper => self e
    | .sequence => do return .list (← self e)
    | .tuple =>
      match e, es with
      | e, [.const .ellipsis] => do return .list (← self e)
      | .tuple [], [] => pure (.tuple [])
      | e, es => do return .tuple (← (e :: es).mapM self)
    | .mapping =>
      match es with
      | [v] => do return .mapping (← self e) (← self v)
      | _ => pure (.mapping .unknown .unknown)
    | .other => pure .unknown

/-- The shape of a hint in quotes, given those of hints. -/
def stepQuoted (self : Expr → HintM Shape) (s : String) : HintM Shape := do
  match ← parseQuoted s with
  | none => pure .unknown
  | some e => self e

/-- The shape of a hint, given those of the hints inside it, of declared names and of hints in
quotes. -/
def step (self : Expr → HintM Shape) (ref : String → Option (HintM Shape))
    (quoted : String → HintM Shape) : Expr → HintM Shape
  | .const .none => pure .none
  | .const (.str s _) => quoted s
  | .name n => (ref n).getD (pure (bareShape n))
  | .attribute _ attr => pure (bareShape attr)
  | .subscript head index =>
    match head.tailName? with
    | none => pure .unknown
    | some name =>
      let declared := match head with
        | .name n => ref n
        | _ => none
      match declared with
      | some s => s
      | none => argumentStep self (Form.ofName name) (arguments index)
  | .binary left .bitOr right => do return .unite [← self left, ← self right]
  | _ => pure .unknown

/-- The arguments whose shapes that of a form is made of. -/
def Form.reads (form : Form) : List Expr → List Expr
  | [] => []
  | e :: es =>
    match form with
    | .optional | .wrapper | .sequence => [e]
    | .union => e :: es
    | .tuple =>
      match e, es with
      | e, [.const .ellipsis] => [e]
      | .tuple [], [] => []
      | e, es => e :: es
    | .mapping =>
      match es with
      | [v] => [e, v]
      | _ => []
    | .choice | .other => []

/-- The shape of a form with arguments, given the shapes of those that it reads. -/
def Form.build (form : Form) : List Expr → List Shape → Shape
  | [], _ => if form == .tuple then .tuple [] else .unknown
  | e :: es, ss =>
    match form with
    | .optional => .unite (ss ++ [.none])
    | .union => .unite ss
    | .choice => choiceShape (e :: es)
    | .wrapper => ss.headD .unknown
    | .sequence => .list (ss.headD .unknown)
    | .tuple =>
      match es with
      | [.const .ellipsis] => .list (ss.headD .unknown)
      | _ => .tuple ss
    | .mapping =>
      match ss with
      | [k, v] => .mapping k v
      | _ => .mapping .unknown .unknown
    | .other => .unknown

/-- `e'` is a hint inside of `e` whose shape that of `e` is made of, where some names are declared:
what stands in brackets after a declared name is not read. -/
inductive Reads (declared : String → Prop) : Expr → Expr → Prop
  | left {l r} : Reads declared (.binary l .bitOr r) l
  | right {l r} : Reads declared (.binary l .bitOr r) r
  | argument {head index name e} (hname : head.tailName? = some name)
    (hu : ∀ n ∈ headName? (.subscript head index), ¬declared n)
    (he : e ∈ (Form.ofName name).reads (arguments index)) :
    Reads declared (.subscript head index) e

section Step

variable {ref ref' : String → Option (HintM Shape)} {quoted quoted' : String → HintM Shape}
  {self self' : Expr → HintM Shape}

/-! ## The shapes of hints are what a level makes of them -/

theorem shapesWith_mapM (es : List Expr) :
    shapesWith ref quoted es = es.mapM (shapeWith ref quoted) := by
  induction es with
  | nil => rw [shapesWith, List.mapM_nil]
  | cons e es ih => rw [shapesWith, ih, List.mapM_cons]

theorem argumentShape_step (form : Form) (es : List Expr) :
    argumentShape ref quoted form es = argumentStep (shapeWith ref quoted) form es := by
  cases es with
  | nil => rw [argumentShape, argumentStep]
  | cons e es =>
    unfold argumentShape argumentStep
    -- What is left, if anything, is two matches that are the same but in name.
    simp only [shapesWith_mapM, List.mapM_cons, bind_assoc, pure_bind] <;> rfl

theorem indexShape_step (form : Form) (index : Expr) :
    indexShape ref quoted form index =
      argumentStep (shapeWith ref quoted) form (arguments index) := by
  unfold indexShape arguments
  split
  · exact argumentShape_step form _
  · rename_i hindex
    unfold argumentStep
    simp only [List.mapM_cons, List.mapM_nil, bind_assoc, pure_bind]
    cases form with
    | tuple =>
      dsimp only
      split
      · rename_i heq
        cases heq
      · exact absurd rfl (hindex [])
      · rfl
    | _ => rfl

theorem shapeWith_step (e : Expr) :
    shapeWith ref quoted e = step (shapeWith ref quoted) ref quoted e := by
  rw [shapeWith.eq_def, step.eq_def]
  simp only [indexShape_step] <;> rfl

/-! ## What a level needs -/

theorem mapM_congr {α β : Type} {f g : α → HintM β} {as : List α} (h : ∀ a ∈ as, f a = g a) :
    as.mapM f = as.mapM g := by
  induction as with
  | nil => rfl
  | cons a as ih =>
    obtain ⟨ha, has⟩ := List.forall_mem_cons.mp h
    rw [List.mapM_cons, List.mapM_cons, ha, ih has]

theorem argumentStep_build (form : Form) (es : List Expr) :
    argumentStep self form es = form.build es <$> (form.reads es).mapM self := by
  unfold argumentStep Form.reads Form.build
  cases es with
  | nil => rfl
  | cons e es =>
    cases form with
    | tuple =>
      dsimp only
      split
      · simp only [List.mapM_cons, List.mapM_nil, map_bind, pure_bind, map_pure]; rfl
      · rfl
      · simp
    | mapping =>
      dsimp only
      split
      · simp
      · simp
    | _ => simp

theorem Form.reads_subset (form : Form) (es : List Expr) : form.reads es ⊆ es := by
  cases es with
  | nil => exact List.Subset.refl _
  | cons e es =>
    have first : [e] ⊆ e :: es := List.cons_subset_cons e (List.nil_subset es)
    cases form with
    | optional | wrapper | sequence => exact first
    | union => exact List.Subset.refl _
    | tuple =>
      unfold Form.reads
      dsimp only
      split
      · exact first
      · exact List.nil_subset _
      · exact List.Subset.refl _
    | mapping =>
      unfold Form.reads
      dsimp only
      split
      · exact List.Subset.refl _
      · exact List.nil_subset _
    | choice | other => exact List.nil_subset _

theorem Reads.mem_parts {declared : String → Prop} {e e' : Expr} (h : Reads declared e e') :
    e' ∈ parts e := by
  cases h with
  | left => exact .head _
  | right => exact .tail _ (.head _)
  | argument _ _ he => exact Form.reads_subset _ _ he

theorem argumentStep_reads {form : Form} {es : List Expr}
    (h : ∀ e ∈ form.reads es, self e = self' e) :
    argumentStep self form es = argumentStep self' form es := by
  rw [argumentStep_build, argumentStep_build, mapM_congr h]

/-- A level needs the shapes of the hints that the hint reads, of the name at its head and of its
text alone. -/
theorem step_reads {e : Expr}
    (hself : ∀ e', Reads (fun n => (ref n).isSome) e e' → self e' = self' e')
    (href : ∀ n ∈ headName? e, ref n = ref' n)
    (hquoted : ∀ s m, e = .const (.str s m) → quoted s = quoted' s) :
    step self ref quoted e = step self' ref' quoted' e := by
  unfold step
  split
  · rfl
  · exact hquoted _ _ rfl
  · rw [href _ rfl]
  · rfl
  · rename_i head index
    split
    · rfl
    · rename_i name hname
      have hargs : (∀ n ∈ headName? (.subscript head index), ¬(ref n).isSome) →
          argumentStep self (Form.ofName name) (arguments index) =
            argumentStep self' (Form.ofName name) (arguments index) :=
        fun hu => argumentStep_reads fun e he => hself e (.argument hname hu he)
      cases head with
      | name n =>
        dsimp only
        rw [← href n rfl]
        cases hn : ref n with
        | some s => rfl
        | none => exact hargs fun m hm => by cases hm; simp [hn]
      | «attribute» _ attr => exact hargs fun m hm => by cases hm
      | _ => cases hname
  · rw [hself _ .left, hself _ .right]
  · rfl

/-- The same of all hints inside the hint, read or not. -/
theorem step_congr {e : Expr} (hself : ∀ e' ∈ parts e, self e' = self' e')
    (href : ∀ n ∈ headName? e, ref n = ref' n)
    (hquoted : ∀ s m, e = .const (.str s m) → quoted s = quoted' s) :
    step self ref quoted e = step self' ref' quoted' e :=
  step_reads (fun e' h => hself e' h.mem_parts) href hquoted

theorem stepQuoted_congr {s : String} (h : ∀ e, parseQuoted s = .ok (some e) → self e = self' e) :
    stepQuoted self s = stepQuoted self' s := by
  unfold stepQuoted
  cases hs : parseQuoted s with
  | error e => rfl
  | ok o =>
    cases o with
    | none => rfl
    | some e => exact h e hs

/-! ## Levels end -/

theorem sizeOf_parts {e e' : Expr} (h : e' ∈ parts e) : sizeOf e' < sizeOf e := by
  unfold parts at h
  split at h
  · rename_i head index
    have inside : sizeOf e' ≤ sizeOf index := by
      unfold arguments at h
      split at h
      · have := List.sizeOf_lt_of_mem h
        simp only [Expr.tuple.sizeOf_spec]
        omega
      · exact Nat.le_of_eq (congrArg sizeOf (List.eq_of_mem_singleton h))
    simp only [Expr.subscript.sizeOf_spec]
    omega
  · simp only [Expr.binary.sizeOf_spec]
    obtain rfl | h := List.mem_cons.mp h
    · omega
    · rw [List.eq_of_mem_singleton h]
      omega
  · cases h

mutual

/-- A bound above the lengths of the texts that a hint can quote. -/
def quoteBound : Expr → Nat
  | .const (.str s _) => s.length + 1
  | .subscript _ index => quoteBound index
  | .binary left _ right => max (quoteBound left) (quoteBound right)
  | .tuple es => quoteBounds es
  | _ => 0

def quoteBounds : List Expr → Nat
  | [] => 0
  | e :: es => max (quoteBound e) (quoteBounds es)

end

theorem quoteBound_mem {es : List Expr} {e : Expr} (h : e ∈ es) :
    quoteBound e ≤ quoteBounds es := by
  induction h with
  | head es => exact Nat.le_max_left ..
  | tail _ _ ih => exact Nat.le_trans ih (Nat.le_max_right ..)

theorem quoteBound_parts {e e' : Expr} (h : e' ∈ parts e) : quoteBound e' ≤ quoteBound e := by
  unfold parts at h
  split at h
  · rw [quoteBound]
    unfold arguments at h
    split at h
    · rw [quoteBound]
      exact quoteBound_mem h
    · exact Nat.le_of_eq (congrArg quoteBound (List.eq_of_mem_singleton h))
  · rw [quoteBound]
    obtain rfl | h := List.mem_cons.mp h
    · exact Nat.le_max_left ..
    · rw [List.eq_of_mem_singleton h]
      exact Nat.le_max_right ..
  · cases h

mutual

theorem quoteBound_le {n : Nat} {e : Expr} (h : e.Sound (·.length < n)) : quoteBound e ≤ n := by
  cases e with
  | const c =>
    cases c with
    | str s m => exact h
    | _ => exact Nat.zero_le _
  | subscript head index => exact quoteBound_le (e := index) h
  | binary left op right => exact Nat.max_le.mpr ⟨quoteBound_le h.1, quoteBound_le h.2⟩
  | tuple es => exact quoteBounds_le h
  | _ => exact Nat.zero_le _

theorem quoteBounds_le {n : Nat} {es : List Expr} (h : Expr.AllSound (·.length < n) es) :
    quoteBounds es ≤ n := by
  cases es with
  | nil => exact Nat.zero_le _
  | cons e es => exact Nat.max_le.mpr ⟨quoteBound_le h.1, quoteBounds_le h.2⟩

end

theorem length_trim (cs : List Char) : (Text.trim cs).length ≤ cs.length := by
  unfold Text.trim Text.trimRight Text.trimLeft
  rw [List.length_reverse]
  refine Nat.le_trans (List.dropWhile_sublist _).length_le ?_
  rw [List.length_reverse]
  exact (List.dropWhile_sublist _).length_le

/-- A hint in quotes quotes only texts that are shorter than its own. -/
theorem parseQuoted_bound {s : String} {e : Expr} (h : parseQuoted s = .ok (some e)) :
    quoteBound e ≤ s.length := by
  unfold parseQuoted at h
  dsimp only at h
  split at h
  · cases h
  · have hsound := Syntax.parseExpr_sound (fun _ h => h) (Except.ok.inj h)
    refine Nat.le_trans (quoteBound_le hsound) (Nat.le_trans (Text.length_unifyLineEnds_le _) ?_)
    exact Nat.le_trans (length_trim _) (Nat.le_of_eq String.length_toList)

/-- The shape of a hint needs the shapes of the texts alone that it can quote. -/
theorem shapeWith_congr (e : Expr) (h : ∀ s, s.length < quoteBound e → quoted s = quoted' s) :
    shapeWith ref quoted e = shapeWith ref quoted' e := by
  rw [shapeWith_step, shapeWith_step]
  refine step_congr (fun e' he' => ?_) (fun _ _ => rfl) fun s m heq => ?_
  · have := sizeOf_parts he'
    exact shapeWith_congr e' fun s hs => h s (Nat.lt_of_lt_of_le hs (quoteBound_parts he'))
  · rw [heq] at h
    exact h s (Nat.lt_succ_self _)
termination_by sizeOf e

/-- By induction on the levels: a text is read with as many as it has characters, or with more. -/
theorem quotedShape_levels (n : Nat) : ∀ {m s}, s.length < n → s.length < m →
    quotedShape ref n s = quotedShape ref m s := by
  induction n with
  | zero => exact fun h => absurd h (Nat.not_lt_zero _)
  | succ n ih =>
    intro m s hn hm
    obtain ⟨m, rfl⟩ := Nat.exists_eq_succ_of_ne_zero (Nat.ne_zero_of_lt hm)
    refine stepQuoted_congr fun e hs => shapeWith_congr e fun s' hs' => ?_
    have hbound := parseQuoted_bound hs
    exact ih (by omega) (by omega)

/-- A hint in quotes stands for what its text does as a hint. -/
theorem quotedShape_step (s : String) :
    quotedShape ref (s.length + 1) s = stepQuoted (shapeIn ref) s :=
  stepQuoted_congr fun e hs => shapeWith_congr e fun _ hs' =>
    quotedShape_levels _ (Nat.lt_of_lt_of_le hs' (parseQuoted_bound hs)) (Nat.lt_succ_self _)

theorem shapeIn_step (e : Expr) : shapeIn ref e =
    step (shapeIn ref) ref (fun s => quotedShape ref (s.length + 1) s) e :=
  shapeWith_step e

end Step

end Exemplar.Hint
