import Exemplar.Proofs.Hint.Unfold
import Mathlib.Data.List.Chain

/-
  The resolution of hints comes to an end. What it asks for on its way is a `Query`: the shape of a
  hint, of a hint in quotes or of a declared name, each inside the declarations of some names. One
  step answers a query from the answers to those that it asks in turn (`Asks`), by the rules of the
  source and with no bound on their levels. Every chain of queries ends, whatever the declarations
  say of each other (`asks_wellFounded`): first the names that are left to expand become fewer, then
  the texts that a hint can quote shorter, then the hint smaller. On a chain no name is expanded
  twice (`expansions_nodup`). So the rules have one answer to every query, and it is the one that
  hints are resolved to (`resolution_terminates`).
-/

namespace Exemplar

namespace Declaration

/-- All hints of a declaration. -/
def hints : Declaration → List Expr
  | .synonym value => [value]
  | .record fields => fields.map (·.2)
  | .unknownClass => []

/-- The shape that a declaration gives its name, given the shapes of its hints. -/
def expand (shape : Expr → HintM Shape) : Declaration → HintM Shape
  | .synonym value => shape value
  | .record fields => .record <$> Declarations.fieldShapes shape fields
  | .unknownClass => pure .unknown

variable {f g : Expr → HintM Shape}

theorem fieldShapes_mapM (fields : List (String × Expr)) :
    Declarations.fieldShapes f fields = fields.mapM fun p => (p.1, ·) <$> f p.2 := by
  induction fields with
  | nil => rfl
  | cons p fields ih => rw [Declarations.fieldShapes, ih, List.mapM_cons, bind_map_left]

theorem fieldShapes_congr {fields : List (String × Expr)} (h : ∀ p ∈ fields, f p.2 = g p.2) :
    Declarations.fieldShapes f fields = Declarations.fieldShapes g fields := by
  rw [fieldShapes_mapM, fieldShapes_mapM]
  exact Hint.mapM_congr fun p hp => by rw [h p hp]

theorem expand_congr {d : Declaration} (h : ∀ e ∈ d.hints, f e = g e) :
    d.expand f = d.expand g := by
  cases d with
  | synonym value => exact h value (.head _)
  | record fields =>
    exact congrArg (Shape.record <$> ·) (fieldShapes_congr fun p hp =>
      h p.2 (List.mem_map.mpr ⟨p, hp, rfl⟩))
  | unknownClass => rfl

end Declaration

namespace Declarations

/-- What is asked for inside the declarations of the names in `active`. -/
inductive Query
  | hint (active : List String) (e : Expr)
  | quoted (active : List String) (s : String)
  | name (active : List String) (n : String)

namespace Query

def active : Query → List String
  | .hint active _ | .quoted active _ | .name active _ => active

/-- The answer to a query, given the answers to the queries that it asks. -/
def step (t : Declarations) (answer : Query → HintM Shape) : Query → HintM Shape
  | .hint active e =>
    Hint.step (fun e => answer (.hint active e))
      (fun n => (t.get? n).map fun _ => answer (.name active n))
      (fun s => answer (.quoted active s)) e
  | .quoted active s => Hint.stepQuoted (fun e => answer (.hint active e)) s
  | .name active n =>
    if n ∈ active then pure .unknown
    else
      match t.get? n with
      | some d => d.expand fun e => answer (.hint (n :: active) e)
      | none => pure .unknown

/-- The name whose declaration a query expands: a declared one that is not being expanded. -/
def expansion? (t : Declarations) : Query → Option String
  | .name active n => if n ∈ active then none else (t.get? n).map fun _ => n
  | _ => none

end Query

/-- What a query can ask for. -/
inductive Asks (t : Declarations) : Query → Query → Prop
  | part {active : List String} {e e' : Expr} (h : e' ∈ Hint.parts e) :
    Asks t (.hint active e) (.hint active e')
  | name {active : List String} {e : Expr} {n : String} {d : Declaration}
    (h : Hint.headName? e = some n) (hd : t.get? n = some d) :
    Asks t (.hint active e) (.name active n)
  | quoted {active : List String} {s : String} {marked : Bool} :
    Asks t (.hint active (.const (.str s marked))) (.quoted active s)
  | parsed {active : List String} {s : String} {e : Expr} (h : Hint.parseQuoted s = .ok (some e)) :
    Asks t (.quoted active s) (.hint active e)
  | expanded {active : List String} {n : String} {d : Declaration} {e : Expr} (hn : n ∉ active)
    (hd : t.get? n = some d) (he : e ∈ d.hints) : Asks t (.name active n) (.hint (n :: active) e)

variable {t : Declarations} {active : List String} {n : String} {d : Declaration}

/-! ## Chains of queries end -/

/-- How many names are left to expand. -/
def fresh (t : Declarations) (active : List String) : Nat :=
  (t.names.filter (· ∉ active)).length

theorem fresh_le (t : Declarations) (active : List String) :
    t.fresh active ≤ t.entries.length := by
  refine Nat.le_trans (List.length_filter_le ..) (Nat.le_of_eq ?_)
  rw [names, List.length_map]

theorem mem_names (h : t.get? n = some d) : n ∈ t.names := by
  obtain ⟨l, r, hlist, -⟩ := List.lookup_eq_some_iff.mp h
  rw [names, hlist]
  exact List.mem_map.mpr ⟨(n, d), List.mem_append_right _ (.head _), rfl⟩

/-- A name that is expanded is no longer left. -/
theorem fresh_lt (hn : n ∉ active) (hd : t.get? n = some d) :
    t.fresh (n :: active) < t.fresh active := by
  have hfilter : t.names.filter (· ∉ n :: active) =
      (t.names.filter (· ∉ active)).filter (· ≠ n) := by
    rw [List.filter_filter]
    refine List.filter_congr fun m _ => ?_
    simp only [List.mem_cons, not_or, Bool.decide_and]
  unfold fresh
  rw [hfilter]
  refine List.length_filter_lt_length_iff_exists.mpr ⟨n, ?_, ?_⟩
  · exact List.mem_filter.mpr ⟨mem_names hd, decide_eq_true hn⟩
  · exact fun h => of_decide_eq_true h rfl

/-- Names left to expand, texts left to quote, size of the hint. Lengths count twice, so that a hint
in quotes comes between the hint that quotes it and the one that its text is. -/
noncomputable def Query.measure (t : Declarations) : Query → Nat × Nat × Nat
  | .hint active e => (t.fresh active, 2 * Hint.quoteBound e, sizeOf e + 1)
  | .quoted active s => (t.fresh active, 2 * s.length + 1, 0)
  | .name active _ => (t.fresh active, 0, 0)

theorem Asks.measure_lt {q q' : Query} (h : t.Asks q q') :
    Prod.Lex Nat.lt (Prod.Lex Nat.lt Nat.lt) (q'.measure t) (q.measure t) := by
  cases h with
  | part h =>
    exact .right _ (Prod.Lex.right' _ (Nat.mul_le_mul_left 2 (Hint.quoteBound_parts h))
      (Nat.succ_lt_succ (Hint.sizeOf_parts h)))
  | name => exact .right _ (Prod.Lex.right' _ (Nat.zero_le _) (Nat.succ_pos _))
  | quoted => exact .right _ (.left _ _ (Nat.lt_succ_self (2 * _ + 1)))
  | parsed h =>
    have hbound := Nat.mul_le_mul_left 2 (Hint.parseQuoted_bound h)
    exact .right _ (.left _ _ (Nat.lt_succ_of_le hbound))
  | expanded hn hd he => exact .left _ _ (fresh_lt hn hd)

theorem asks_wellFounded (t : Declarations) : WellFounded fun q' q => t.Asks q q' :=
  Subrelation.wf Asks.measure_lt (InvImage.wf (Query.measure t)
    (WellFounded.prod_lex Nat.lt_wfRel.wf (WellFounded.prod_lex Nat.lt_wfRel.wf Nat.lt_wfRel.wf)))

/-! ## No name is expanded twice -/

theorem Query.expansion_eq_some {q : Query} : q.expansion? t = some n ↔
    ∃ active d, q = .name active n ∧ n ∉ active ∧ t.get? n = some d := by
  constructor
  · intro h
    cases q with
    | name active m =>
      unfold expansion? at h
      dsimp only at h
      split at h
      · cases h
      · rename_i hm
        obtain ⟨d, hd, rfl⟩ := Option.map_eq_some_iff.mp h
        exact ⟨active, d, rfl, hm, hd⟩
    | _ => cases h
  · rintro ⟨active, d, rfl, hn, hd⟩
    exact (if_neg hn).trans (by rw [hd]; rfl)

/-- By induction on the chain: what it expands is not being expanded where it starts. -/
theorem expansions_fresh {qs : List Query} :
    ∀ {q : Query}, (q :: qs).IsChain t.Asks →
      (∀ n ∈ (q :: qs).filterMap (Query.expansion? t), n ∉ q.active) ∧
        ((q :: qs).filterMap (Query.expansion? t)).Nodup := by
  induction qs with
  | nil =>
    intro q _
    rw [List.filterMap_cons]
    cases hq : q.expansion? t with
    | none => exact ⟨nofun, List.nodup_nil⟩
    | some n =>
      obtain ⟨active, d, rfl, hn, -⟩ := Query.expansion_eq_some.mp hq
      exact ⟨List.forall_mem_singleton.mpr hn, List.nodup_cons.mpr ⟨nofun, List.nodup_nil⟩⟩
  | cons q' qs ih =>
    intro q h
    obtain ⟨hasks, hchain⟩ := List.isChain_cons_cons.mp h
    obtain ⟨hfresh, hnodup⟩ := ih hchain
    cases hasks with
    | part | name | quoted | parsed => exact ⟨hfresh, hnodup⟩
    -- From here on the name is being expanded, so nothing later on the chain expands it again.
    | @expanded active n d e hn hd he =>
      rw [List.filterMap_cons_some (Query.expansion_eq_some.mpr ⟨active, d, rfl, hn, hd⟩)]
      refine ⟨List.forall_mem_cons.mpr ⟨hn, fun m hm hmem => ?_⟩, List.nodup_cons.mpr ⟨?_, hnodup⟩⟩
      · exact hfresh m hm (.tail _ hmem)
      · exact fun hmem => hfresh n hmem (.head _)

theorem expansions_nodup {qs : List Query} (h : qs.IsChain t.Asks) :
    (qs.filterMap (Query.expansion? t)).Nodup := by
  cases qs with
  | nil => exact List.nodup_nil
  | cons q qs => exact (expansions_fresh h).2

/-! ## The rules have one answer -/

/-- A step needs the answers to the queries that are asked alone. -/
theorem Query.step_congr {f g : Query → HintM Shape} {q : Query}
    (h : ∀ q', t.Asks q q' → f q' = g q') : q.step t f = q.step t g := by
  cases q with
  | hint active e =>
    refine Hint.step_congr (fun e' he' => h _ (.part he')) (fun n hn => ?_) fun s m heq => ?_
    · cases hd : t.get? n with
      | none => rfl
      | some d => exact congrArg some (h _ (.name hn hd))
    · subst heq
      exact h _ .quoted
  | quoted active s => exact Hint.stepQuoted_congr fun e hs => h _ (.parsed hs)
  | name active n =>
    unfold step
    dsimp only
    split
    · rfl
    · rename_i hn
      cases hd : t.get? n with
      | none => rfl
      | some d =>
        exact Declaration.expand_congr fun e he => h _ (.expanded hn hd he)

theorem nameShape_succ (k : Nat) (active : List String) (n : String) :
    t.nameShape (k + 1) active n =
      if n ∈ active then pure .unknown
      else
        match t.get? n with
        | some d => d.expand (Hint.shapeIn fun other =>
          (t.get? other).map fun _ => t.nameShape k (n :: active) other)
        | none => pure .unknown := by
  rw [nameShape]
  simp only [List.contains_iff_mem]
  split
  · rfl
  · cases t.get? n with
    | none => rfl
    | some d => cases d <;> rfl

/-- Levels of declarations beyond the names that are left change nothing. -/
theorem nameShape_levels (k : Nat) : ∀ {m active n}, t.fresh active < k → t.fresh active < m →
    t.nameShape k active n = t.nameShape m active n := by
  induction k with
  | zero => exact fun h => absurd h (Nat.not_lt_zero _)
  | succ k ih =>
    intro m active n hk hm
    obtain ⟨m, rfl⟩ := Nat.exists_eq_succ_of_ne_zero (Nat.ne_zero_of_lt hm)
    rw [nameShape_succ, Nat.succ_eq_add_one, nameShape_succ]
    split
    · rfl
    · rename_i hn
      cases hd : t.get? n with
      | none => rfl
      | some d =>
        have hlt := fresh_lt hn hd
        have inner : ∀ other, t.nameShape k (n :: active) other =
            t.nameShape m (n :: active) other := fun _ => ih (by omega) (by omega)
        simp only [inner]

/-- The shapes of names inside the declarations of some. -/
def inside (t : Declarations) (active : List String) (n : String) : Option (HintM Shape) :=
  (t.get? n).map fun _ => t.nameShape t.depth active n

/-- The shape that a query is resolved to. -/
def Query.answer (t : Declarations) : Query → HintM Shape
  | .hint active e => Hint.shapeIn (t.inside active) e
  | .quoted active s => Hint.quotedShape (t.inside active) (s.length + 1) s
  | .name active n => t.nameShape t.depth active n

theorem Query.answer_step (q : Query) : q.answer t = q.step t (Query.answer t) := by
  cases q with
  | hint active e => exact Hint.shapeIn_step e
  | quoted active s => exact Hint.quotedShape_step s
  | name active n =>
    have hlt : t.fresh active < t.depth := Nat.lt_succ_of_le (t.fresh_le active)
    calc t.nameShape t.depth active n
        = t.nameShape (t.depth + 1) active n := nameShape_levels _ hlt (Nat.lt_succ_of_lt hlt)
      _ = (name active n).step t (Query.answer t) := nameShape_succ t.depth active n

/-- By induction along the queries that are asked. -/
theorem Query.answer_unique {f : Query → HintM Shape} (h : ∀ q, f q = Query.step t f q) :
    f = Query.answer t := by
  funext q
  induction q using (asks_wellFounded t).induction with
  | _ q ih => rw [h, answer_step, step_congr ih]

/-- For all declarations, also ones that refer to each other in circles: every query leads to
finitely many levels of others, and the rules for one level, which need the answers to those alone,
have one answer to all queries. Hints and names are resolved to it, and no chain of queries expands
a name twice. -/
theorem resolution_terminates (t : Declarations) :
    (WellFounded fun q' q => t.Asks q q') ∧
    (∀ f g q, (∀ q', t.Asks q q' → f q' = g q') → Query.step t f q = Query.step t g q) ∧
    (∀ f, (∀ q, f q = Query.step t f q) ↔ f = Query.answer t) ∧
    (∀ e, t.shapeOf e = Query.answer t (.hint [] e)) ∧
    (∀ n, t.resolveName n = Query.answer t (.name [] n)) ∧
    ∀ qs : List Query, qs.IsChain t.Asks → (qs.filterMap (Query.expansion? t)).Nodup := by
  refine ⟨asks_wellFounded t, fun _ _ _ => Query.step_congr, fun f => ⟨Query.answer_unique, ?_⟩,
    fun _ => rfl, fun _ => rfl, fun _ => expansions_nodup⟩
  rintro rfl
  exact Query.answer_step

/-- `Ping` is a `Pong` in quotes, which is a dictionary with a `Ping`. -/
def pingPong : Declarations where
  entries :=
    [("Ping", .synonym (.const (.str "Pong"))), ("Pong", .record [("back", .name "Ping")])]

theorem parseQuoted_pong : Hint.parseQuoted "Pong" = .ok (some (.name "Pong")) := by
  rfl

/-- A chain that comes back to the name where it starts. -/
theorem resolution_terminates_pingPong : ∃ qs : List Query, qs.IsChain pingPong.Asks ∧
    qs.head? = some (.name [] "Ping") ∧ qs.getLast? = some (.name ["Pong", "Ping"] "Ping") ∧
    qs.filterMap (Query.expansion? pingPong) = ["Ping", "Pong"] ∧
    (qs.filterMap (Query.expansion? pingPong)).Nodup := by
  have chain : List.IsChain pingPong.Asks [.name [] "Ping", .hint ["Ping"] (.const (.str "Pong")),
      .quoted ["Ping"] "Pong", .hint ["Ping"] (.name "Pong"), .name ["Ping"] "Pong",
      .hint ["Pong", "Ping"] (.name "Ping"), .name ["Pong", "Ping"] "Ping"] :=
    .cons_cons (.expanded nofun rfl (.head _)) <|
    .cons_cons .quoted <|
    .cons_cons (.parsed parseQuoted_pong) <|
    .cons_cons (.name rfl rfl) <|
    .cons_cons (.expanded (by decide) rfl (.head _)) <|
    .cons_cons (.name rfl rfl) <|
    .singleton _
  exact ⟨_, chain, rfl, rfl, by decide, (resolution_terminates pingPong).2.2.2.2.2 _ chain⟩

end Declarations

end Exemplar
