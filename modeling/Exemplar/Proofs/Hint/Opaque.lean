import Exemplar.Proofs.Hint.Termination

/-
  What it means that the declarations of some names are being expanded. A hint inside them is
  resolved as one outside all declarations would be if nothing were known of these names
  (`answer_veiled`). They are the names that were expanded on the way to the hint
  (`active_of_chain`) and no others, so that a name is cut where it is its own ancestor and nowhere
  else; what stands beside a hint has no say. Names that a hint does not lead to make no difference to it
  (`answer_reached`).
-/

namespace Exemplar.Declarations

/-- The declarations, those of some names replaced by classes of which nothing is known. -/
def veiled (t : Declarations) (names : List String) : Declarations where
  entries := t.entries.map fun e => (e.1, if e.1 ∈ names then .unknownClass else e.2)

/-- A declared name that a hint leads to: by the hints inside it, by quotes and by declarations. -/
inductive Reaches (t : Declarations) : Expr → String → Prop
  | head {e n d} (h : Hint.headName? e = some n) (hd : t.get? n = some d) : Reaches t e n
  | part {e e' n} (h : e' ∈ Hint.parts e) (hn : Reaches t e' n) : Reaches t e n
  | quoted {s m e' n} (h : Hint.parseQuoted s = .ok (some e')) (hn : Reaches t e' n) :
    Reaches t (.const (.str s m)) n
  | declared {e m d e' n} (h : Hint.headName? e = some m) (hd : t.get? m = some d)
    (he : e' ∈ d.hints) (hn : Reaches t e' n) : Reaches t e n

variable {t : Declarations} {active names : List String} {e : Expr} {n : String} {d : Declaration}

/-! ## Names of which nothing is known -/

theorem get_veiled (t : Declarations) (names : List String) (n : String) :
    (t.veiled names).get? n = (t.get? n).map fun d => if n ∈ names then .unknownClass else d := by
  unfold veiled get?
  induction t.entries with
  | nil => rfl
  | cons e es ih =>
    rw [List.map_cons, List.lookup_cons, List.lookup_cons, ih]
    cases h : n == e.1 with
    | true => rw [eq_of_beq h]; rfl
    | false => rfl

/-- The query inside the declarations of more names. -/
def Query.within (names : List String) : Query → Query
  | .hint active e => .hint (active ++ names) e
  | .quoted active s => .quoted (active ++ names) s
  | .name active n => .name (active ++ names) n

/-- Inside the declarations of names, a query is answered as if these were not known. -/
theorem answer_veiled (t : Declarations) (names : List String) (q : Query) :
    (q.within names).answer t = q.answer (t.veiled names) := by
  have rules : ∀ q : Query, (q.within names).answer t =
      q.step (t.veiled names) fun q' => (q'.within names).answer t := by
    intro q
    rw [Query.answer_step]
    cases q with
    | hint active e =>
      refine Hint.step_congr (fun _ _ => rfl) (fun n _ => ?_) fun _ _ _ => rfl
      rw [get_veiled, Option.map_map]
      rfl
    | quoted active s => rfl
    | name active n =>
      unfold Query.within Query.step
      dsimp only
      rw [get_veiled]
      by_cases ha : n ∈ active
      · rw [if_pos ha, if_pos (List.mem_append_left _ ha)]
      · by_cases hn : n ∈ names
        · rw [if_neg ha, if_pos (List.mem_append_right _ hn)]
          simp only [if_pos hn]
          cases t.get? n <;> rfl
        · rw [if_neg ha, if_neg (by simp [ha, hn])]
          simp only [if_neg hn, Option.map_id']
          rfl
  exact congrFun (Query.answer_unique rules) q

/-! ## Names that are being expanded -/

/-- By induction on the chain: inside are the names that it has expanded, the last one first. -/
theorem active_of_chain {qs : List Query} {q' : Query} : ∀ {q : Query},
    (q :: qs ++ [q']).IsChain t.Asks →
      q'.active = ((q :: qs).filterMap (Query.expansion? t)).reverse ++ q.active := by
  induction qs with
  | nil =>
    intro q h
    obtain ⟨hasks, -⟩ := List.isChain_cons_cons.mp h
    cases hasks with
    | part | name | quoted | parsed => rfl
    | @expanded active n d e hn hd he =>
      rw [List.filterMap_cons_some (Query.expansion_eq_some.mpr ⟨active, d, rfl, hn, hd⟩)]
      rfl
  | cons q₁ qs ih =>
    intro q h
    obtain ⟨hasks, hchain⟩ := List.isChain_cons_cons.mp h
    rw [ih hchain]
    cases hasks with
    | part | name | quoted | parsed => rfl
    | @expanded active n d e hn hd he =>
      rw [List.filterMap_cons_some (Query.expansion_eq_some.mpr ⟨active, d, rfl, hn, hd⟩),
        List.reverse_cons, List.append_assoc]
      rfl

/-- A name is unknown inside its own declaration, and stands for its declaration elsewhere. -/
theorem answer_name (hd : t.get? n = some d) (active : List String) :
    Query.answer t (.name active n) =
      if n ∈ active then pure .unknown
      else d.expand fun e => Query.answer t (.hint (n :: active) e) := by
  rw [Query.answer_step]
  unfold Query.step
  dsimp only
  rw [hd]

/-! ## Names that a hint leads to -/

/-- By induction along the queries: two that are inside the same names, as far as the hint leads to
them, have one answer. -/
theorem answer_reached {active' : List String}
    (h : ∀ n, t.Reaches e n → (n ∈ active ↔ n ∈ active')) :
    Query.answer t (.hint active e) = Query.answer t (.hint active' e) := by
  generalize hq : Query.hint active e = q
  induction q using (asks_wellFounded t).transGen.induction generalizing active active' e with
  | _ q ih =>
    subst hq
    rw [Query.answer_step, Query.answer_step]
    refine Hint.step_congr (fun e' he' => ?_) (fun n hn => ?_) fun s m heq => ?_
    · exact ih _ (.single (.part he')) (fun n hn => h n (.part he' hn)) rfl
    · cases hd : t.get? n with
      | none => rfl
      | some d =>
        refine congrArg some ?_
        rw [answer_name hd, answer_name hd]
        by_cases ha : n ∈ active
        · rw [if_pos ha, if_pos ((h n (.head hn hd)).mp ha)]
        · rw [if_neg ha, if_neg (mt (h n (.head hn hd)).mpr ha)]
          refine Declaration.expand_congr fun e' he' => ?_
          refine ih _ (.tail (.single (.expanded ha hd he')) (.name hn hd)) (fun k hk => ?_) rfl
          rw [List.mem_cons, List.mem_cons, h k (.declared hn hd he' hk)]
    · subst heq
      rw [Query.answer_step, Query.answer_step]
      refine Hint.stepQuoted_congr fun e' he' => ?_
      exact ih _ (.tail (.single (.parsed he')) .quoted) (fun n hn => h n (.quoted he' hn)) rfl

/-- What is being expanded acts on a hint as if nothing were known of it. The names are those that
have been expanded on the way to the hint: a name is unknown on a way that has expanded it, and
stands for its declaration on any other. The hints inside a hint are resolved inside the same names,
each in full. Names that a hint does not lead to have no effect on it. -/
theorem expansion_opaque (t : Declarations) (names : List String) (e : Expr) :
    Hint.shapeIn (t.inside names) e = (t.veiled names).shapeOf e ∧
    (∀ qs active n d, (Query.hint [] e :: qs ++ [Query.name active n]).IsChain t.Asks →
      t.get? n = some d →
      t.nameShape t.depth active n =
        if n ∈ (Query.hint [] e :: qs).filterMap (Query.expansion? t) then pure .unknown
        else d.expand (Hint.shapeIn (t.inside (n :: active)))) ∧
    (Hint.shapeIn (t.inside names) e =
      Hint.step (Hint.shapeIn (t.inside names)) (t.inside names)
        (fun s => Hint.quotedShape (t.inside names) (s.length + 1) s) e) ∧
    ((∀ n ∈ names, ¬t.Reaches e n) → Hint.shapeIn (t.inside names) e = t.shapeOf e) := by
  refine ⟨answer_veiled t names (.hint [] e), fun qs active n d hchain hd => ?_,
    Hint.shapeIn_step e, fun h => ?_⟩
  · have hactive := active_of_chain hchain
    have hmem : n ∈ active ↔ n ∈ (Query.hint [] e :: qs).filterMap (Query.expansion? t) := by
      show n ∈ (Query.name active n).active ↔ _
      rw [hactive, List.mem_append, List.mem_reverse]
      exact or_iff_left List.not_mem_nil
    exact (answer_name hd active).trans (if_congr hmem rfl rfl)
  · have hsame : ∀ n, t.Reaches e n → (n ∈ names ↔ n ∈ ([] : List String)) :=
      fun n hn => ⟨fun hmem => absurd hn (h n hmem), nofun⟩
    exact answer_reached hsame

/-- A pair of lists of such pairs, and a name beside them. -/
def pairs : Declarations where
  entries :=
    [("Pair", .synonym (.subscript (.name "tuple") (.tuple [.name "Leaf", .name "Leaf"]))),
     ("Leaf", .synonym (.subscript (.name "list") (.name "Pair"))),
     ("Other", .synonym (.name "int"))]

/-- The hints that a pair leads to. -/
def pairHints : List Expr :=
  [.name "Pair", .subscript (.name "tuple") (.tuple [.name "Leaf", .name "Leaf"]), .name "Leaf",
   .subscript (.name "list") (.name "Pair")]

/-- Each of them leads to others of them, and refers to two names at most. -/
theorem pairHints_closed : ∀ e ∈ pairHints, (∀ e' ∈ Hint.parts e, e' ∈ pairHints) ∧
    ∀ n, Hint.headName? e = some n →
      n ≠ "Other" ∧ ∀ d, pairs.get? n = some d → ∀ e' ∈ d.hints, e' ∈ pairHints := by
  have pair : pairs.get? "Pair" = some _ := rfl
  have leaf : pairs.get? "Leaf" = some _ := rfl
  have tuple : pairs.get? "tuple" = none := rfl
  have list : pairs.get? "list" = none := rfl
  simp [pairHints, Hint.parts, Hint.arguments, Hint.headName?, pair, leaf, tuple, list,
    Declaration.hints]

theorem not_reaches_other {e : Expr} {n : String} (h : pairs.Reaches e n) :
    e ∈ pairHints → n ≠ "Other" := by
  induction h with
  | head h => exact fun he => ((pairHints_closed _ he).2 _ h).1
  | part h _ ih => exact fun he => ih ((pairHints_closed _ he).1 _ h)
  | quoted h _ ih => exact fun he => by simp [pairHints] at he
  | declared h hd he' _ ih => exact fun he => ih (((pairHints_closed _ he).2 _ h).2 _ hd _ he')

theorem shapeIn_pair : Hint.shapeIn (pairs.inside ["Leaf"]) (.name "Pair") =
    .ok (.tuple [.unknown, .unknown]) := by
  simp [Hint.shapeIn, inside, nameShape, depth, pairs, get?, Hint.shapeWith, List.lookup_cons,
    Hint.indexShape, Hint.argumentShape, Hint.shapesWith, Expr.tailName?, Hint.Form.ofName,
    Hint.tupleNames, Hint.sequenceNames, Hint.wrapperNames]
  rfl

theorem shapeOf_pair : pairs.shapeOf (.name "Pair") =
    .ok (.tuple [.list .unknown, .list .unknown]) := by
  simp [shapeOf, resolveName, Hint.shapeIn, nameShape, depth, pairs, get?, Hint.shapeWith,
    List.lookup_cons, Hint.indexShape, Hint.argumentShape, Hint.shapesWith, Expr.tailName?,
    Hint.Form.ofName, Hint.tupleNames, Hint.sequenceNames, Hint.wrapperNames]
  rfl

/-- The pair in a pair is cut, both lists of it are not; and what is known of the other name makes
no difference. -/
theorem expansion_opaque_pairs :
    (∃ qs, (Query.hint [] (.name "Pair") :: qs ++
        [Query.name ["Leaf", "Pair"] "Pair"]).IsChain pairs.Asks ∧
      pairs.nameShape pairs.depth ["Leaf", "Pair"] "Pair" = pure .unknown) ∧
    Hint.shapeIn (pairs.inside ["Leaf"]) (.name "Pair") = .ok (.tuple [.unknown, .unknown]) ∧
    (pairs.veiled ["Leaf"]).shapeOf (.name "Pair") = .ok (.tuple [.unknown, .unknown]) ∧
    (∀ n ∈ ["Other"], ¬pairs.Reaches (.name "Pair") n) ∧
    Hint.shapeIn (pairs.inside ["Other"]) (.name "Pair") =
      .ok (.tuple [.list .unknown, .list .unknown]) := by
  have chain : List.IsChain pairs.Asks [.hint [] (.name "Pair"), .name [] "Pair",
      .hint ["Pair"] (.subscript (.name "tuple") (.tuple [.name "Leaf", .name "Leaf"])),
      .hint ["Pair"] (.name "Leaf"), .name ["Pair"] "Leaf",
      .hint ["Leaf", "Pair"] (.subscript (.name "list") (.name "Pair")),
      .hint ["Leaf", "Pair"] (.name "Pair"), .name ["Leaf", "Pair"] "Pair"] :=
    .cons_cons (.name rfl rfl) <|
    .cons_cons (.expanded nofun rfl (.head _)) <|
    .cons_cons (.part (.head _)) <|
    .cons_cons (.name rfl rfl) <|
    .cons_cons (.expanded (by decide) rfl (.head _)) <|
    .cons_cons (.part (.head _)) <|
    .cons_cons (.name rfl rfl) <|
    .singleton _
  have apart : ∀ n ∈ ["Other"], ¬pairs.Reaches (.name "Pair") n :=
    List.forall_mem_singleton.mpr fun h => not_reaches_other h (.head _) rfl
  obtain ⟨hveiled, hcut, -, -⟩ := expansion_opaque pairs ["Leaf"] (.name "Pair")
  obtain ⟨-, -, -, hother⟩ := expansion_opaque pairs ["Other"] (.name "Pair")
  refine ⟨⟨[_, _, _, _, _, _], chain, ?_⟩, shapeIn_pair, hveiled.symm.trans shapeIn_pair, apart,
    (hother apart).trans shapeOf_pair⟩
  exact (hcut [_, _, _, _, _, _] _ _ _ chain rfl).trans (if_pos (by decide))

end Exemplar.Declarations
