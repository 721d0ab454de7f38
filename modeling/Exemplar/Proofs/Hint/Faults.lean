import Exemplar.Proofs.Hint.LookUp

/-
  When a hint is at fault. There is one way: a text that is needed for its shape holds the null
  character. A level of a hint is at fault exactly when something is that it needs
  (`step_failsIff`), so a hint is when such a text is met on the way of its resolution (`Faulty`, by
  induction along the queries). On that way names are cut that are being expanded. No text is missed
  by this: what a cut name leads to has been met where the name was expanded (`Needs.spared`), and
  so it is enough that the text is needed at any remove (`shapeOf_failsIff`).
-/

namespace Exemplar

namespace HintM

variable {α β : Type} {x : HintM α} {p q : Prop}

/-- A reader meets the null character if a condition holds, and answers otherwise. -/
structure FailsIff (x : HintM α) (p : Prop) : Prop where
  error (h : p) : x = .error .nullCharacter
  ok (h : ¬p) : ∃ a, x = .ok a

namespace FailsIff

theorem of_pure {a : α} (hx : x = Pure.pure a) (h : ¬p) : FailsIff x p :=
  ⟨fun hp => absurd hp h, fun _ => ⟨a, hx⟩⟩

theorem pure {a : α} : FailsIff (Pure.pure a) False := .of_pure rfl not_false

theorem congr (h : FailsIff x p) (hpq : p ↔ q) : FailsIff x q :=
  ⟨fun hq => h.error (hpq.mpr hq), fun hq => h.ok (mt hpq.mp hq)⟩

theorem bind {f : α → HintM β} (hx : FailsIff x p) (hf : ∀ a, FailsIff (f a) q) :
    FailsIff (x >>= f) (p ∨ q) := by
  by_cases hp : p
  · exact ⟨fun _ => by rw [hx.error hp]; rfl, fun h => absurd (.inl hp) h⟩
  · obtain ⟨a, rfl⟩ := hx.ok hp
    exact (hf a).congr (or_iff_right hp).symm

theorem map (hx : FailsIff x p) (f : α → β) : FailsIff (f <$> x) p := by
  rw [map_eq_pure_bind]
  exact (hx.bind fun _ => .pure).congr (iff_of_eq (or_false p))

theorem mapM {f : α → HintM β} {p : α → Prop} {as : List α} (h : ∀ a ∈ as, FailsIff (f a) (p a)) :
    FailsIff (as.mapM f) (∃ a ∈ as, p a) := by
  induction as with
  | nil => exact pure.congr (by simp)
  | cons a as ih =>
    obtain ⟨ha, has⟩ := List.forall_mem_cons.mp h
    rw [List.mapM_cons]
    refine (ha.bind fun _ => (ih has).bind fun _ => .pure).congr ?_
    rw [or_false, List.exists_mem_cons_iff]

theorem eq_error_iff (h : FailsIff x p) {f : HintFault} :
    x = .error f ↔ f = .nullCharacter ∧ p := by
  by_cases hp : p
  · rw [h.error hp, and_iff_left hp, Except.error.injEq]
    exact eq_comm
  · obtain ⟨a, rfl⟩ := h.ok hp
    exact ⟨nofun, fun hf => absurd hf.2 hp⟩

end FailsIff

end HintM

open HintM (FailsIff)

namespace Hint

/-- One of the things has a property that a level of a hint needs: a hint that it reads, the
declared name at its head, or its text. -/
inductive Meets (declared : String → Prop) (p : Expr → Prop) (name text : String → Prop) :
    Expr → Prop
  | read {e e'} (h : Reads declared e e') (he : p e') : Meets declared p name text e
  | name {e n} (h : headName? e = some n) (hd : declared n) (hn : name n) :
    Meets declared p name text e
  | text {s marked} (hs : text s) : Meets declared p name text (.const (.str s marked))

section Step

variable {ref : String → Option (HintM Shape)} {quoted : String → HintM Shape}
  {self : Expr → HintM Shape} {p : Expr → Prop} {name text : String → Prop}

theorem argumentStep_failsIff {form : Form} {es : List Expr}
    (h : ∀ e ∈ form.reads es, FailsIff (self e) (p e)) :
    FailsIff (argumentStep self form es) (∃ e ∈ form.reads es, p e) := by
  rw [argumentStep_build]
  exact (FailsIff.mapM h).map _

section Meets

variable {declared : String → Prop} {e head index : Expr} {n : String}

theorem meets_name_iff (hn : headName? e = some n) (hd : declared n) :
    Meets declared p name text e ↔ name n := by
  constructor
  · intro h
    cases h with
    | read h _ =>
      cases h with
      | left | right => cases hn
      | argument _ hu _ => exact absurd hd (hu n hn)
    | name h _ hname => exact Option.some.inj (h.symm.trans hn) ▸ hname
    | text => cases hn
  · exact .name hn hd

theorem meets_argument_iff {k : String} (hname : head.tailName? = some k)
    (hu : ∀ n ∈ headName? (.subscript head index), ¬declared n) :
    Meets declared p name text (.subscript head index) ↔
      ∃ e ∈ (Form.ofName k).reads (arguments index), p e := by
  constructor
  · rintro (⟨h, he⟩ | ⟨hn, hd, -⟩)
    · cases h with
      | argument h _ hread =>
        cases hname.symm.trans h
        exact ⟨_, hread, he⟩
    · exact absurd hd (hu _ hn)
  · rintro ⟨e, he, h⟩
    exact .read (.argument hname hu he) h

theorem not_meets_nameless (hname : head.tailName? = none) :
    ¬Meets declared p name text (.subscript head index) := by
  rintro (⟨h, -⟩ | ⟨hn, -, -⟩)
  · cases h with
    | argument h => cases hname.symm.trans h
  · rw [headName_subscript.mp hn] at hname
    cases hname

theorem meets_either_iff {l r : Expr} :
    Meets declared p name text (.binary l .bitOr r) ↔ p l ∨ p r := by
  constructor
  · rintro (⟨⟨⟩, h⟩ | ⟨⟨⟩, -, -⟩)
    · exact .inl h
    · exact .inr h
  · rintro (h | h)
    · exact .read .left h
    · exact .read .right h

end Meets

/-- A level of a hint is at fault exactly when something is that it needs. -/
theorem step_failsIff {e : Expr}
    (hself : ∀ e', Reads (fun n => (ref n).isSome) e e' → FailsIff (self e') (p e'))
    (href : ∀ n s, headName? e = some n → ref n = some s → FailsIff s (name n))
    (hquoted : ∀ s m, e = .const (.str s m) → FailsIff (quoted s) (text s)) :
    FailsIff (step self ref quoted e) (Meets (fun n => (ref n).isSome) p name text e) := by
  have declared : ∀ {n s}, headName? e = some n → ref n = some s →
      step self ref quoted e = s →
        FailsIff (step self ref quoted e) (Meets (fun n => (ref n).isSome) p name text e) := by
    intro n s hn hs hstep
    rw [hstep]
    exact (href n s hn hs).congr (meets_name_iff hn (Option.isSome_of_eq_some hs)).symm
  cases e with
  | const c =>
    cases c with
    | str s m =>
      refine (hquoted s m rfl).congr ⟨.text, ?_⟩
      rintro (⟨⟨⟩, -⟩ | ⟨⟨⟩, -, -⟩ | hs)
      exact hs
    | _ => exact .of_pure rfl (by rintro (⟨⟨⟩, -⟩ | ⟨⟨⟩, -, -⟩))
  | name n =>
    cases hn : ref n with
    | some s => exact declared rfl hn (by rw [step_name, hn, Option.getD_some])
    | none =>
      refine .of_pure (by rw [step_name, hn, Option.getD_none]) ?_
      rintro (⟨⟨⟩, -⟩ | ⟨⟨⟩, hd, -⟩)
      rw [hn] at hd
      cases hd
  | «attribute» value attr => exact .of_pure rfl (by rintro (⟨⟨⟩, -⟩ | ⟨⟨⟩, -, -⟩))
  | subscript head index =>
    cases hname : head.tailName? with
    | none => exact .of_pure (step_nameless hname) (not_meets_nameless hname)
    | some k =>
      by_cases hs : ∃ n s, headName? (.subscript head index) = some n ∧ ref n = some s
      · obtain ⟨n, s, hn, hs⟩ := hs
        refine declared hn hs ?_
        rw [headName_subscript.mp hn]
        exact step_declared hs
      · have hu : ∀ n ∈ headName? (.subscript head index), ref n = none := fun n hn =>
          Option.eq_none_iff_forall_ne_some.mpr fun s h => hs ⟨n, s, hn, h⟩
        have undeclared : ∀ n ∈ headName? (.subscript head index), ¬(ref n).isSome :=
          fun n hn => by simp [hu n hn]
        rw [step_form hname hu]
        refine (argumentStep_failsIff fun e he => hself e (.argument hname undeclared he)).congr ?_
        exact (meets_argument_iff hname undeclared).symm
  | binary l op r =>
    cases op with
    | bitOr =>
      have both := (hself l .left).bind fun a => (hself r .right).map fun b => Shape.unite [a, b]
      exact both.congr meets_either_iff.symm
    | _ => exact .of_pure rfl (by rintro (⟨⟨⟩, -⟩ | ⟨⟨⟩, -, -⟩))
  | _ => exact .of_pure rfl (by rintro (⟨⟨⟩, -⟩ | ⟨⟨⟩, -, -⟩))

/-! ## Texts -/

theorem mem_trimLeft {c : Char} {cs : List Char} (hc : Text.isBlank c = false) :
    c ∈ Text.trimLeft cs ↔ c ∈ cs := by
  unfold Text.trimLeft
  induction cs with
  | nil => rfl
  | cons b cs ih =>
    rw [List.dropWhile_cons]
    split
    · rename_i hb
      have hne : c ≠ b := by
        rintro rfl
        exact absurd hb (Bool.eq_false_iff.mp hc)
      rw [ih, List.mem_cons, or_iff_right hne]
    · rfl

/-- What is not blank is not trimmed. -/
theorem mem_trim {c : Char} {cs : List Char} (hc : Text.isBlank c = false) :
    c ∈ Text.trim cs ↔ c ∈ cs := by
  have right : ∀ cs : List Char, c ∈ Text.trimRight cs ↔ c ∈ cs := fun cs => by
    calc c ∈ Text.trimRight cs
        ↔ c ∈ Text.trimLeft cs.reverse := List.mem_reverse
      _ ↔ c ∈ cs := (mem_trimLeft hc).trans List.mem_reverse
  exact (right _).trans (mem_trimLeft hc)

theorem parseQuoted_failsIff (s : String) : FailsIff (parseQuoted s) ('\x00' ∈ s.toList) := by
  have hmem : (Text.trim s.toList).contains '\x00' ↔ '\x00' ∈ s.toList :=
    List.contains_iff_mem.trans (mem_trim (by decide))
  unfold parseQuoted
  dsimp only
  split
  · rename_i h
    exact ⟨fun _ => rfl, fun hn => absurd (hmem.mp h) hn⟩
  · rename_i h
    exact ⟨fun hs => absurd (hmem.mpr hs) h, fun _ => ⟨_, rfl⟩⟩

theorem stepQuoted_failsIff {s : String}
    (h : ∀ e, parseQuoted s = .ok (some e) → FailsIff (self e) (p e)) :
    FailsIff (stepQuoted self s)
      ('\x00' ∈ s.toList ∨ ∃ e, parseQuoted s = .ok (some e) ∧ p e) := by
  unfold stepQuoted
  have parsed := parseQuoted_failsIff s
  cases hs : parseQuoted s with
  | error f =>
    obtain ⟨rfl, hnull⟩ := parsed.eq_error_iff.mp hs
    exact ⟨fun _ => rfl, fun hn => absurd (.inl hnull) hn⟩
  | ok o =>
    have hnull : '\x00' ∉ s.toList := fun h => by cases hs.symm.trans (parsed.error h)
    cases o with
    | none => exact .of_pure rfl (by rintro (h | ⟨e, ⟨⟩, -⟩); exact hnull h)
    | some e =>
      refine (h e hs).congr ⟨fun he => .inr ⟨e, rfl, he⟩, ?_⟩
      rintro (h | ⟨_, ⟨⟩, he⟩)
      · exact absurd h hnull
      · exact he

end Step

end Hint

namespace Declaration

variable {shape : Expr → HintM Shape} {p : Expr → Prop}

theorem fieldShapes_failsIff {fields : List (String × Expr)}
    (h : ∀ f ∈ fields, FailsIff (shape f.2) (p f.2)) :
    FailsIff (Declarations.fieldShapes shape fields) (∃ f ∈ fields, p f.2) := by
  rw [fieldShapes_mapM]
  exact .mapM fun f hf => (h f hf).map _

theorem expand_failsIff {d : Declaration} (h : ∀ e ∈ d.hints, FailsIff (shape e) (p e)) :
    FailsIff (d.expand shape) (∃ e ∈ d.hints, p e) := by
  cases d with
  | synonym value =>
    exact (h value (.head _)).congr (by simp [hints])
  | record fields =>
    refine ((fieldShapes_failsIff fun f hf => h _ ?_).map _).congr ?_
    · exact List.mem_map.mpr ⟨f, hf, rfl⟩
    · simp only [hints, List.mem_map, exists_exists_and_eq_and]
  | unknownClass => exact .of_pure rfl (by simp [hints])

end Declaration

namespace Declarations

open Hint (Meets Reads headName? parseQuoted)

/-- The hint needs a text, at any remove, that holds the null character. -/
def QuotesNull (t : Declarations) (e : Expr) : Prop :=
  ∃ s marked, Relation.ReflTransGen t.Needs e (.const (.str s marked)) ∧ '\x00' ∈ s.toList

/-- Such a text is met on the way of the resolution inside the declarations of some names, which are
not expanded again. -/
inductive Faulty (t : Declarations) : List String → Expr → Prop
  | null {active s marked} (h : '\x00' ∈ s.toList) : Faulty t active (.const (.str s marked))
  | read {active e e'} (h : Reads (fun n => (t.get? n).isSome) e e') (he : Faulty t active e') :
    Faulty t active e
  | quoted {active s marked e} (h : parseQuoted s = .ok (some e)) (he : Faulty t active e) :
    Faulty t active (.const (.str s marked))
  | declared {active e n d e'} (h : headName? e = some n) (hn : n ∉ active)
    (hd : t.get? n = some d) (hmem : e' ∈ d.hints) (he : Faulty t (n :: active) e') :
    Faulty t active e

variable {t : Declarations} {active : List String} {e e' : Expr} {n : String} {d : Declaration}

theorem faulty_iff_meets : t.Faulty active e ↔
    Meets (fun n => (t.get? n).isSome) (t.Faulty active)
      (fun n => n ∉ active ∧ ∃ d, t.get? n = some d ∧ ∃ e ∈ d.hints, t.Faulty (n :: active) e)
      (fun s => '\x00' ∈ s.toList ∨ ∃ e, parseQuoted s = .ok (some e) ∧ t.Faulty active e) e := by
  constructor
  · intro h
    cases h with
    | null h => exact .text (.inl h)
    | read h he => exact .read h he
    | quoted h he => exact .text (.inr ⟨_, h, he⟩)
    | declared h hn hd hmem he =>
      exact .name h (Option.isSome_of_eq_some hd) ⟨hn, _, hd, _, hmem, he⟩
  · rintro (⟨h, he⟩ | ⟨h, -, hn, d, hd, e', hmem, he⟩ | h | ⟨e', h, he⟩)
    · exact .read h he
    · exact .declared h hn hd hmem he
    · exact .null h
    · exact .quoted h he

/-- By induction along the queries. -/
theorem answer_failsIff :
    FailsIff (Query.answer t (.hint active e)) (t.Faulty active e) := by
  generalize hq : Query.hint active e = q
  induction q using (asks_wellFounded t).transGen.induction generalizing active e with
  | _ q ih =>
    subst hq
    rw [Query.answer_step, faulty_iff_meets]
    unfold Query.step
    dsimp only
    have level := @Hint.step_failsIff
      (fun n => (t.get? n).map fun _ => Query.answer t (.name active n))
    simp only [Option.isSome_map] at level
    refine level (fun e' he' => ?_) (fun n s hn hs => ?_) fun s m heq => ?_
    · exact ih _ (.single (.of_reads he')) rfl
    · obtain ⟨d, hd, rfl⟩ := Option.map_eq_some_iff.mp hs
      rw [answer_name hd]
      split
      · rename_i ha
        exact .of_pure rfl fun h => h.1 ha
      · rename_i ha
        refine (Declaration.expand_failsIff fun e' he' =>
          ih _ (.tail (.single (.expanded ha hd he')) (.name hn hd)) rfl).congr ?_
        refine ⟨fun h => ⟨ha, d, hd, h⟩, ?_⟩
        rintro ⟨-, d', hd', h⟩
        cases hd.symm.trans hd'
        exact h
    · subst heq
      rw [Query.answer_step]
      exact Hint.stepQuoted_failsIff fun e' he' => ih _ (.tail (.single (.parsed he')) .quoted) rfl

/-! ## Texts that are needed at any remove -/

theorem Faulty.quotesNull (h : t.Faulty active e) : t.QuotesNull e := by
  have before : ∀ {e e'}, t.Needs e e' → t.QuotesNull e' → t.QuotesNull e :=
    fun h ⟨s, marked, hneeds, hnull⟩ => ⟨s, marked, hneeds.head h, hnull⟩
  induction h with
  | null h => exact ⟨_, _, .refl, h⟩
  | read h _ ih => exact before (.read h) ih
  | quoted h _ ih => exact before (.quoted h) ih
  | declared h _ hd hmem _ ih => exact before (.declared h hd hmem) ih

/-- No hint in the declarations of the names is at fault where they are expanded, each inside those
that come after it. -/
def Expanded (t : Declarations) : List String → Prop
  | [] => True
  | n :: active =>
    (∀ d, t.get? n = some d → ∀ e ∈ d.hints, ¬t.Faulty (n :: active) e) ∧ t.Expanded active

theorem Expanded.of_mem (h : t.Expanded active) (hn : n ∈ active) :
    ∃ rest, t.Expanded (n :: rest) := by
  induction active with
  | nil => cases hn
  | cons m active ih =>
    rcases List.mem_cons.mp hn with rfl | hn
    · exact ⟨active, h⟩
    · exact ih h.2 hn

/-- What a hint needs that is not at fault is not at fault either, there or where the name has been
expanded that leads to it. -/
theorem Needs.spared (h : t.Needs e e') (hx : t.Expanded active) (he : ¬t.Faulty active e) :
    ∃ active', t.Expanded active' ∧ ¬t.Faulty active' e' := by
  cases h with
  | read h => exact ⟨active, hx, fun hf => he (.read h hf)⟩
  | quoted h => exact ⟨active, hx, fun hf => he (.quoted h hf)⟩
  | @declared _ n d _ h hd hmem =>
    by_cases hn : n ∈ active
    -- The name is cut here, which says nothing of its declaration; where it was expanded says all.
    · obtain ⟨rest, hrest⟩ := hx.of_mem hn
      exact ⟨n :: rest, hrest, hrest.1 d hd e' hmem⟩
    · have inner : ∀ d', t.get? n = some d' → ∀ e ∈ d'.hints, ¬t.Faulty (n :: active) e :=
        fun d' hd' e hmem hf => he (.declared h hn hd' hmem hf)
      exact ⟨n :: active, ⟨inner, hx⟩, inner d hd e' hmem⟩

theorem faulty_nil_iff : t.Faulty [] e ↔ t.QuotesNull e := by
  refine ⟨Faulty.quotesNull, ?_⟩
  rintro ⟨s, marked, hneeds, hnull⟩
  -- Were the hint not at fault, the text would not be, along the way that leads to it.
  by_contra he
  have spared : ∀ {e'}, Relation.ReflTransGen t.Needs e e' →
      ∃ active, t.Expanded active ∧ ¬t.Faulty active e' := by
    intro e' h
    induction h with
    | refl => exact ⟨[], trivial, he⟩
    | tail _ hlast ih =>
      obtain ⟨active, hx, hf⟩ := ih
      exact hlast.spared hx hf
  obtain ⟨active, -, hf⟩ := spared hneeds
  exact hf (.null hnull)

/-- The shape of a hint is at fault exactly if it needs a text with a null character. -/
theorem shapeOf_failsIff (t : Declarations) (e : Expr) :
    FailsIff (t.shapeOf e) (t.QuotesNull e) :=
  answer_failsIff.congr faulty_nil_iff

/-! ## Parameters -/

variable {hint documented : Option Expr} {s : Shape}

/-- A hint that says something stands before what is documented. -/
theorem resolve_known (h : t.shapeOf e = .ok s) (hs : s ≠ .unknown) :
    t.resolve (some e) documented = .ok s := by
  unfold resolve
  dsimp only
  rw [h]
  cases s with
  | unknown => exact absurd rfl hs
  | _ => rfl

/-- What is documented stands in for a hint that says nothing. -/
theorem resolve_unknown (h : ∀ e ∈ hint, t.shapeOf e = .ok .unknown) :
    t.resolve hint documented = documented.elim (pure .unknown) t.shapeOf := by
  unfold resolve
  cases hint with
  | none => cases documented <;> rfl
  | some e =>
    dsimp only
    rw [h e rfl]
    cases documented <;> rfl

theorem resolve_failsIff (t : Declarations) (hint documented : Option Expr) :
    FailsIff (t.resolve hint documented)
      ((∃ e ∈ hint, t.QuotesNull e) ∨
        (∀ e ∈ hint, t.shapeOf e = .ok .unknown) ∧ ∃ e ∈ documented, t.QuotesNull e) := by
  by_cases hu : ∀ e ∈ hint, t.shapeOf e = .ok .unknown
  · have hq : ¬∃ e ∈ hint, t.QuotesNull e := by
      rintro ⟨e, he, hnull⟩
      cases (hu e he).symm.trans ((t.shapeOf_failsIff e).error hnull)
    rw [resolve_unknown hu, or_iff_right hq, and_iff_right hu]
    cases documented with
    | none => exact .of_pure rfl nofun
    | some e => exact (t.shapeOf_failsIff e).congr (by simp)
  · rw [or_iff_left fun h => hu h.1]
    cases hint with
    | none => exact absurd nofun hu
    | some e =>
      refine FailsIff.congr (p := t.QuotesNull e) ?_ (by simp)
      have own := t.shapeOf_failsIff e
      cases hs : t.shapeOf e with
      | error f =>
        obtain ⟨rfl, hnull⟩ := own.eq_error_iff.mp hs
        refine ⟨fun _ => ?_, fun h => absurd hnull h⟩
        unfold resolve
        dsimp only
        rw [hs]
        rfl
      | ok s =>
        have known : s ≠ .unknown := by
          rintro rfl
          exact hu (by simpa using hs)
        rw [resolve_known hs known]
        refine .of_pure rfl fun hnull => ?_
        cases hs.symm.trans (own.error hnull)

end Declarations

end Exemplar
