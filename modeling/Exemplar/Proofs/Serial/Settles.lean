import Exemplar.Proofs.Standin.Answers

/-
  Computations that change nothing that a value is made of. From one state to a later one
  (`State.Retains`) the objects that there are stay what they are, but that an exception may get
  another one as its context; and so do the variables that functions share.

  `Exec.Settles` says of a computation that it retains the state in this sense, whether it answers
  or raises an exception, and which of the two it does. It may stop without an exception in certain
  ways only, for which a predicate stands. It has a rule for each way in which computations are put
  together, and one for raising an exception of a class.
-/

namespace Exemplar.Machine

/-- An object as it was, up to the context of an exception. -/
def Object.Same (o o' : Object) : Prop :=
  o' = o ∨ ∃ x c, o.data = .exception x ∧
    o' = { o with data := .exception { x with context := c } }

namespace Object.Same

variable {o o' o'' : Object}

theorem refl (o : Object) : o.Same o := .inl rfl

theorem trans (h : o.Same o') (h' : o'.Same o'') : o.Same o'' := by
  obtain rfl | ⟨x, c, hx, rfl⟩ := h
  · exact h'
  · obtain rfl | ⟨y, d, hy, rfl⟩ := h'
    · exact .inr ⟨x, c, hx, rfl⟩
    · cases hy
      exact .inr ⟨x, d, hx, rfl⟩

theorem cls_eq (h : o.Same o') : o'.cls = o.cls := by
  obtain rfl | ⟨x, c, hx, rfl⟩ := h <;> rfl

/-- What is no exception stays as it was. -/
theorem eq (h : o.Same o') (ho : ∀ x, o.data ≠ .exception x) : o' = o :=
  h.resolve_right fun ⟨x, _, hx, _⟩ => ho x hx

end Object.Same

namespace State

structure Retains (s t : State) : Prop where
  objects : ∀ {a : Nat} {o : Object}, s.objects[a]? = some o →
    ∃ o' : Object, t.objects[a]? = some o' ∧ o.Same o'
  cells : ∀ {i : Nat} {c : Option Value}, s.cells[i]? = some c → t.cells[i]? = some c

namespace Retains

variable {s t u : State}

theorem refl (s : State) : s.Retains s := ⟨fun h => ⟨_, h, .refl _⟩, id⟩

theorem trans (h : s.Retains t) (h' : t.Retains u) : s.Retains u where
  objects ha := by
    obtain ⟨o, ho, hsame⟩ := h.objects ha
    obtain ⟨o', ho', hsame'⟩ := h'.objects ho
    exact ⟨o', ho', hsame.trans hsame'⟩
  cells hi := h'.cells (h.cells hi)

/-- An object that is no exception is found as it was. -/
theorem object {a : Nat} {o : Object} (h : s.Retains t) (ho : s.objects[a]? = some o)
    (hdata : ∀ x, o.data ≠ .exception x) : t.objects[a]? = some o := by
  obtain ⟨o', ho', hsame⟩ := h.objects ho
  rw [ho', hsame.eq hdata]

end Retains

/-- What is there stays, and the containers whose text is being made are those that were. -/
structure Leaves (s t : State) : Prop extends s.Retains t where
  shown : t.shown = s.shown

namespace Leaves

variable {s t u : State}

theorem refl (s : State) : s.Leaves s := ⟨.refl s, rfl⟩

theorem trans (h : s.Leaves t) (h' : t.Leaves u) : s.Leaves u :=
  ⟨h.toRetains.trans h'.toRetains, h'.shown.trans h.shown⟩

theorem push (s : State) (o : Object) : s.Leaves { s with objects := s.objects.push o } :=
  ⟨⟨fun h => ⟨_, getElem?_push_of_eq h o, .refl _⟩, id⟩, rfl⟩

/-- A change of one object. -/
theorem modify {a : Nat} {f : Object → Object} (h : ∀ o : Object, o.Same (f o)) :
    s.Leaves { s with objects := s.objects.modify a f } := by
  refine ⟨⟨fun {b o} ho => ?_, id⟩, rfl⟩
  rw [Array.getElem?_modify, ho]
  by_cases hab : a = b
  · exact ⟨f o, by rw [if_pos hab]; rfl, h o⟩
  · exact ⟨o, if_neg hab, .refl o⟩

end Leaves

end State

namespace Exec

variable {α β : Type} {x : Exec α} {f : α → Exec β} {s t : State} {a : α} {r : Option α}
  {P : Stop → Prop} {B B' : Value → State → Prop}

/-- A computation settles to an answer, or to none if it raises an exception, which is then as `B`
says. `P` says how else it may stop. -/
def Settles (P : Stop → Prop) (B : Value → State → Prop) (x : Exec α) (s : State) (r : Option α) :
    Prop :=
  match x.run s with
  | .ok a t => s.Leaves t ∧ r = some a
  | .error (.raised e) t => s.Leaves t ∧ r = none ∧ B e t
  | .error stop _ => P stop

namespace Settles

theorem of_run (h : x.run s = .ok a t) (ht : s.Leaves t) : Settles P B x s (some a) := by
  unfold Settles
  rw [h]
  exact ⟨ht, rfl⟩

theorem of_raised {e : Value} (h : x.run s = .error (.raised e) t) (ht : s.Leaves t) (he : B e t) :
    Settles P B x s none := by
  unfold Settles
  rw [h]
  exact ⟨ht, rfl, he⟩

theorem pure : Settles P B (Pure.pure a : Exec α) s (some a) := of_run rfl (.refl s)

/-- The ways in which a computation that settles ends. -/
theorem cases (h : Settles P B x s r) :
    (∃ a t, x.run s = .ok a t ∧ s.Leaves t ∧ r = some a) ∨
    (∃ e t, x.run s = .error (.raised e) t ∧ s.Leaves t ∧ r = none ∧ B e t) ∨
    ∃ stop t, x.run s = .error stop t ∧ (∀ e, stop ≠ .raised e) ∧ P stop := by
  unfold Settles at h
  cases hx : x.run s with
  | ok a t =>
    rw [hx] at h
    exact .inl ⟨a, t, rfl, h⟩
  | error stop t =>
    rw [hx] at h
    cases stop with
    | raised e => exact .inr (.inl ⟨e, t, rfl, h⟩)
    | exhausted | exit => exact .inr (.inr ⟨_, t, rfl, nofun, h⟩)

theorem of_stop {stop : Stop} (h : x.run s = .error stop t) (hstop : ∀ e, stop ≠ .raised e)
    (hP : P stop) : Settles P B x s r := by
  unfold Settles
  rw [h]
  cases stop with
  | raised e => exact absurd rfl (hstop e)
  | exhausted | exit => exact hP

/-- The parts of a sequence, the second from the state that the first has left. -/
theorem bind {g : α → Option β} (hx : Settles P B x s r)
    (hf : ∀ a t, r = some a → s.Leaves t → Settles P B (f a) t (g a)) :
    Settles P B (x >>= f) s (r.bind g) := by
  obtain ⟨a, t, hrun, ht, rfl⟩ | ⟨e, t, hrun, ht, rfl, he⟩ | ⟨stop, t, hrun, hstop, hP⟩ := hx.cases
  · obtain ⟨b, u, hrun', hu, hb⟩ | ⟨e, u, hrun', hu, hb, he⟩ | ⟨stop, u, hrun', hstop, hP⟩ :=
      (hf a t rfl ht).cases
    · rw [Option.bind_some, hb]
      exact of_run (bind_eq_ok.mpr ⟨a, t, hrun, hrun'⟩) (ht.trans hu)
    · rw [Option.bind_some, hb]
      exact of_raised (bind_eq_error.mpr (.inr ⟨a, t, hrun, hrun'⟩)) (ht.trans hu) he
    · exact of_stop (bind_eq_error.mpr (.inr ⟨a, t, hrun, hrun'⟩)) hstop hP
  · exact of_raised (bind_eq_error.mpr (.inl hrun)) ht he
  · exact of_stop (bind_eq_error.mpr (.inl hrun)) hstop hP

/-- A value that is made of the answer of a computation. -/
theorem bind_pure {g : α → β} (hx : Settles P B x s r) :
    Settles P B (x >>= fun a => Pure.pure (g a)) s (r.map g) := by
  rw [Option.map_eq_bind]
  exact hx.bind fun _ _ _ _ => pure

/-- A first part that only looks at the machine. -/
theorem bind_of_run {q : Option β} (h : x.run s = .ok a s) (hf : Settles P B (f a) s q) :
    Settles P B (x >>= f) s q := by
  unfold Settles
  rw [bind_run h]
  exact hf

theorem bind_looks {q : Option β} (h : Looks x) (hf : ∀ a, Settles P B (f a) s q) :
    Settles P B (x >>= f) s q := by
  obtain ⟨a, ha⟩ := h s
  exact bind_of_run ha (hf a)

/-- A computation for each item of a list, each from the state that those before it have left. -/
theorem mapM {γ : Type} {f : γ → Exec β} {g : γ → Option β} (xs : List γ)
    (h : ∀ x ∈ xs, ∀ t, s.Leaves t → Settles P B (f x) t (g x)) :
    Settles P B (xs.mapM f) s (xs.mapM g) := by
  induction xs generalizing s with
  | nil => exact pure
  | cons x xs ih =>
    rw [List.mapM_cons, List.mapM_cons]
    refine bind (h x (.head _) s (.refl s)) fun y t _ ht => ?_
    refine bind (ih fun z hz u hu => h z (.tail _ hz) u (ht.trans hu)) fun ys u _ hu => ?_
    exact pure

end Settles

/-! ## Raising exceptions -/

/-- A change of the context of an exception. -/
theorem modifyIncident_leaves (v : Value) (c : Value) :
    ∃ t, (modifyIncident v fun x => { x with context := c }).run s = .ok ⟨⟩ t ∧ s.Leaves t := by
  cases v with
  | object b =>
    refine ⟨_, rfl, .modify fun o => ?_⟩
    cases hdata : o.data with
    | exception x => exact .inr ⟨x, c, hdata, rfl⟩
    | _ => exact .inl (by simp [← hdata])
  | _ => exact ⟨s, rfl, .refl s⟩

theorem cutContext_leaves (e : Value) (n : Nat) :
    ∀ v s, ∃ t, (cutContext e n v).run s = .ok ⟨⟩ t ∧ s.Leaves t := by
  induction n with
  | zero => exact fun _ s => ⟨s, rfl, .refl s⟩
  | succ n ih =>
    intro v s
    unfold cutContext
    obtain ⟨x, hx⟩ := looks_incident v s
    rw [bind_run hx]
    cases x with
    | none => exact ⟨s, rfl, .refl s⟩
    | some x =>
      dsimp only
      split
      · exact modifyIncident_leaves v .none
      · exact ih _ _

theorem raiseValue_leaves (e : Value) :
    ∃ t, (raiseValue e : Exec α).run s = .error (.raised e) t ∧ s.Leaves t := by
  unfold raiseValue
  rw [bind_run (x := get) (t := s) rfl]
  cases s.handled with
  | nil => exact ⟨s, rfl, .refl s⟩
  | cons h hs =>
    dsimp only
    split
    · obtain ⟨t, ht, hst⟩ := cutContext_leaves e 1000 h s
      obtain ⟨u, hu, htu⟩ := modifyIncident_leaves (s := t) e h
      exact ⟨u, by rw [bind_run ht, bind_run hu]; rfl, hst.trans htu⟩
    · exact ⟨s, rfl, .refl s⟩

/-- Exceptions of a class are as the predicate says. -/
def Admits (B : Value → State → Prop) (cls : String) : Prop :=
  ∀ a t o, t.objects[a]? = some o → o.cls = .kind (.exception cls) → B (.object a) t

namespace Settles

theorem raise {cls text : String} (hB : Admits B cls) :
    Settles P B (raise cls text : Exec α) s none := by
  let o : Object := { cls := .kind (.exception cls), data := .exception { args := [.str text] } }
  let t : State := { s with objects := s.objects.push o }
  obtain ⟨u, hu, htu⟩ := raiseValue_leaves (α := α) (s := t) (.object s.objects.size)
  obtain ⟨o', ho', hsame⟩ := htu.objects (a := s.objects.size) (o := o) Array.getElem?_push_size
  refine of_raised (t := u) hu ((State.Leaves.push s o).trans htu) ?_
  exact hB _ _ _ ho' hsame.cls_eq

end Settles

/-- Classes of the exceptions that making texts raises by itself. -/
def textErrors : List String := ["TypeError", "ValueError", "RecursionError"]

/-- Exceptions of these classes are as the predicate says. -/
def AdmitsErrors (B : Value → State → Prop) : Prop := ∀ cls ∈ textErrors, Admits B cls

theorem tryCatch_ok {x : Exec α} {h : Stop → Exec α} (hx : x.run s = .ok a t) :
    (tryCatch x h).run s = .ok a t := by
  change EStateM.tryCatch x h s = _
  unfold EStateM.tryCatch
  rw [show x s = .ok a t from hx]

theorem tryCatch_error {x : Exec α} {h : Stop → Exec α} {stop : Stop}
    (hx : x.run s = .error stop t) : (tryCatch x h).run s = (h stop).run t := by
  change EStateM.tryCatch x h s = _
  unfold EStateM.tryCatch
  rw [show x s = .error stop t from hx]
  rfl

theorem data?_run {a : Nat} {o : Object} (ho : s.objects[a]? = some o) :
    (data? (.object a)).run s = .ok (some o.data) s := map_eq_ok.mpr ⟨_, dataAt_run ho, rfl⟩

end Exec

theorem Typing.unboxed_run {s : State} {a : Nat} {o : Object} (ho : s.objects[a]? = some o)
    (hdata : ∀ w, o.data ≠ .boxed w) : (unboxed (.object a)).run s = .ok (.object a) s := by
  unfold unboxed
  dsimp only
  rw [Exec.bind_run (Exec.dataAt_run ho)]
  cases hd : o.data with
  | boxed w => exact absurd hd (hdata w)
  | _ => rfl

end Exemplar.Machine
