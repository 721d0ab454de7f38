import Exemplar.Machine.Import
import Exemplar.Proofs.Exec

/-
  What computations of the machine leave alone. From one state to a later one (`State.Keeps`) no
  object changes its type, stand-ins for modules stay what they are, and so do the modules that have
  been imported. `Exec.Ends` says of a computation that it keeps the state in this sense and what
  holds at its end, whether it answers or stops. It has a rule for each way in which computations
  are put together, and a lemma for each way to raise an exception.

  Importing modules of the library changes no stand-in: new objects are made and names are put into
  modules only. The modules that have been imported are modules again (`genuine_ends`).
-/

namespace Exemplar.Machine

/-- A stand-in for a module as it is in the store. -/
def Object.standin (name : String) : Object :=
  { cls := .kind .stub, names := .own [("_name", .str name)] }

/-- A module that a program may really import. -/
def Object.IsModule (o : Object) : Prop := o.cls = .kind .module ∧ ∃ name, o.data = .module name

/-- One object as another one that has its type, and is a module if that is one. -/
def Object.Like (o o' : Object) : Prop := o'.cls = o.cls ∧ (o'.IsModule ↔ o.IsModule)

theorem Object.Like.refl (o : Object) : o.Like o := ⟨rfl, .rfl⟩

theorem Object.Like.trans {o o' o'' : Object} (h : o.Like o') (h' : o'.Like o'') : o.Like o'' :=
  ⟨h'.1.trans h.1, h'.2.trans h.2⟩

namespace State

/-- A value is an address that leads to a module. -/
def HasModule (s : State) (v : Value) : Prop :=
  ∃ a o, v = .object a ∧ s.objects[a]? = some o ∧ o.IsModule

/-- What has been imported are modules. -/
def Loaded (s : State) : Prop := ∀ m ∈ s.modules, s.HasModule m.2

/-- What is in the store stays where it is when something is put behind it. -/
theorem getElem?_push_of_eq {objects : Array Object} {a : Nat} {o : Object}
    (h : objects[a]? = some o) (o' : Object) : (objects.push o')[a]? = some o := by
  have hlt := (Array.getElem?_eq_some_iff.mp h).1
  rw [Array.getElem?_push_lt hlt, ← Array.getElem?_eq_getElem hlt, h]

structure Keeps (s s' : State) : Prop where
  types : ∀ {a : Nat} {o : Object}, s.objects[a]? = some o →
    ∃ o' : Object, s'.objects[a]? = some o' ∧ o.Like o'
  standins : ∀ {a : Nat} {n : String}, s.objects[a]? = some (Object.standin n) →
    s'.objects[a]? = some (Object.standin n)
  allowed : s'.allowed = s.allowed
  loaded : s.Loaded → s'.Loaded

namespace Keeps

variable {s s' s'' : State} {v : Value}

theorem refl (s : State) : s.Keeps s := ⟨fun h => ⟨_, h, .refl _⟩, id, rfl, id⟩

theorem trans (h : s.Keeps s') (h' : s'.Keeps s'') : s.Keeps s'' where
  types hs := by
    obtain ⟨o', hs', hlike⟩ := h.types hs
    obtain ⟨o'', hs'', hlike'⟩ := h'.types hs'
    exact ⟨o'', hs'', hlike.trans hlike'⟩
  standins hs := h'.standins (h.standins hs)
  allowed := h'.allowed.trans h.allowed
  loaded hs := h'.loaded (h.loaded hs)

theorem hasModule (h : s.Keeps s') : s.HasModule v → s'.HasModule v := by
  rintro ⟨a, o, rfl, ho, hmodule⟩
  obtain ⟨o', ho', hlike⟩ := h.types ho
  exact ⟨a, o', rfl, ho', hlike.2.mpr hmodule⟩

/-- Modules that have been imported stay modules while the store alone changes. -/
theorem of_objects (objects : Array Object)
    (htypes : ∀ {a : Nat} {o : Object}, s.objects[a]? = some o →
      ∃ o' : Object, objects[a]? = some o' ∧ o.Like o')
    (hstandins : ∀ {a : Nat} {n : String}, s.objects[a]? = some (Object.standin n) →
      objects[a]? = some (Object.standin n)) :
    s.Keeps { s with objects := objects } where
  types := htypes
  standins := hstandins
  allowed := rfl
  loaded hs m hm := by
    obtain ⟨a, o, heq, ho, hmodule⟩ := hs m hm
    obtain ⟨o', ho', hlike⟩ := htypes ho
    exact ⟨a, o', heq, ho', hlike.2.mpr hmodule⟩

theorem push (s : State) (o : Object) : s.Keeps { s with objects := s.objects.push o } :=
  of_objects _ (fun h => ⟨_, getElem?_push_of_eq h o, .refl _⟩) (getElem?_push_of_eq · o)

/-- A change of one object that is no stand-in and does not get another type. -/
theorem modify {a : Nat} {f : Object → Object} (hlike : ∀ o : Object, o.Like (f o))
    (hstandin : ∀ n, s.objects[a]? = some (.standin n) → f (.standin n) = .standin n) :
    s.Keeps { s with objects := s.objects.modify a f } := by
  refine of_objects _ (fun {b o} h => ?_) fun {b n} h => ?_
  · rw [Array.getElem?_modify, h]
    by_cases hab : a = b
    · exact ⟨f o, by rw [if_pos hab]; rfl, hlike o⟩
    · exact ⟨o, if_neg hab, .refl o⟩
  · rw [Array.getElem?_modify, h]
    by_cases hab : a = b
    · subst hab
      rw [if_pos rfl, Option.map_some, hstandin n h]
    · exact if_neg hab

/-- One more module that has been imported. -/
theorem load (path : String) (hv : s.HasModule v) :
    s.Keeps { s with modules := (path, v) :: s.modules } where
  types h := ⟨_, h, .refl _⟩
  standins := id
  allowed := rfl
  loaded hs m hm := by
    obtain rfl | hm := List.mem_cons.mp hm
    · exact hv
    · exact hs m hm

end Keeps

end State

namespace Exec

variable {α β : Type} {x : Exec α} {f : α → Exec β} {s t : State} {a : α}
  {Q Q₁ : α → State → Prop} {P : β → State → Prop} {R R₁ : Stop → State → Prop}

/-- A computation keeps the state, with what holds when it has answered and when it has stopped. -/
def Ends (x : Exec α) (s : State) (Q : α → State → Prop) (R : Stop → State → Prop) : Prop :=
  match x.run s with
  | .ok a s' => s.Keeps s' ∧ Q a s'
  | .error stop s' => s.Keeps s' ∧ R stop s'

/-- It answers. -/
abbrev Answers (x : Exec α) (s : State) (Q : α → State → Prop) : Prop :=
  Ends x s Q fun _ _ => False

/-- It may stop in any way. -/
abbrev Spares (x : Exec α) (s : State) (Q : α → State → Prop) : Prop :=
  Ends x s Q fun _ _ => True

theorem bind_run (h : x.run s = .ok a t) : (x >>= f).run s = (f a).run t := by
  change EStateM.bind x f s = _
  unfold EStateM.bind
  rw [show x s = .ok a t from h]
  rfl

namespace Ends

theorem mono (h : Ends x s Q₁ R₁) (hQ : ∀ a s', s.Keeps s' → Q₁ a s' → Q a s')
    (hR : ∀ stop s', s.Keeps s' → R₁ stop s' → R stop s') : Ends x s Q R := by
  unfold Ends at *
  cases hx : x.run s with
  | ok a s' =>
    rw [hx] at h
    exact ⟨h.1, hQ a s' h.1 h.2⟩
  | error stop s' =>
    rw [hx] at h
    exact ⟨h.1, hR stop s' h.1 h.2⟩

theorem spares (h : Ends x s Q R) : Spares x s Q := h.mono (fun _ _ _ => id) fun _ _ _ _ => trivial

theorem of_ok (h : Ends x s Q R) (hrun : x.run s = .ok a t) : s.Keeps t ∧ Q a t := by
  unfold Ends at h
  rwa [hrun] at h

theorem of_error {stop : Stop} (h : Ends x s Q R) (hrun : x.run s = .error stop t) :
    s.Keeps t ∧ R stop t := by
  unfold Ends at h
  rwa [hrun] at h

theorem exists_ok (h : Answers x s Q) : ∃ a t, x.run s = .ok a t ∧ s.Keeps t ∧ Q a t := by
  cases hrun : x.run s with
  | ok a t => exact ⟨a, t, rfl, h.of_ok hrun⟩
  | error stop t => exact (h.of_error hrun).2.elim

theorem raises (h : Ends x s (fun _ _ => False) R) : Ends x s Q R :=
  h.mono (fun _ _ _ => False.elim) fun _ _ _ => id

/-- The computation does the same as another one from the state. -/
theorem congr {y : Exec α} (h : x.run s = y.run s) (hy : Ends y s Q R) : Ends x s Q R := by
  unfold Ends at *
  rwa [h]

theorem ends (h : Answers x s Q) : Ends x s Q R := h.mono (fun _ _ _ => id) fun _ _ _ => False.elim

/-- The end of a computation that is known to answer. -/
theorem of_run (h : x.run s = .ok a t) (hk : s.Keeps t) (hQ : Q a t) : Ends x s Q R := by
  unfold Ends
  rw [h]
  exact ⟨hk, hQ⟩

theorem pure (hQ : Q a s) : Ends (Pure.pure a : Exec α) s Q R := of_run rfl (.refl s) hQ

theorem bind (hx : Ends x s Q R) (hf : ∀ a t, s.Keeps t → Q a t → Ends (f a) t P R) :
    Ends (x >>= f) s P R := by
  unfold Ends at hx ⊢
  cases h : x.run s with
  | error stop t =>
    rw [h] at hx
    rw [show (x >>= f).run s = .error stop t from bind_eq_error.mpr (.inl h)]
    exact hx
  | ok a t =>
    rw [h] at hx
    rw [bind_run h]
    have hend := hf a t hx.1 hx.2
    unfold Ends at hend
    split at hend
    · exact ⟨hx.1.trans hend.1, hend.2⟩
    · exact ⟨hx.1.trans hend.1, hend.2⟩

/-- A first part that only looks at the machine. -/
theorem bind_of_run (h : x.run s = .ok a s) (hf : Ends (f a) s P R) : Ends (x >>= f) s P R := by
  unfold Ends
  rw [bind_run h]
  exact hf

theorem bind_looks (h : Looks x) (hf : ∀ a, Ends (f a) s P R) : Ends (x >>= f) s P R := by
  obtain ⟨a, ha⟩ := h s
  exact bind_of_run ha (hf a)

theorem throw {stop : Stop} (hR : R stop s) : Ends (MonadExcept.throw stop : Exec α) s Q R :=
  ⟨.refl s, hR⟩

/-- What is raised goes to the handler. -/
theorem catching {h : Value → Exec α} {S : Stop → State → Prop} (hx : Ends x s Q S)
    (hraised : ∀ e t, s.Keeps t → S (.raised e) t → Ends (h e) t Q R)
    (hother : ∀ stop t, (∀ e, stop ≠ .raised e) → S stop t → R stop t) :
    Ends (Exec.catching x h) s Q R := by
  unfold Ends at hx
  cases hrun : x.run s with
  | ok a t =>
    rw [hrun] at hx
    exact of_run (catching_eq_ok.mpr (.inl hrun)) hx.1 hx.2
  | error stop t =>
    rw [hrun] at hx
    cases stop with
    | raised e =>
      have hend := hraised e t hx.1 hx.2
      unfold Ends at hend ⊢
      cases hh : (h e).run t with
      | ok a t' =>
        rw [hh] at hend
        rw [catching_eq_ok.mpr (.inr ⟨e, t, hrun, hh⟩)]
        exact ⟨hx.1.trans hend.1, hend.2⟩
      | error stop t' =>
        rw [hh] at hend
        rw [catching_eq_error.mpr (.inl ⟨e, t, hrun, hh⟩)]
        exact ⟨hx.1.trans hend.1, hend.2⟩
    | exhausted | exit =>
      unfold Ends
      rw [catching_eq_error.mpr (.inr ⟨hrun, nofun⟩)]
      exact ⟨hx.1, hother _ t nofun hx.2⟩

end Ends

/-! ## Objects -/

theorem newObject_ends (o : Object) : Answers (newObject o) s fun v s' =>
    v = .object s.objects.size ∧ s' = { s with objects := s.objects.push o } :=
  .of_run rfl (.push s o) ⟨rfl, rfl⟩

/-- A change of what an object holds, in which neither stand-ins nor modules take part. -/
theorem modifyData_ends (b : Nat) {g : Data → Data} (hplain : g .plain = .plain)
    (hmodule : ∀ d name, g d = .module name ↔ d = .module name) :
    Answers (modifyData b g) s fun _ _ => True := by
  refine .of_run rfl (.modify (fun o => ⟨rfl, ?_⟩) fun n _ => ?_) trivial
  · exact and_congr_right fun _ => exists_congr fun name => hmodule _ name
  · unfold Object.standin
    rw [hplain]

/-! ## Exceptions -/

theorem looks_incident (v : Value) : Looks (incident? v) := by
  unfold incident? data?
  cases v with
  | object b =>
    refine .bind (.map (.dataAt b)) fun d => ?_
    rcases d with _ | d
    · exact .pure
    · cases d <;> exact .pure
  | _ => exact fun _ => ⟨none, rfl⟩

theorem modifyIncident_ends (v : Value) (g : Incident → Incident) :
    Answers (modifyIncident v g) s fun _ _ => True := by
  cases v with
  | object b =>
    unfold modifyIncident
    exact modifyData_ends b rfl fun d name => by cases d <;> simp
  | _ => exact .pure trivial

theorem cutContext_ends (e : Value) (n : Nat) :
    ∀ v s, Answers (cutContext e n v) s fun _ _ => True := by
  induction n with
  | zero => exact fun _ _ => .pure trivial
  | succ n ih =>
    intro v s
    unfold cutContext
    refine .bind_looks (looks_incident v) fun x => ?_
    cases x with
    | none => exact .pure trivial
    | some x =>
      dsimp only
      split
      · exact modifyIncident_ends v _
      · exact ih _ _

/-- An exception is raised whatever is being handled. -/
theorem raiseValue_ends (e : Value) :
    Ends (raiseValue e : Exec α) s (fun _ _ => False) fun stop _ => stop = .raised e := by
  unfold raiseValue
  refine .bind_of_run (a := s) rfl ?_
  have last : ∀ t : State, Ends (MonadExcept.throw (.raised e) : Exec α) t (fun _ _ => False)
      fun stop _ => stop = .raised e := fun _ => .throw rfl
  dsimp only
  split
  · split
    · exact .bind (cutContext_ends e _ _ s).ends fun _ t _ _ =>
        .bind (modifyIncident_ends e _).ends fun _ _ _ _ => last _
    · exact last s
  · exact last s

/-- What is raised is a new exception of the class. -/
theorem raiseWith_ends (cls : String) (args : List Value) (parts : Fields) :
    Ends (raiseWith cls args parts : Exec α) s (fun _ _ => False) fun stop s' =>
      ∃ b o, stop = .raised (.object b) ∧ s'.objects[b]? = some o ∧
        o.cls = .kind (.exception cls) := by
  unfold raiseWith Exec.new
  refine .bind (newObject_ends _).ends ?_
  rintro _ t - ⟨rfl, rfl⟩
  refine (raiseValue_ends _).mono (fun _ _ _ => id) ?_
  rintro _ s' hk rfl
  obtain ⟨o, ho, hlike⟩ := hk.types (Array.getElem?_push_size)
  exact ⟨_, o, rfl, ho, hlike.1⟩

theorem raise_ends (cls text : String) :
    Ends (raise cls text : Exec α) s (fun _ _ => False) fun stop s' =>
      ∃ b o, stop = .raised (.object b) ∧ s'.objects[b]? = some o ∧
        o.cls = .kind (.exception cls) :=
  raiseWith_ends cls _ _

end Exec

/-! ## Imports -/

open Exec (Ends Answers Spares)

variable {s : State} {a : Nat} {v : Value}

namespace State.HasModule

/-- A module is no stand-in. -/
theorem ne_standin (h : s.HasModule (.object a)) (n : String) :
    s.objects[a]? ≠ some (.standin n) := by
  obtain ⟨b, o, ⟨⟩, ho, hcls, -⟩ := h
  intro hs
  rw [hs] at ho
  cases ho
  cases hcls

end State.HasModule

namespace Exec

theorem setNames_ends (names : Names) (h : ∀ n, s.objects[a]? ≠ some (.standin n)) :
    Answers (setNames a names) s fun _ _ => True :=
  .of_run rfl (.modify (fun _ => ⟨rfl, .rfl⟩) fun n hn => absurd hn (h n)) trivial

theorem new_ends (k : Kind) (d : Data) : Spares (new k d) s fun _ _ => True :=
  (newObject_ends _).mono (fun _ _ _ _ => trivial) fun _ _ _ => False.elim

theorem newModule_ends (names : Names) (name : String) :
    Answers (newObject { cls := .kind .module, names := names, data := .module name }) s
      fun v s' => s'.HasModule v :=
  .of_run rfl (.push s _) ⟨_, _, rfl, Array.getElem?_push_size, rfl, name, rfl⟩

theorem float_ends (x : Binary64) : Spares (float x) s fun _ _ => True := by
  unfold float
  split
  · exact .of_run rfl ⟨fun h => ⟨_, h, .refl _⟩, id, rfl, id⟩ trivial
  · exact .pure trivial

/-- A loop whose rounds keep the state. -/
theorem Ends.forIn {γ : Type} {body : γ → PUnit → Exec (ForInStep PUnit)} (xs : List γ) :
    ∀ s : State, (∀ x t, s.Keeps t → Spares (body x ⟨⟩) t fun r _ => r = .yield ⟨⟩) →
      Spares (ForIn.forIn xs PUnit.unit body) s fun _ _ => True := by
  induction xs with
  | nil => exact fun _ _ => .pure trivial
  | cons x xs ih =>
    intro s h
    rw [List.forIn_cons]
    refine .bind (h x s (.refl s)) ?_
    rintro _ t ht rfl
    exact ih t fun x u hu => h x u (ht.trans hu)

end Exec

namespace Typing

theorem putName_ends (name : String) (v : Value) (h : ∀ n, s.objects[a]? ≠ some (.standin n)) :
    Answers (putName a name v) s fun _ _ => True := by
  unfold putName
  refine .bind_of_run rfl ?_
  split
  · exact Exec.setNames_ends _ h
  · exact Exec.modifyData_ends _ rfl fun d name => by cases d <;> simp
  · exact Exec.setNames_ends _ h

end Typing

namespace Import

theorem values_ends (path : String) : Spares (Library.values path) s fun _ _ => True := by
  unfold Library.values
  split
  · exact .bind (Exec.float_ends _) fun _ _ _ _ => .pure trivial
  · exact .bind_of_run rfl (.bind (Exec.new_ends _ _) fun _ _ _ _ => .pure trivial)
  · exact .bind (Exec.new_ends _ _) fun _ _ _ _ =>
      .bind (Exec.new_ends _ _) fun _ _ _ _ => .pure trivial
  · exact .pure trivial

/-- By induction on the depth to which modules are loaded. -/
theorem load_ends (n : Nat) : ∀ (path : String) (s : State), s.Loaded →
    Spares (load n path) s fun v s' => v = .none ∨ s'.HasModule v := by
  induction n with
  | zero => exact fun _ _ _ => .pure (.inl rfl)
  | succ n ih =>
    intro path s hs
    unfold load
    refine .bind_of_run (a := s) rfl ?_
    cases hm : s.modules.lookup path with
    | some m =>
      obtain ⟨before, behind, heq, -⟩ := List.lookup_eq_some_iff.mp hm
      exact .pure (.inr (hs (path, m) (heq ▸ List.mem_append_right _ List.mem_cons_self)))
    | none =>
      refine .bind (values_ends path) fun values t ht _ => ?_
      refine .bind (Exec.newModule_ends _ _).ends fun m u hu hm => ?_
      refine .bind (Q := fun _ _ => True) (.of_run rfl (.load path hm) trivial) fun _ w hw _ => ?_
      have hsw := (ht.trans hu).trans hw
      refine .bind (.forIn _ w fun x t' ht' => ?_) fun _ t' ht' _ =>
        .pure (.inr ((hw.trans ht').hasModule hm))
      obtain ⟨a, o, rfl, -⟩ := id hm
      refine .bind (ih _ t' ((hsw.trans ht').loaded hs)) fun v u' hu' _ => ?_
      refine .bind (Typing.putName_ends _ _ ?_).ends fun _ _ _ _ => .pure rfl
      exact (((hw.trans ht').trans hu').hasModule hm).ne_standin

/-- By induction on the modules that a name leads through. -/
theorem loadAll_ends (paths : List String) : ∀ (parent : Option String) (s : State), s.Loaded →
    Spares (loadAll parent paths) s fun vs s' => ∀ v ∈ vs, v = .none ∨ s'.HasModule v := by
  induction paths with
  | nil => exact fun _ _ _ => .pure nofun
  | cons path rest ih =>
    intro parent s hs
    unfold loadAll
    split
    · exact (Exec.raiseWith_ends _ _ _).spares.raises
    · refine .bind (load_ends depth path s hs) fun m t ht hm => ?_
      have next : ∀ u, t.Keeps u → Spares (do return m :: (← loadAll (some path) rest)) u
          fun vs s' => ∀ v ∈ vs, v = .none ∨ s'.HasModule v := by
        refine fun u hu => .bind (ih _ u ((ht.trans hu).loaded hs)) fun vs w hw hvs => .pure ?_
        exact List.forall_mem_cons.mpr ⟨hm.imp id (hu.trans hw).hasModule, hvs⟩
      cases parent with
      | none => exact next t (.refl t)
      | some p =>
        dsimp only
        refine .bind (load_ends depth p t (ht.loaded hs)) fun m' u hu hm' => ?_
        split
        · have hmodule := hm'.resolve_left nofun
          exact .bind (Typing.putName_ends _ _ hmodule.ne_standin).ends fun _ w hw _ =>
            next w (hu.trans hw)
        · exact next u hu

/-- Importing a module of the library answers with a module or raises an exception. -/
theorem genuine_ends (name : String) (hasNames : Bool) (hs : s.Loaded) :
    Spares (genuine name hasNames) s fun v s' => v = .none ∨ s'.HasModule v := by
  unfold genuine
  have load : ∀ t : State, t.Loaded → Spares (do
      let ms ← loadAll none (prefixes (name.splitOn "."))
      pure ((if hasNames then ms.getLast? else ms.head?).getD .none)) t
      fun v s' => v = .none ∨ s'.HasModule v := by
    refine fun t ht => .bind (loadAll_ends _ none t ht) fun ms u _ hms => .pure ?_
    cases hm : (if hasNames then ms.getLast? else ms.head?) with
    | none => exact .inl rfl
    | some m =>
      refine hms m ?_
      split at hm
      · exact List.mem_of_getLast? hm
      · exact List.mem_of_head? hm
  dsimp only
  split
  · exact .bind (Exec.raise_ends _ _).spares fun _ _ _ h => h.elim
  · exact load s hs

end Import

end Exemplar.Machine
