import Exemplar.Machine.Typing

/-
  Runs of computations of the machine, taken apart: what a sequence, an image and a computation
  with a handler answer or stop with, by the runs of their parts. Questions about types only look at
  the machine (`Looks`), so they answer and leave it as it is.
-/

namespace Exemplar.Machine

namespace Exec

variable {α β : Type} {x : Exec α} {f : α → Exec β} {g : α → β} {h : Value → Exec α}
  {s s' : State} {a a' : α} {b : β} {stop : Stop}

theorem pure_eq_ok : (pure a : Exec α).run s = .ok a' s' ↔ a = a' ∧ s = s' := by
  constructor
  · rintro ⟨⟩
    exact ⟨rfl, rfl⟩
  · rintro ⟨rfl, rfl⟩
    rfl

theorem pure_ne_error : (pure a : Exec α).run s ≠ .error stop s' := nofun

theorem throw_eq_error {stop' : Stop} :
    (throw stop : Exec α).run s = .error stop' s' ↔ stop = stop' ∧ s = s' := by
  constructor
  · rintro ⟨⟩
    exact ⟨rfl, rfl⟩
  · rintro ⟨rfl, rfl⟩
    rfl

theorem throw_ne_ok : (throw stop : Exec α).run s ≠ .ok a s' := nofun

theorem bind_eq_ok : (x >>= f).run s = .ok b s' ↔
    ∃ a t, x.run s = .ok a t ∧ (f a).run t = .ok b s' := by
  change EStateM.bind x f s = .ok b s' ↔ _
  unfold EStateM.bind EStateM.run
  cases x s with
  | ok a t =>
    constructor
    · exact fun h => ⟨a, t, rfl, h⟩
    · rintro ⟨_, _, ⟨⟩, h⟩
      exact h
  | error e t => exact ⟨nofun, nofun⟩

theorem bind_eq_error : (x >>= f).run s = .error stop s' ↔
    x.run s = .error stop s' ∨ ∃ a t, x.run s = .ok a t ∧ (f a).run t = .error stop s' := by
  change EStateM.bind x f s = .error stop s' ↔ _
  unfold EStateM.bind EStateM.run
  cases x s with
  | ok a t =>
    constructor
    · exact fun h => .inr ⟨a, t, rfl, h⟩
    · rintro (⟨⟨⟩⟩ | ⟨_, _, ⟨⟩, h⟩)
      exact h
  | error e t =>
    constructor
    · rintro ⟨⟩
      exact .inl rfl
    · rintro (⟨⟨⟩⟩ | ⟨_, _, ⟨⟩, _⟩)
      rfl

theorem map_eq_ok : (g <$> x).run s = .ok b s' ↔ ∃ a, x.run s = .ok a s' ∧ g a = b := by
  change EStateM.map g x s = .ok b s' ↔ _
  unfold EStateM.map EStateM.run
  cases x s with
  | ok a t =>
    constructor
    · rintro ⟨⟩
      exact ⟨a, rfl, rfl⟩
    · rintro ⟨_, ⟨⟩, rfl⟩
      rfl
  | error e t => exact ⟨nofun, nofun⟩

theorem map_eq_error : (g <$> x).run s = .error stop s' ↔ x.run s = .error stop s' := by
  change EStateM.map g x s = .error stop s' ↔ _
  unfold EStateM.map EStateM.run
  cases x s with
  | ok a t => exact ⟨nofun, nofun⟩
  | error e t =>
    constructor
    · rintro ⟨⟩
      rfl
    · rintro ⟨⟩
      rfl

/-- A computation with a handler answers if it does so itself or raises what the handler answers
for. -/
theorem catching_eq_ok : (catching x h).run s = .ok a s' ↔
    x.run s = .ok a s' ∨ ∃ e t, x.run s = .error (.raised e) t ∧ (h e).run t = .ok a s' := by
  change EStateM.tryCatch x _ s = .ok a s' ↔ _
  unfold EStateM.tryCatch EStateM.run
  cases x s with
  | ok a t => exact ⟨.inl, fun h => h.elim id nofun⟩
  | error stop t =>
    cases stop with
    | raised e =>
      constructor
      · exact fun h => .inr ⟨e, t, rfl, h⟩
      · rintro (⟨⟨⟩⟩ | ⟨_, _, ⟨⟩, h⟩)
        exact h
    | exhausted | exit => exact ⟨nofun, nofun⟩

/-- A computation with a handler stops if the handler does so on what is raised, or if the
computation stops without an exception. -/
theorem catching_eq_error : (catching x h).run s = .error stop s' ↔
    (∃ e t, x.run s = .error (.raised e) t ∧ (h e).run t = .error stop s') ∨
      x.run s = .error stop s' ∧ ∀ e, stop ≠ .raised e := by
  change EStateM.tryCatch x _ s = .error stop s' ↔ _
  unfold EStateM.tryCatch EStateM.run
  cases x s with
  | ok a t => exact ⟨nofun, nofun⟩
  | error stop' t =>
    cases stop' with
    | raised e =>
      constructor
      · exact fun h => .inl ⟨e, t, rfl, h⟩
      · rintro (⟨_, _, ⟨⟩, h⟩ | ⟨⟨⟩, h⟩)
        · exact h
        · exact absurd rfl (h e)
    | exhausted | exit =>
      constructor
      · rintro ⟨⟩
        exact .inr ⟨rfl, nofun⟩
      · rintro (⟨_, _, ⟨⟩, _⟩ | ⟨⟨⟩, _⟩)
        rfl

/-! ## Looking at the machine -/

/-- The computation answers, whatever state the machine is in, and leaves it in that. -/
def Looks (x : Exec α) : Prop := ∀ s, ∃ a, x.run s = .ok a s

namespace Looks

theorem pure : Looks (Pure.pure a : Exec α) := fun _ => ⟨a, rfl⟩

theorem get : Looks (MonadState.get : Exec State) := fun s => ⟨s, rfl⟩

theorem bind (hx : Looks x) (hf : ∀ a, Looks (f a)) : Looks (x >>= f) := by
  intro s
  obtain ⟨a, ha⟩ := hx s
  obtain ⟨b, hb⟩ := hf a s
  exact ⟨b, bind_eq_ok.mpr ⟨a, s, ha, hb⟩⟩

theorem map (hx : Looks x) : Looks (g <$> x) := by
  intro s
  obtain ⟨a, ha⟩ := hx s
  exact ⟨g a, map_eq_ok.mpr ⟨a, ha, rfl⟩⟩

theorem object (a : Nat) : Looks (Exec.object a) := .bind .get fun _ => .pure

theorem dataAt (a : Nat) : Looks (Exec.dataAt a) := .bind .get fun _ => .pure

theorem ne_error (hx : Looks x) : x.run s ≠ .error stop s' := by
  obtain ⟨a, ha⟩ := hx s
  rw [ha]
  exact nofun

theorem same (hx : Looks x) (h : x.run s = .ok a s') : s' = s := by
  obtain ⟨a, ha⟩ := hx s
  rw [ha] at h
  cases h
  rfl

end Looks

end Exec

namespace Typing

open Exec (Looks)

variable {v t other : Value}

theorem looks_of : Looks (of v) := by
  cases v with
  | object a => exact .bind (.object a) fun _ => .pure
  | _ => exact .pure

theorem looks_class : Looks (class? t) := by
  cases t with
  | object a =>
    refine .bind (.dataAt a) fun d => ?_
    cases d <;> exact .pure
  | _ => exact .pure

theorem looks_name : Looks (name t) := by
  cases t with
  | kind k => exact .pure
  | _ => exact .bind looks_class fun _ => .pure

theorem looks_word : Looks (word v) := .bind looks_of fun _ => looks_name

theorem looks_shortName : Looks (shortName t) := by
  cases t with
  | kind k => exact .pure
  | _ => exact .bind looks_class fun _ => .pure

theorem looks_lineage : Looks (lineage t) := by
  cases t with
  | kind k => exact .pure
  | _ => exact .bind looks_class fun _ => .pure

theorem looks_extends : Looks (extends? t other) := by
  unfold extends?
  split
  · exact .pure
  · split
    · exact .pure
    · exact .bind looks_lineage fun _ => .pure

theorem looks_isA {k : Kind} : Looks (isA v k) := by
  unfold isA
  refine .bind looks_of fun t => ?_
  split
  · exact .pure
  · exact looks_extends

theorem looks_isError (cls : String) : Looks (isError v cls) := looks_isA

end Typing

end Exemplar.Machine
