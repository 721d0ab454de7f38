/-
  Computations that answer or fail: what they answer is what their parts answer.
-/

namespace Exemplar

variable {ε α β : Type}

theorem bind_eq_ok {x : Except ε α} {f : α → Except ε β} {b : β} :
    x >>= f = .ok b ↔ ∃ a, x = .ok a ∧ f a = .ok b := by
  cases x with
  | error e => exact ⟨nofun, fun ⟨a, ha, _⟩ => by cases ha⟩
  | ok a =>
    constructor
    · exact fun h => ⟨a, rfl, h⟩
    · rintro ⟨a', ha, h⟩
      cases ha
      exact h

theorem pure_eq_ok {a b : α} : (pure a : Except ε α) = .ok b ↔ a = b :=
  ⟨Except.ok.inj, congrArg Except.ok⟩

/-- A fold that answers does so on every stretch of its list. -/
theorem foldlM_within {f : β → α → Except ε β} {l : List α} {b b' : β}
    (h : l.foldlM f b = .ok b') {m : List α} (hm : m <:+: l) : ∃ c c', m.foldlM f c = .ok c' := by
  obtain ⟨s, t, rfl⟩ := hm
  rw [List.foldlM_append, bind_eq_ok] at h
  obtain ⟨c', h, -⟩ := h
  rw [List.foldlM_append, bind_eq_ok] at h
  obtain ⟨c, -, h⟩ := h
  exact ⟨c, c', h⟩

end Exemplar
