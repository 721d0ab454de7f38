import Exemplar.Proofs.Exec
import Exemplar.Sandbox.Worker

/-
  What the worker answers, and what escapes it. A call that is no expression is answered as
  unreachable, a program that raises an exception as having thrown, and any other by the text of
  its value. Three things are not held back: the null character in the text of a call; an exception
  that is raised while the text of another one is made; and an exception that is raised while a
  value is written, if the stage of writing that meets it expects none of its kind
  (`perform_ends`).
-/

namespace Exemplar

open Machine Machine.Exec

/-! ## Writing a value -/

namespace Serial

variable {α : Type} {expected : Value → Exec Bool} {m : Exec α} {e : Engine} {v x : Value}
  {s s' : State}

theorem attempt_eq_ok (hx : ∀ x, Looks (expected x)) {o : Option α} :
    (attempt expected m).run s = .ok o s' ↔ (∃ a, m.run s = .ok a s' ∧ some a = o) ∨
      none = o ∧ ∃ x, m.run s = .error (.raised x) s' ∧ (expected x).run s' = .ok true s' := by
  unfold attempt
  simp only [catching_eq_ok, map_eq_ok, map_eq_error, Exec.bind_eq_ok]
  refine or_congr Iff.rfl ?_
  constructor
  · rintro ⟨x, t, hm, b, u, hb, h⟩
    obtain rfl := (hx x).same hb
    cases b with
    | false => exact absurd h throw_ne_ok
    | true =>
      obtain ⟨ho, rfl⟩ := Exec.pure_eq_ok.mp h
      exact ⟨ho, x, hm, hb⟩
  · rintro ⟨ho, x, hm, hb⟩
    exact ⟨x, s', hm, true, s', hb, Exec.pure_eq_ok.mpr ⟨ho, rfl⟩⟩

theorem attempt_raises (hx : ∀ x, Looks (expected x)) :
    (attempt expected m).run s = .error (.raised x) s' ↔
      m.run s = .error (.raised x) s' ∧ (expected x).run s' = .ok false s' := by
  unfold attempt
  simp only [catching_eq_error, map_eq_error, bind_eq_error]
  constructor
  · rintro (⟨y, t, hm, hb | ⟨b, u, hb, h⟩⟩ | ⟨-, h⟩)
    · exact absurd hb (hx y).ne_error
    · obtain rfl := (hx y).same hb
      cases b with
      | true => exact absurd h pure_ne_error
      | false =>
        obtain ⟨hxy, rfl⟩ := throw_eq_error.mp h
        cases hxy
        exact ⟨hm, hb⟩
    · exact absurd rfl (h x)
  · rintro ⟨hm, hb⟩
    exact .inl ⟨x, s', hm, .inr ⟨false, s', hb, rfl⟩⟩

theorem looks_isExpected (x : Value) : Looks (isExpected x) := by
  have any : ∀ names : List String, Looks (names.anyM (Typing.isError x)) := by
    intro names
    induction names with
    | nil => exact .pure
    | cons n ns ih =>
      rw [List.anyM]
      refine .bind (Typing.looks_isError n) fun b => ?_
      cases b with
      | true => exact .pure
      | false => exact ih
  exact any _

/-- An error of the ordinary kind, which ends no program. -/
def isOrdinary (x : Value) : Exec Bool := Typing.isError x "Exception"

/-- The first stage: the document that the value is. -/
def asDocument (e : Engine) (v : Value) : Exec String := document e refuse maxDepth [] v

/-- The second stage: a document in which what cannot be expressed is quoted. -/
def withQuotes (e : Engine) (v : Value) : Exec String :=
  document e (fun w => do return writeText (← e.quoted w)) maxDepth [] v

/-- Writing a value raises an exception that is not held back by the stage that meets it. -/
inductive Escapes (e : Engine) (v : Value) (s : State) (x : Value) (s' : State) : Prop
  | document (h : (asDocument e v).run s = .error (.raised x) s')
      (hx : (isExpected x).run s' = .ok false s')
  | quotedParts {y : Value} {t : State} (hfirst : (asDocument e v).run s = .error (.raised y) t)
      (hy : (isExpected y).run t = .ok true t)
      (h : (withQuotes e v).run t = .error (.raised x) s')
      (hx : (isOrdinary x).run s' = .ok false s')
  | quotedWhole {y z : Value} {t u : State}
      (hfirst : (asDocument e v).run s = .error (.raised y) t)
      (hy : (isExpected y).run t = .ok true t)
      (hsecond : (withQuotes e v).run t = .error (.raised z) u)
      (hz : (isOrdinary z).run u = .ok true u)
      (h : (e.quoted v).run u = .error (.raised x) s')
      (hx : (isOrdinary x).run s' = .ok false s')

/-- The last stage names the type of the value, which it only looks at. -/
theorem text_raises :
    (text e v).run s = .error (.raised x) s' ↔ Escapes e v s x s' := by
  have ordinary (y : Value) : Looks (isOrdinary y) := Typing.looks_isError _
  unfold text
  rw [bind_eq_error]
  constructor
  · rintro (h | ⟨o, t, hfirst, h⟩)
    · obtain ⟨h, hx⟩ := (attempt_raises looks_isExpected).mp h
      exact .document h hx
    · obtain ⟨a, -, rfl⟩ | ⟨rfl, y, hfirst, hy⟩ := (attempt_eq_ok looks_isExpected).mp hfirst
      · exact absurd h pure_ne_error
      · obtain h | ⟨o, u, hsecond, h⟩ := bind_eq_error.mp h
        · obtain ⟨h, hx⟩ := (attempt_raises ordinary).mp h
          exact .quotedParts hfirst hy h hx
        · obtain ⟨a, -, rfl⟩ | ⟨rfl, z, hsecond, hz⟩ := (attempt_eq_ok ordinary).mp hsecond
          · exact absurd h pure_ne_error
          · obtain h | ⟨o, w, hthird, h⟩ := bind_eq_error.mp h
            · obtain ⟨h, hx⟩ := (attempt_raises ordinary).mp h
              exact .quotedWhole hfirst hy hsecond hz h hx
            · cases o with
              | some a => exact absurd h pure_ne_error
              | none =>
                have named : Looks (do
                    let t ← Typing.of v
                    let n ← Typing.shortName t
                    return "<unrepresentable " ++ n ++ ">") :=
                  .bind Typing.looks_of fun _ => .bind Typing.looks_shortName fun _ => .pure
                exact absurd h named.ne_error
  · rintro (⟨h, hx⟩ | ⟨hfirst, hy, h, hx⟩ | ⟨hfirst, hy, hsecond, hz, h, hx⟩)
    · exact .inl ((attempt_raises looks_isExpected).mpr ⟨h, hx⟩)
    · refine .inr ⟨none, _, (attempt_eq_ok looks_isExpected).mpr (.inr ⟨rfl, _, hfirst, hy⟩), ?_⟩
      exact bind_eq_error.mpr (.inl ((attempt_raises ordinary).mpr ⟨h, hx⟩))
    · refine .inr ⟨none, _, (attempt_eq_ok looks_isExpected).mpr (.inr ⟨rfl, _, hfirst, hy⟩), ?_⟩
      refine bind_eq_error.mpr (.inr ⟨none, _, (attempt_eq_ok ordinary).mpr
        (.inr ⟨rfl, _, hsecond, hz⟩), ?_⟩)
      exact bind_eq_error.mpr (.inl ((attempt_raises ordinary).mpr ⟨h, hx⟩))

end Serial

/-! ## Working on a task -/

namespace Worker

variable {e : Engine} {code : Code} {call : Tree} {s s' : State} {a : Answer} {x : Value}

theorem answer_eq_ok : (answer e code call).run s = .ok a s' ↔
    (∃ v t shown, (compute e code call).run s = .ok v t ∧
      (Serial.text e v).run t = .ok shown s' ∧ a = .value shown) ∨
    ∃ y t message, (compute e code call).run s = .error (.raised y) t ∧
      (Show.describe e y).run t = .ok message s' ∧ a = .failure .thrown message := by
  unfold answer
  simp only [Exec.bind_eq_ok, catching_eq_ok, map_eq_ok, map_eq_error]
  constructor
  · rintro ⟨o, t, ⟨v, hrun, rfl⟩ | ⟨y, u, hrun, message, hmessage, rfl⟩, h⟩
    · obtain ⟨shown, w, hshown, h⟩ := Exec.bind_eq_ok.mp h
      obtain ⟨rfl, rfl⟩ := Exec.pure_eq_ok.mp h
      exact .inl ⟨v, t, shown, hrun, hshown, rfl⟩
    · obtain ⟨rfl, rfl⟩ := Exec.pure_eq_ok.mp h
      exact .inr ⟨y, u, message, hrun, hmessage, rfl⟩
  · rintro (⟨v, t, shown, hrun, hshown, rfl⟩ | ⟨y, t, message, hrun, hmessage, rfl⟩)
    · exact ⟨.inl v, t, .inl ⟨v, hrun, rfl⟩, Exec.bind_eq_ok.mpr ⟨shown, s', hshown, rfl⟩⟩
    · exact ⟨.inr message, s', .inr ⟨y, t, hrun, message, hmessage, rfl⟩, rfl⟩

theorem answer_raises : (answer e code call).run s = .error (.raised x) s' ↔
    (∃ v t, (compute e code call).run s = .ok v t ∧ Serial.Escapes e v t x s') ∨
    ∃ y t, (compute e code call).run s = .error (.raised y) t ∧
      (Show.describe e y).run t = .error (.raised x) s' := by
  unfold answer
  simp only [bind_eq_error, catching_eq_error, catching_eq_ok, map_eq_ok, map_eq_error]
  constructor
  · rintro ((⟨y, t, hrun, hraised⟩ | ⟨-, h⟩) | ⟨o, t, hrun, h⟩)
    · exact .inr ⟨y, t, hrun, hraised⟩
    · exact absurd rfl (h x)
    · obtain ⟨v, hrun, rfl⟩ | ⟨y, u, hrun, message, hmessage, rfl⟩ := hrun
      · obtain h | ⟨shown, w, -, h⟩ := bind_eq_error.mp h
        · exact .inl ⟨v, t, hrun, Serial.text_raises.mp h⟩
        · exact absurd h pure_ne_error
      · exact absurd h pure_ne_error
  · rintro (⟨v, t, hrun, h⟩ | ⟨y, t, hrun, hraised⟩)
    · exact .inr ⟨.inl v, t, .inl ⟨v, hrun, rfl⟩,
        bind_eq_error.mpr (.inl (Serial.text_raises.mpr h))⟩
    · exact .inl (.inl ⟨y, t, hrun, hraised⟩)

/-- The answers to a call that is made against some code in some state. -/
inductive Answers (text : String) (code : Code) (s : State) : Answer → Prop
  /-- The text is no expression. -/
  | unreachable {f : Syntax.SyntaxFault} (h : readCall text = .error (.inr f)) :
    Answers text code s (.failure .unreachable (f.about.name ++ ": " ++ f.text callFile))
  /-- The statements or the call raised an exception. -/
  | thrown {call : Tree} {x : Value} {t t' : State} {message : String}
      (hcall : readCall text = .ok call)
      (hrun : (compute Run.machine code call).run s = .error (.raised x) t)
      (hmessage : (Show.describe Run.machine x).run t = .ok message t') :
    Answers text code s (.failure .thrown message)
  | value {call : Tree} {v : Value} {t t' : State} {shown : String}
      (hcall : readCall text = .ok call)
      (hrun : (compute Run.machine code call).run s = .ok v t)
      (hshown : (Serial.text Run.machine v).run t = .ok shown t') :
    Answers text code s (.value shown)

/-- An exception escapes the work on a call. -/
inductive Escapes (text : String) (code : Code) (s : State) : Prop
  | nullCharacter (h : '\x00' ∈ text.toList)
  /-- An exception was raised, and making its text raised another one. -/
  | description {call : Tree} {x y : Value} {t t' : State} (hcall : readCall text = .ok call)
      (hrun : (compute Run.machine code call).run s = .error (.raised x) t)
      (hraised : (Show.describe Run.machine x).run t = .error (.raised y) t')
  /-- There was a value, and writing it raised an exception. -/
  | writing {call : Tree} {v x : Value} {t t' : State} (hcall : readCall text = .ok call)
      (hrun : (compute Run.machine code call).run s = .ok v t)
      (hraised : Serial.Escapes Run.machine v t x t')

theorem readCall_null {text : String} :
    (∃ r, readCall text = .error (.inl r)) ↔ '\x00' ∈ text.toList := by
  unfold readCall
  dsimp only
  split
  · rename_i h
    exact ⟨fun _ => List.contains_iff_mem.mp h, fun _ => ⟨_, rfl⟩⟩
  · rename_i h
    constructor
    · rintro ⟨r, hr⟩
      split at hr
      · cases hr
      · split at hr <;> cases hr
    · exact fun hmem => absurd (List.contains_iff_mem.mpr hmem) h

section Read

variable {text : String} (hcall : readCall text = .ok call)
include hcall

/-- What there is to answer to a call that is read is what answering it gives. -/
theorem answers_iff : Answers text code s a ↔
    ∃ s', (answer Run.machine code call).run s = .ok a s' := by
  simp only [answer_eq_ok]
  constructor
  · intro h
    cases h with
    | unreachable h => cases hcall.symm.trans h
    | thrown hread hrun hmessage =>
      cases hcall.symm.trans hread
      exact ⟨_, .inr ⟨_, _, _, hrun, hmessage, rfl⟩⟩
    | value hread hrun hshown =>
      cases hcall.symm.trans hread
      exact ⟨_, .inl ⟨_, _, _, hrun, hshown, rfl⟩⟩
  · rintro ⟨s', ⟨v, t, shown, hrun, hshown, rfl⟩ | ⟨y, t, message, hrun, hmessage, rfl⟩⟩
    · exact .value hcall hrun hshown
    · exact .thrown hcall hrun hmessage

/-- An exception escapes the work on a call that is read if answering it raises one. -/
theorem escapes_iff : Escapes text code s ↔
    ∃ x s', (answer Run.machine code call).run s = .error (.raised x) s' := by
  simp only [answer_raises]
  constructor
  · intro h
    cases h with
    | nullCharacter h =>
      obtain ⟨r, hr⟩ := readCall_null.mpr h
      cases hcall.symm.trans hr
    | description hread hrun hraised =>
      cases hcall.symm.trans hread
      exact ⟨_, _, .inr ⟨_, _, hrun, hraised⟩⟩
    | writing hread hrun hraised =>
      cases hcall.symm.trans hread
      exact ⟨_, _, .inl ⟨_, _, hrun, hraised⟩⟩
  · rintro ⟨x, s', ⟨v, t, hrun, hraised⟩ | ⟨y, t, hrun, hraised⟩⟩
    · exact .writing hcall hrun hraised
    · exact .description hcall hrun hraised

end Read

/-- How the work ends on a task whose code could be read and whose imports are known. It ends in an
answer exactly when there is one to give, and an exception escapes it exactly for the three
reasons. -/
theorem perform_ends {t : Task} {code : Code} {allowed : List String} (hcode : t.code = .ok code)
    (hallowed : t.allowedImports = .ok allowed) :
    (∀ a, (perform t).1 = .answered a ↔ Answers t.call code (start t allowed) a) ∧
      ((∃ r, (perform t).1 = .raised r) ↔ Escapes t.call code (start t allowed)) := by
  unfold perform
  rw [hcode, hallowed]
  cases hcall : readCall t.call with
  | error f =>
    have unread : ∀ {call : Tree}, readCall t.call ≠ .ok call := by
      intro call h
      cases hcall.symm.trans h
    cases f with
    | inl r =>
      refine ⟨fun a => ⟨nofun, fun h => ?_⟩, fun _ => ?_, fun _ => ⟨r, rfl⟩⟩
      · cases h with
        | unreachable h => cases hcall.symm.trans h
        | thrown h | value h => exact absurd h unread
      · exact .nullCharacter (readCall_null.mp ⟨r, hcall⟩)
    | inr f =>
      refine ⟨fun a => ⟨fun h => ?_, fun h => ?_⟩, nofun, fun h => ?_⟩
      · cases h
        exact .unreachable hcall
      · cases h with
        | unreachable h =>
          cases hcall.symm.trans h
          rfl
        | thrown h | value h => exact absurd h unread
      · cases h with
        | nullCharacter h =>
          obtain ⟨r, hr⟩ := readCall_null.mpr h
          cases hcall.symm.trans hr
        | description h | writing h => exact absurd h unread
  | ok call =>
    simp only [answers_iff hcall, escapes_iff hcall]
    cases (answer Run.machine code call).run (start t allowed) with
    | ok b u =>
      refine ⟨fun a => ⟨?_, ?_⟩, nofun, nofun⟩
      · rintro ⟨⟩
        exact ⟨u, rfl⟩
      · rintro ⟨_, ⟨⟩⟩
        rfl
    | error stop u =>
      cases stop with
      | raised x => exact ⟨fun a => ⟨nofun, nofun⟩, fun _ => ⟨x, u, rfl⟩, fun _ => ⟨_, rfl⟩⟩
      | exhausted | exit => exact ⟨fun a => ⟨nofun, nofun⟩, nofun, nofun⟩

/-- A call whose text is the null character, against a module without statements. -/
def nullTask : Task := { call := "\x00", code := .ok (Compile.file true []) }

theorem perform_ends_nullTask :
    nullTask.code = .ok (Compile.file true []) ∧ nullTask.allowedImports = .ok [] ∧
      (∃ r, (perform nullTask).1 = .raised r) ∧ ∀ a, (perform nullTask).1 ≠ .answered a := by
  have ends := perform_ends (t := nullTask) rfl rfl
  obtain ⟨r, hr⟩ := ends.2.mpr (.nullCharacter (by decide))
  exact ⟨rfl, rfl, ⟨r, hr⟩, fun a ha => by cases hr.symm.trans ha⟩

end Worker

end Exemplar
