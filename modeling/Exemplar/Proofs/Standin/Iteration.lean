import Exemplar.Proofs.Standin.Decorators
import Exemplar.Proofs.Standin.Endless

/-
  Iteration over a stand-in as programs write it. A stand-in has an item at every place, and its
  iterator never comes to an end; so a list of its items is not made, a starred target is not
  filled, a search for anything that differs from it is not given up, and a `for` loop takes turn
  after turn unless its body leaves it. Each of these is stopped only when the program has no steps
  left, however many it had (`Exec.Endless`). Taking a stand-in apart into a fixed number of items
  ends in an exception, since there are too many. `iteration_unending` has all this for the
  stand-ins that a program obtains.
-/

namespace Exemplar.Machine

variable {s t : State} {a b d : Nat} {n : String} {e : Engine} {v w : Value} {k : Kind}

namespace Exec

variable {α β : Type} {x : Exec α} {f : α → Exec β} {p : α}

/-- However many steps the program has, the computation does not come to its end. -/
def Endless (x : Exec α) (s : State) : Prop := ∀ k, Exhausts x { s with steps := k }

/-- A computation raises an exception of a class. -/
def Raises (cls : String) (x : Exec α) (s : State) : Prop :=
  ∃ a o t, x.run s = .error (.raised (.object a)) t ∧ t.objects[a]? = some o ∧
    o.cls = .kind (.exception cls)

namespace Raises

theorem raise (cls text : String) (s : State) : Raises cls (raise cls text : Exec α) s := by
  have hends : Ends (Exec.raise cls text : Exec α) s _ _ := raise_ends cls text
  cases hrun : (Exec.raise cls text : Exec α).run s with
  | ok p t => exact (hends.of_ok hrun).2.elim
  | error stop t =>
    obtain ⟨-, a, o, rfl, ho⟩ := hends.of_error hrun
    exact ⟨a, o, t, hrun, ho⟩

/-- A first part that comes to its end. -/
theorem behind {cls : String} (hx : x.run s = .ok p t) (hf : Raises cls (f p) t) :
    Raises cls (x >>= f) s := by
  obtain ⟨a, o, t', ht', ho⟩ := hf
  exact ⟨a, o, t', (bind_run hx).trans ht', ho⟩

end Raises

end Exec

open Exec (Exhausts Endless Raises)

/-! ## Items until there are none -/

namespace Iterate

/-- By induction on the fuel. -/
theorem drain_exhausts (he : e.next = next (Run.engine (d + 1))) (fuel : Nat) :
    ∀ s items, s.Iterates a b → Exhausts (drain e (.object b) fuel items) s := by
  induction fuel with
  | zero => exact fun s _ _ => .throw s
  | succ fuel ih =>
    intro s items h
    exact h.exhausts he fun s' hs' => ih s' _ hs'.iterates

theorem hint_standin (h : s.objects[a]? = some (.standin n)) :
    (hint e (.object a)).run s = .ok () s :=
  Exec.bind_run (Typing.of_standin h)

/-- There is no array of all that a stand-in yields. -/
theorem array_exhausts (he : e.next = next (Run.engine (d + 1)))
    (h : s.objects[a]? = some (.standin n)) : Exhausts (array e (.object a)) s := by
  have hlater : (s.iterating a).objects[a]? = some (.standin n) := State.getElem?_push_of_eq h _
  unfold array
  refine .behind (Exec.object_run h) ?_
  refine .behind (iter_standin h) (.behind (hint_standin hlater) (.behind rfl ?_))
  exact drain_exhausts he _ _ _ (State.iterates_iterating h)

/-- The first items of a stand-in, if there are steps for them. -/
theorem take_standin (he : e.next = next (Run.engine (d + 1))) (m : Nat) :
    ∀ s : State, s.Iterates a b → m ≤ s.steps →
      ∃ s', (take e (.object b) m).run s = .ok (List.replicate m (.object a)) s' ∧
        s'.Iterates a b := by
  induction m with
  | zero => exact fun s h _ => ⟨s, rfl, h⟩
  | succ m ih =>
    intro s h hm
    obtain ⟨t, hnext, hadvances⟩ := next_standin (d := d) h (by omega)
    have hleft : m ≤ t.steps := by
      have := hadvances.steps
      omega
    obtain ⟨s', htake, hiterates⟩ := ih t hadvances.iterates hleft
    refine ⟨s', ?_, hiterates⟩
    unfold take
    rw [he, Exec.bind_run hnext]
    exact Exec.bind_run htake

theorem take_exhausts (he : e.next = next (Run.engine (d + 1))) (m : Nat) :
    ∀ s : State, s.Iterates a b → s.steps < m → Exhausts (take e (.object b) m) s := by
  induction m with
  | zero => exact fun _ _ hm => absurd hm (Nat.not_lt_zero _)
  | succ m ih =>
    intro s h hm
    refine h.exhausts he fun s' hs' => (ih s' hs'.iterates ?_).bind
    have := hs'.steps
    omega

theorem iterToUnpack_standin (h : s.objects[a]? = some (.standin n)) :
    (iterToUnpack e (.object a)).run s = .ok (.object s.objects.size) (s.iterating a) :=
  Exec.bind_run (iter?_standin h)

/-- A list of the items in the middle is never ready. -/
theorem unpackAround_exhausts (he : e.next = next (Run.engine (d + 1)))
    (h : s.objects[a]? = some (.standin n)) (before after : Nat) :
    Exhausts (unpackAround e (.object a) before after) s := by
  have hiterates := State.iterates_iterating h
  unfold unpackAround
  refine .behind (iterToUnpack_standin h) ?_
  obtain hfew | henough := Nat.lt_or_ge (s.iterating a).steps before
  · exact (take_exhausts he before _ hiterates hfew).bind
  · obtain ⟨t, htake, hiterates⟩ := take_standin he before _ hiterates henough
    refine .behind htake ?_
    rw [List.length_replicate, if_neg (Nat.lt_irrefl before)]
    exact .behind rfl (drain_exhausts he _ t _ hiterates).bind

/-- A stand-in has too many items for any number of places. -/
theorem unpack_raises (he : e.next = next (Run.engine (d + 1)))
    (h : s.objects[a]? = some (.standin n)) {m : Nat} (hm : m < s.steps) :
    Raises "ValueError" (unpack e (.object a) m) s := by
  obtain ⟨t, htake, -⟩ := take_standin he (m + 1) _ (State.iterates_iterating h) hm
  refine .behind (iterToUnpack_standin h) (.behind htake ?_)
  dsimp only
  rw [List.length_replicate, if_neg (by omega), if_pos (Nat.lt_succ_self m)]
  exact .raise _ _ t

theorem unpack_exhausts (he : e.next = next (Run.engine (d + 1)))
    (h : s.objects[a]? = some (.standin n)) {m : Nat} (hm : s.steps ≤ m) :
    Exhausts (unpack e (.object a) m) s := by
  refine .behind (iterToUnpack_standin h) ?_
  exact (take_exhausts he (m + 1) _ (State.iterates_iterating h) (Nat.lt_succ_of_le hm)).bind

end Iterate

/-! ## Membership -/

namespace Item

/-- By induction on the fuel. -/
theorem yields_exhausts (he : e.next = Iterate.next (Run.engine (d + 1))) (fuel : Nat) :
    ∀ s, s.Iterates a b → s.Differ e (.object a) w →
      Exhausts (yields e (.object b) w fuel) s := by
  induction fuel with
  | zero => exact fun s _ _ => .throw s
  | succ fuel ih =>
    intro s h hdiffer
    refine h.exhausts he fun s' hs' => .behind (hdiffer s' hs'.keeps) ?_
    exact ih s' hs'.iterates (hdiffer.later hs'.keeps)

theorem contains_exhausts (he : e.next = Iterate.next (Run.engine (d + 1)))
    (h : s.objects[a]? = some (.standin n)) (hdiffer : s.Differ e (.object a) w) :
    Exhausts (contains e (.object a) w) s := by
  have hiterates := State.iterates_iterating h
  have hamong : Exhausts (isAmong e (.object a) w) s := by
    refine .behind (Iterate.iter?_standin h) (.behind rfl ?_)
    exact yields_exhausts he _ _ hiterates (hdiffer.later (.push s _))
  have hplainly : Exhausts (plainlyContains e (.object a) w) s := by
    unfold plainlyContains
    exact .behind (Operate.unboxed_standin h) (.behind (Exec.dataAt_run h) hamong)
  exact .behind (Typing.of_standin h) hplainly

end Item

/-! ## Lists -/

namespace Call

/-- No list of all that a stand-in yields is made. -/
theorem list_exhausts (h : s.objects[a]? = some (.standin n)) :
    Exhausts ((Run.engine (d + 3)).call (.kind .list) [.object a] []) s := by
  obtain ⟨e, hcall, he⟩ : ∃ e, (Run.engine (d + 3)).call = value e ∧
    e.next = Iterate.next (Run.engine (d + 1)) := ⟨_, rfl, rfl⟩
  let list : Object := { cls := .kind .list, data := .list #[] }
  let t : State := { s with objects := s.objects.push list }
  have hmake : (Construct.make e .list (.kind .list) [.object a] []).run s =
      .ok (.object s.objects.size) t := rfl
  have hsetUp : Exhausts (Construct.setUp e .list (.object s.objects.size) [.object a] []) t := by
    have harray := Iterate.array_exhausts (s := t) he (State.getElem?_push_of_eq h list)
    exact .behind (t := t) (p := ()) rfl harray.bind
  have hkind : Construct.setUpKind .list = .list := by decide +kernel
  have hslot : Kind.list.slots.contains "__init__" = true := by decide +kernel
  rw [hcall]
  show Exhausts (Construct.ofKind e .list [.object a] []) s
  refine .behind hmake ?_
  dsimp only
  rw [hkind, hslot]
  exact hsetUp.bind

end Call

/-! ## Loops -/

namespace Run

variable {fr fr' : Frame} {blk : Block} {next : Next} {body orelse rest : Code} {st : List Value}

/-- A frame inside a block. -/
def within (fr : Frame) (blk : Block) (code : Code) (st : List Value) : Frame :=
  { fr with code := code, stack := st, blocks := blk :: fr.blocks }

/-- The block of a loop over what an iterator yields. -/
def eachBlock (b : Nat) (body orelse rest : Code) (st : List Value) : Block :=
  ⟨.each (.object b) body orelse, st, rest⟩

/-- A loop comes to its next turn: the code of its body has come to the end or goes on with the
next item before that. -/
inductive AtTurn (fr : Frame) (blk : Block) : Next → Prop
  | fell (st : List Value) : AtTurn fr blk (.go (within fr blk [] st))
  | again (code : Code) (st : List Value) : AtTurn fr blk (.signal .again (within fr blk code st))

/-- The end of a turn of a loop over a stand-in. -/
theorem turn_run (he : e.next = Iterate.next (engine (d + 1))) (h : s.Iterates a b) (fr : Frame) :
    let m := guarded fr false (atEnd e (eachBlock b body orelse rest st) fr)
    Exhausts m s ∨ ∃ t, s.Keeps t ∧ t.Iterates a b ∧ m.run s =
      .ok (.go (within fr (eachBlock b body orelse rest st) body (.object a :: st))) t := by
  intro m
  obtain hnext | ⟨t, hnext, hadvances⟩ := h.exhausts_or he
  · exact .inl (.catching hnext.bind)
  · refine .inr ⟨t, hadvances.keeps, hadvances.iterates, ?_⟩
    exact Exec.catching_eq_ok.mpr (.inl (Exec.bind_run hnext))

/-- Both ways to the next turn come to the end of the block, in a frame that differs from the one
inside it by its code and its stack only. -/
theorem AtTurn.loop_eq (h : AtTurn fr (eachBlock b body orelse rest st) next) (k : Nat) :
    ∃ fr', (∀ code st', within fr' blk code st' = within fr blk code st') ∧
      loop e (k + 1) next = (do
        Exec.tick
        loop e k (← guarded fr' false (atEnd e (eachBlock b body orelse rest st) fr'))) := by
  cases h with
  | fell st' => exact ⟨{ fr with code := [], stack := st' }, fun _ _ => rfl, rfl⟩
  | again code st' => exact ⟨{ fr with code := code, stack := st' }, fun _ _ => rfl, rfl⟩

/-- Each turn of a loop over a stand-in begins with the stand-in on the stack, and the loop does not
come to its `else` or to what is behind it. -/
theorem loop_turn (he : e.next = Iterate.next (engine (d + 1))) (h : s.Iterates a b)
    (hnext : AtTurn fr (eachBlock b body orelse rest st) next) (k : Nat) :
    Exhausts (loop e (k + 1) next) s ∨ ∃ t, s.Keeps t ∧ t.Iterates a b ∧
      (loop e (k + 1) next).run s = (loop e k
        (.go (within fr (eachBlock b body orelse rest st) body (.object a :: st)))).run t := by
  obtain ⟨fr', hwithin, hloop⟩ := hnext.loop_eq k
  rw [hloop, ← hwithin]
  by_cases hsteps : s.steps = 0
  · exact .inl (Exhausts.tick hsteps).bind
  · have htick := tick_run hsteps
    have hlater : (s.afterSteps 1).Iterates a b := ⟨h.standin, h.iterator⟩
    obtain hturn | ⟨t, hk, hiterates, hturn⟩ := turn_run he hlater fr'
    · exact .inl (.behind htick hturn.bind)
    · refine .inr ⟨t, (State.Keeps.afterSteps s 1).trans hk, hiterates, ?_⟩
      exact (Exec.bind_run htick).trans (Exec.bind_run hturn)

/-- The body of a loop comes to the next turn, or runs out of steps on the way. What holds of the
state and of the frame at each turn may be needed for that and is kept. -/
structure Repeats (e : Engine) (a b : Nat) (body : Code) (blk : Block) (P : State → Frame → Prop) :
    Prop where
  keeps : ∀ {s t fr}, s.Keeps t → P s fr → P t fr
  repeats : ∀ {s fr} (k : Nat), s.Iterates a b → P s fr →
    Exhausts (loop e k (.go (within fr blk body (.object a :: blk.stack)))) s ∨
      ∃ k' s' fr' next, k' ≤ k ∧ s'.Iterates a b ∧ P s' fr' ∧ AtTurn fr' blk next ∧
        (loop e k (.go (within fr blk body (.object a :: blk.stack)))).run s =
          (loop e k' next).run s'

/-- A loop whose body comes back does not end: by induction on the turns that it may take. -/
theorem Repeats.exhausts {P : State → Frame → Prop} (he : e.next = Iterate.next (engine (d + 1)))
    (hbody : Repeats e a b body (eachBlock b body orelse rest st) P) (k : Nat) :
    ∀ s fr next, s.Iterates a b → P s fr → AtTurn fr (eachBlock b body orelse rest st) next →
      Exhausts (loop e k next) s := by
  induction k using Nat.strongRecOn with
  | ind k ih =>
    intro s fr next h hP hnext
    cases k with
    | zero => exact .throw s
    | succ k =>
      obtain hturn | ⟨t, hkeeps, hiterates, hturn⟩ := loop_turn he h hnext k
      · exact hturn
      · refine .congr hturn ?_
        obtain hback | ⟨k', s', fr', next', hk', hiterates', hP', hnext', hback⟩ :=
          hbody.repeats k hiterates (hbody.keeps hkeeps hP)
        · exact hback
        · exact .congr hback (ih k' (by omega) s' fr' next' hiterates' hP' hnext')

/-- The code of a `for` statement behind the value that it is about. -/
def forCode (body orelse : Code) : Code := [.getIter, .forEach body orelse]

/-- An instruction behind which no run comes to its end. -/
theorem exhausts_step {i : Instr} {g : Frame} (hcode : fr.code = i :: rest)
    (hquick : quick i { fr with code := rest } = .error { fr with code := rest })
    (hstep : (step e i { fr with code := rest }).run (s.afterSteps 1) = .ok (.go g) t)
    (hrest : ∀ k, Exhausts (loop e k (.go g)) t) (k : Nat) : Exhausts (loop e k (.go fr)) s := by
  cases k with
  | zero => exact .throw s
  | succ k =>
    by_cases hsteps : s.steps = 0
    · exact (Exhausts.tick hsteps).bind
    · exact .congr (loop_step hcode hquick hstep hsteps) (hrest k)

theorem Repeats.for_exhausts {P : State → Frame → Prop}
    (he : e.next = Iterate.next (engine (d + 1))) (h : s.objects[a]? = some (.standin n))
    (hbody : ∀ b, Repeats e a b body (eachBlock b body orelse rest st) P) (hP : P s fr) (k : Nat) :
    Exhausts (loop e k
      (.go { fr with code := forCode body orelse ++ rest, stack := .object a :: st })) s := by
  let b := s.objects.size
  let s₁ : State := (s.afterSteps 1).iterating a
  let s₂ : State := s₁.afterSteps 1
  let f₁ : Frame :=
    { fr with code := .forEach body orelse :: rest, stack := .object b :: st }
  have hiter : (step e .getIter { f₁ with stack := .object a :: st }).run (s.afterSteps 1) =
      .ok (.go f₁) s₁ :=
    Exec.bind_run (Iterate.iter_standin (s := s.afterSteps 1) h)
  have hiterates : s₂.Iterates a b := by
    obtain ⟨hstandin, hiterator⟩ := State.iterates_iterating (s := s.afterSteps 1) h
    exact ⟨hstandin, hiterator⟩
  have hkeeps : s.Keeps s₂ :=
    ((State.Keeps.afterSteps s 1).trans (.push _ _)).trans (.afterSteps s₁ 1)
  refine exhausts_step rfl rfl hiter (fun k => ?_) k
  refine exhausts_step (t := s₂) rfl rfl rfl (fun k => ?_) k
  exact (hbody b).exhausts he k s₂ fr _ hiterates ((hbody b).keeps hkeeps hP) (.fell st)

/-- A loop that does nothing with the items but store them. -/
theorem repeats_store (i : Nat) (name : String) (b : Nat) :
    Repeats e a b [.store (.own i) name] (eachBlock b [.store (.own i) name] orelse rest st)
      fun _ _ => True where
  keeps _ _ := trivial
  repeats {s fr} k h _ := by
    cases k with
    | zero => exact .inl (.throw s)
    | succ k =>
      by_cases hsteps : s.steps = 0
      · exact .inl (Exhausts.tick hsteps).bind
      · let fr' : Frame := { fr with locals := fr.locals.setIfInBounds i (some (.object a)) }
        have hlater : (s.afterSteps 1).Iterates a b := ⟨h.standin, h.iterator⟩
        refine .inr ⟨k, s.afterSteps 1, fr', _, Nat.le_succ k, hlater, trivial, .fell st, ?_⟩
        exact Exec.bind_run (tick_run hsteps)

end Run

/-! ## The stand-ins of a program -/

/-- What iterating over a value in the store comes to. -/
structure State.Unending (s : State) (e : Engine) (a : Nat) : Prop where
  /-- There is an item for every key, and so at every place. -/
  item : ∀ key, (Item.get e (.object a) key).run s = .ok (.object a) s
  list : Endless (e.call (.kind .list) [.object a] []) s
  starred : ∀ before after, Endless (Iterate.unpackAround e (.object a) before after) s
  /-- What differs from the value is searched for among its items. -/
  member : ∀ w, s.Differ e (.object a) w → Endless (Run.compare e .isIn w (.object a)) s
  /-- All values of the library's types but proxies differ from it, unless they are it. -/
  differ : ∀ w k, s.HasKind w k → w ≠ .object a → k ≠ .mappingProxy → s.Differ e (.object a) w
  /-- A `for` loop whose body comes to the next turn whenever it does not run out of steps. -/
  loop : ∀ P body orelse rest st,
    (∀ b, Run.Repeats e a b body (Run.eachBlock b body orelse rest st) P) →
    ∀ fr, P s fr → ∀ k, Endless (Run.loop e k
      (.go { fr with code := Run.forCode body orelse ++ rest, stack := .object a :: st })) s
  /-- There are too many items for a number of places, if there are steps to find that out. -/
  unpack : ∀ m steps,
    (steps ≤ m → Exhausts (Iterate.unpack e (.object a) m) { s with steps := steps }) ∧
    (m < steps → Raises "ValueError" (Iterate.unpack e (.object a) m) { s with steps := steps })

/-- Every iteration over a stand-in that a program has obtained goes on until the program has no
steps left, but for taking it apart into a fixed number of items, which is refused. -/
theorem iteration_unending {s₀ : State} {done : List Event} (hloaded : s₀.Loaded)
    (h : Runs s₀ done s) (hv : Use.Obtained s done v) (d : Nat) :
    ∃ a, v = .object a ∧ s.Unending (Run.engine (d + 3)) a := by
  obtain ⟨names, htracks⟩ := h.tracks hloaded
  obtain ⟨a, n, rfl, hmem⟩ := htracks.known hv
  have ha := htracks.holds a n hmem
  have he : (Run.engine (d + 3)).next = Iterate.next (Run.engine (d + 1 + 1)) := rfl
  refine ⟨a, rfl, ?_⟩
  constructor
  case item => exact Item.get_standin ha
  case list => exact fun k => Call.list_exhausts (s := { s with steps := k }) ha
  case starred =>
    intro before after k
    exact Iterate.unpackAround_exhausts (s := { s with steps := k }) he ha before after
  case member =>
    intro w hdiffer k
    have hlater := hdiffer.later (.withSteps s k)
    exact (Item.contains_exhausts (s := { s with steps := k }) he ha hlater).bind
  case differ => exact fun w k hw hne hk => State.differ_standin ha hw hne hk
  case loop =>
    intro P body orelse rest st hbody fr hP k steps
    have hlater := (hbody 0).keeps (.withSteps s steps) hP
    exact Run.Repeats.for_exhausts (s := { s with steps := steps }) he ha hbody hlater k
  case unpack =>
    intro m steps
    constructor
    · exact fun hm => Iterate.unpack_exhausts (s := { s with steps := steps }) he ha hm
    · exact fun hm => Iterate.unpack_raises (s := { s with steps := steps }) he ha hm

/-- A module that is not there: it has no list of items, `1` is searched for among them without end,
a loop that does nothing goes on, and there are no two of them. -/
theorem iteration_unending_nope : ∃ done s,
    State.Loaded { steps := 3 } ∧ Runs { steps := 3 } done s ∧ Use.Obtained s done (.object 2) ∧
      Endless (Run.machine.call (.kind .list) [.object 2] []) s ∧
      Endless (Run.compare Run.machine .isIn (.int 1) (.object 2)) s ∧
      (∀ k, Endless (Run.loop Run.machine k (.go { (default : Frame) with
        code := Run.forCode [.store (.own 0) "x"] [], stack := [.object 2] })) s) ∧
      Raises "ValueError" (Iterate.unpack Run.machine (.object 2) 2) s := by
  let s₀ : State := { steps := 3 }
  let s : State := { s₀ with objects := s₀.objects.push (.standin "nope") }
  let done : List Event := [⟨s₀, .importModule "nope" 0 false, some (.object 2)⟩]
  have hloaded : s₀.Loaded := nofun
  have hruns : Runs s₀ done s := .answered .start trivial rfl
  have hobtained : Use.Obtained s done (.object 2) :=
    ⟨Typing.of_standin (n := "nope") rfl, _, .head _, rfl⟩
  obtain ⟨_, ⟨⟩, hunending⟩ := iteration_unending hloaded hruns hobtained 987
  have hone : s.Differ Run.machine (.object 2) (.int 1) :=
    hunending.differ (.int 1) .int ⟨rfl, nofun⟩ nofun nofun
  refine ⟨done, s, hloaded, hruns, hobtained, hunending.list, hunending.member _ hone, ?_, ?_⟩
  · exact hunending.loop _ _ [] [] [] (fun b => Run.repeats_store 0 "x" b) default trivial
  · exact (hunending.unpack 2 3).2 (by decide)

end Exemplar.Machine
