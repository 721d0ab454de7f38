import Exemplar.Proofs.Standin.Runs

/-
  Iteration over a stand-in. It has an item for every key, which is the stand-in itself, so its
  iterator yields it once more with every step that the program has left (`Iterate.next_standin`).
  What takes the items of a stand-in until there are none is stopped for want of steps, however
  many there are. The union of the keys of a dictionary with a stand-in does so
  (`Operate.keys_or_endless`): the view is asked first, and it does not refuse.
-/

namespace Exemplar.Machine

/-! ## Running out of steps -/

namespace Exec

variable {α β : Type} {x : Exec α} {f : α → Exec β} {p : α} {s t : State}

/-- A computation is stopped because the program has no steps left. -/
def Exhausts (x : Exec α) (s : State) : Prop := ∃ t, x.run s = .error .exhausted t

namespace Exhausts

theorem throw (s : State) : Exhausts (MonadExcept.throw .exhausted : Exec α) s := ⟨s, rfl⟩

theorem bind (h : Exhausts x s) : Exhausts (x >>= f) s := by
  obtain ⟨t, ht⟩ := h
  exact ⟨t, bind_eq_error.mpr (.inl ht)⟩

/-- The computation does the same as another one. -/
theorem congr {y : Exec α} (h : x.run s = y.run t) (hy : Exhausts y t) : Exhausts x s := by
  obtain ⟨t', ht'⟩ := hy
  exact ⟨t', h.trans ht'⟩

/-- A first part that comes to its end. -/
theorem behind (hx : x.run s = .ok p t) (hf : Exhausts (f p) t) : Exhausts (x >>= f) s :=
  congr (bind_run hx) hf

theorem catching {h : Value → Exec α} (hx : Exhausts x s) : Exhausts (catching x h) s := by
  obtain ⟨t, ht⟩ := hx
  exact ⟨t, catching_eq_error.mpr (.inr ⟨ht, nofun⟩)⟩

theorem tick (h : s.steps = 0) : Exhausts Exec.tick s := by
  refine ⟨{ s with steps := s.steps - 1 }, bind_eq_error.mpr (.inr ⟨true, _, ?_, rfl⟩)⟩
  show EStateM.Result.ok (s.steps == 0) _ = _
  rw [h]
  rfl

end Exhausts

end Exec

open Exec (Exhausts)

/-! ## The next item -/

/-- An address leads to an iterator over the items of a stand-in. -/
structure State.Iterates (s : State) (a b : Nat) : Prop where
  standin : ∃ n, s.objects[a]? = some (.standin n)
  iterator : ∃ k, s.objects[b]? =
    some { cls := .kind (.iterator "iterator"), data := .iterator (.sequence (.object a) k) }

/-- One item of a stand-in has been taken between two states. -/
structure State.Advances (s s' : State) (a b : Nat) : Prop where
  iterates : s'.Iterates a b
  keeps : s.Keeps s'
  steps : s'.steps + 1 = s.steps
  others : ∀ c, c ≠ b → s'.objects[c]? = s.objects[c]?

variable {s : State} {a b c d : Nat} {n : String}

/-- The state in which the iteration over a value in the store starts. -/
def State.iterating (s : State) (a : Nat) : State :=
  let it : Object :=
    { cls := .kind (.iterator "iterator"), data := .iterator (.sequence (.object a) 0) }
  { s with objects := s.objects.push it }

theorem State.iterates_iterating (h : s.objects[a]? = some (.standin n)) :
    (s.iterating a).Iterates a s.objects.size :=
  ⟨⟨n, State.getElem?_push_of_eq h _⟩, 0, Array.getElem?_push_size⟩

theorem State.Keeps.withSteps (s : State) (k : Nat) : s.Keeps { s with steps := k } :=
  ⟨fun h => ⟨_, h, .refl _⟩, id, rfl, id⟩

/-- The iterator is put to another place. -/
theorem State.Iterates.keeps (h : s.Iterates a b) (i : Iterator) :
    s.Keeps { s with objects := s.objects.modify b fun o => { o with data := .iterator i } } := by
  obtain ⟨k, hb⟩ := h.iterator
  refine .of_objects _ (fun {c o} hc => ?_) fun {c n} hc => ?_
  · by_cases hbc : b = c
    · subst hbc
      rw [hb] at hc
      cases hc
      refine ⟨_, Array.getElem?_modify.trans ((if_pos rfl).trans (congrArg _ hb)), rfl, ?_⟩
      exact iff_of_false nofun nofun
    · exact ⟨o, (Array.getElem?_modify.trans (if_neg hbc)).trans hc, .refl o⟩
  · have hbc : b ≠ c := by
      rintro rfl
      rw [hb] at hc
      cases hc
    exact (Array.getElem?_modify.trans (if_neg hbc)).trans hc

theorem role?_getitem : Kind.stub.role? "__getitem__" = some .slot := by decide +kernel

theorem Run.exists_call (d : Nat) : ∃ e, (engine (d + 1)).call = Call.value e := ⟨_, rfl⟩

theorem Call.value_getitem (e : Engine) (v key : Value) :
    (value e (.method v .stub "__getitem__") [key] []).run s = .ok v s := by
  show (Method.call e v .stub "__getitem__" [key] []).run s = _
  unfold Method.call
  rw [role?_getitem]
  rfl

/-- The item of a stand-in. -/
theorem Typing.callSpecial?_getitem (h : s.objects[a]? = some (.standin n)) (key : Value) :
    (callSpecial? (Run.engine (d + 1)) (.object a) "__getitem__" [key]).run s =
      .ok (some (.object a)) s := by
  have hbinding : (bindingOf (.native .stub "__getitem__")).run s =
      .ok (.native .stub "__getitem__" .slot) s := by
    show EStateM.Result.ok (Binding.native .stub "__getitem__"
      ((Kind.stub.role? "__getitem__").getD .method)) s = _
    rw [role?_getitem]
    rfl
  obtain ⟨e, hcall⟩ := Run.exists_call d
  unfold callSpecial?
  rw [Exec.bind_run (of_standin h), Exec.bind_run (declared?_slot role?_getitem),
    Exec.bind_run hbinding]
  refine Exec.map_eq_ok.mpr ⟨.object a, ?_, rfl⟩
  rw [hcall]
  exact Call.value_getitem e (.object a) key

namespace Iterate

theorem iter?_standin {e : Engine} (h : s.objects[a]? = some (.standin n)) :
    (iter? e (.object a)).run s = .ok (some (.object s.objects.size)) (s.iterating a) :=
  (Exec.bind_run (Typing.of_standin h)).trans (Exec.map_eq_ok.mpr ⟨_, rfl, rfl⟩)

/-- Iteration over a stand-in starts with an iterator that is put into the store. -/
theorem iter_standin {e : Engine} (h : s.objects[a]? = some (.standin n)) :
    (iter e (.object a)).run s = .ok (.object s.objects.size) (s.iterating a) :=
  Exec.bind_run (iter?_standin h)

/-- A program that has no steps left does not come to the next item. -/
theorem next_exhausts (e : Engine) (v : Value) (h : s.steps = 0) : Exhausts (next e v) s :=
  (Exhausts.tick h).bind

theorem item?_standin (h : s.objects[a]? = some (.standin n)) (k : Nat) :
    (step.item? (Run.engine (d + 1)) (.object a) k).run s = .ok (some (.object a)) s :=
  Exec.catching_eq_ok.mpr (.inl (Typing.callSpecial?_getitem h _))

/-- The next item of a stand-in is the stand-in, as long as there are steps. -/
theorem next_standin (h : s.Iterates a b) (hsteps : s.steps ≠ 0) :
    ∃ s', (next (Run.engine (d + 1)) (.object b)).run s = .ok (some (.object a)) s' ∧
      s.Advances s' a b := by
  obtain ⟨⟨n, ha⟩, k, hb⟩ := id h
  let t : State := { s with steps := s.steps - 1 }
  let i : Iterator := .sequence (.object a) (k + 1)
  let s' : State :=
    { t with objects := t.objects.modify b fun o => { o with data := .iterator i } }
  have htick : Exec.tick.run s = .ok () t := by
    refine Exec.bind_eq_ok.mpr ⟨false, t, ?_, rfl⟩
    show EStateM.Result.ok (s.steps == 0) _ = _
    rw [beq_eq_false_iff_ne.mpr hsteps]
  have hstep : (step (Run.engine (d + 1)) b (.sequence (.object a) k)).run t =
      .ok (some (.object a, i)) t :=
    Exec.bind_run (item?_standin (s := t) ha k)
  have hset : (Exec.setData b (.iterator i)).run t = .ok () s' := rfl
  refine ⟨s', ?_, ?_, ?_, ?_, ?_⟩
  · unfold next
    rw [Exec.bind_run htick]
    refine (Exec.bind_run (Exec.object_run (s := t) hb)).trans ?_
    exact (Exec.bind_run hstep).trans (Exec.bind_run hset)
  · have hab : b ≠ a := by
      rintro rfl
      rw [ha] at hb
      cases hb
    refine ⟨⟨n, ?_⟩, k + 1, ?_⟩
    · exact (Array.getElem?_modify.trans (if_neg hab)).trans ha
    · exact Array.getElem?_modify.trans ((if_pos rfl).trans (congrArg _ hb))
  · have ht : t.Iterates a b := ⟨h.standin, h.iterator⟩
    exact (State.Keeps.withSteps s _).trans (ht.keeps i)
  · exact Nat.sub_add_cancel (Nat.pos_of_ne_zero hsteps)
  · exact fun c hc => Array.getElem?_modify.trans (if_neg hc.symm)

end Iterate

variable {β : Type} {e : Engine}

/-- An iterator over a stand-in yields it, or the program has no steps left. -/
theorem State.Iterates.exhausts_or (h : s.Iterates a b)
    (he : e.next = Iterate.next (Run.engine (d + 1))) :
    Exhausts (e.next (.object b)) s ∨
      ∃ s', (e.next (.object b)).run s = .ok (some (.object a)) s' ∧ s.Advances s' a b := by
  rw [he]
  by_cases hsteps : s.steps = 0
  · exact .inl (Iterate.next_exhausts _ _ hsteps)
  · exact .inr (Iterate.next_standin h hsteps)

/-- What goes on with the next item of a stand-in. -/
theorem State.Iterates.exhausts (h : s.Iterates a b)
    (he : e.next = Iterate.next (Run.engine (d + 1))) {f : Option Value → Exec β}
    (hf : ∀ s', s.Advances s' a b → Exhausts (f (some (.object a))) s') :
    Exhausts (e.next (.object b) >>= f) s := by
  obtain hnext | ⟨s', hnext, hadvances⟩ := h.exhausts_or he
  · exact hnext.bind
  · exact .behind hnext (hf s' hadvances)

/-! ## Sets of one member -/

namespace Members

variable {slots : Array Slot} {v : Value} {hash : UInt64} {m : Members}

/-- No member but one value is in the slots of a set. -/
def Only (v : Value) (slots : Array Slot) : Prop := ∀ h w, .member h w ∈ slots → w = v

theorem Only.getD (hv : Only v slots) {i : Nat} {h : UInt64} {w : Value}
    (hi : slots.getD i .free = .member h w) : w = v := by
  rw [Array.getD_eq_getD_getElem?] at hi
  cases hslot : slots[i]? with
  | none =>
    rw [hslot] at hi
    cases hi
  | some x =>
    rw [hslot] at hi
    cases hi
    exact hv h w (Array.mem_of_getElem? hslot)

theorem Only.set (hv : Only v slots) (i : Nat) :
    Only v (slots.setIfInBounds i (.member hash v)) := by
  intro h w hmem
  obtain hmem | hmem := Array.mem_or_eq_of_mem_setIfInBounds hmem
  · exact hv h w hmem
  · cases hmem
    rfl

theorem Only.entries (hv : Only v m.slots) : ∀ x ∈ m.entries, x.2 = v := by
  intro x hx
  obtain ⟨slot, hslot, hsome⟩ := List.mem_filterMap.mp hx
  cases slot with
  | member h w =>
    cases hsome
    exact hv h w (Array.mem_toList_iff.mp hslot)
  | _ => cases hsome

theorem Only.foldl {entries : List (UInt64 × Value)} (hentries : ∀ x ∈ entries, x.2 = v)
    (hv : Only v slots) : Only v (entries.foldl (fun s (h, k) => putClean s h k) slots) := by
  induction entries generalizing slots with
  | nil => exact hv
  | cons x entries ih =>
    obtain ⟨h, w⟩ := x
    obtain rfl : w = v := hentries _ (.head _)
    exact ih (fun x hx => hentries x (.tail _ hx)) (hv.set _)

theorem Only.resized (hv : Only v m.slots) (n : Nat) : Only v (m.resized n).slots := by
  refine .foldl hv.entries fun h w hmem => ?_
  cases (Array.mem_replicate.mp hmem).2

theorem Only.putAt (hv : Only v m.slots) (i : Nat) : Only v (m.putAt i hash v).slots := by
  unfold Members.putAt
  dsimp only
  split
  · exact hv.set i
  · exact .resized (hv.set i) _

end Members

namespace Compare

open Exec (Looks)

variable {slots : Array Slot} {m : Members} {hash rest : UInt64} {e : Engine}

theorem equal_object (e : Engine) (a : Nat) : equal e (.object a) (.object a) = pure true := by
  unfold equal
  simp [plainly?, Value.same]

/-- A search for the only member does not ask for what it is like. -/
theorem looks_lookNear (hv : Members.Only (.object a) slots) (n : Nat) :
    ∀ i, Looks (lookNear e slots (.object a) hash n i) := by
  induction n with
  | zero => exact fun _ => .pure
  | succ n ih =>
    intro i
    unfold lookNear
    split
    · exact .pure
    · exact ih (i + 1)
    · rename_i h w hslot
      obtain rfl := hv.getD hslot
      rw [equal_object]
      split
      · exact .bind .pure fun b => by cases b with
          | false => exact ih (i + 1)
          | true => exact .pure
      · exact ih (i + 1)

theorem looks_lookFrom (hv : Members.Only (.object a) slots) (n : Nat) :
    ∀ rest i, Looks (lookFrom e slots (.object a) hash n rest i) := by
  induction n with
  | zero => exact fun _ _ => .pure
  | succ n ih =>
    intro rest i
    unfold lookFrom
    refine .bind (looks_lookNear hv _ i) fun r => ?_
    split
    · exact .pure
    · exact ih _ _

theorem looks_look (hv : Members.Only (.object a) m.slots) : Looks (look e m (.object a) hash) :=
  looks_lookFrom hv _ _ _

end Compare

/-! ## Sets of a stand-in -/

/-- An iterator over a stand-in, and a set without any other member. -/
structure State.Gathers (s : State) (a b c : Nat) : Prop extends s.Iterates a b where
  set : ∃ m, s.objects[c]? = some { cls := .kind .set, data := .set m } ∧
    Members.Only (.object a) m.slots

theorem State.Gathers.ne (h : s.Gathers a b c) : c ≠ a ∧ c ≠ b := by
  obtain ⟨m, hc, -⟩ := h.set
  constructor
  · rintro rfl
    obtain ⟨n, ha⟩ := h.standin
    rw [hc] at ha
    cases ha
  · rintro rfl
    obtain ⟨k, hb⟩ := h.iterator
    rw [hc] at hb
    cases hb

theorem Mapping.hashOf_standin (h : s.objects[a]? = some (.standin n)) :
    (hashOf (Run.engine (d + 1)) (.object a)).run s =
      .ok (Measure.plainHash.identity (.object a)) s := by
  have habsent : Kind.stub.absent.contains "__hash__" = false := by decide +kernel
  have hplain : (Measure.plainHash (Run.engine d) (.object a)).run s =
      .ok (Measure.plainHash.identity (.object a)) s :=
    Exec.bind_run (Exec.dataAt_run h)
  refine (Exec.bind_run (Exec.object_run h)).trans ?_
  show (if Kind.stub.absent.contains "__hash__" then _ else _ : Exec UInt64).run s = _
  rw [habsent]
  exact hplain

namespace Bag

theorem put_standin (h : s.Gathers a b c) :
    ∃ s', (put (Run.engine (d + 1)) c (.object a)).run s = .ok () s' ∧ s'.Gathers a b c := by
  obtain ⟨hca, hcb⟩ := h.ne
  obtain ⟨n, ha⟩ := h.standin
  obtain ⟨k, hb⟩ := h.iterator
  obtain ⟨m, hc, honly⟩ := h.set
  let x : UInt64 := Measure.plainHash.identity (.object a)
  have hmembers : (members c).run s = .ok m s := Exec.bind_run (Exec.dataAt_run hc)
  obtain ⟨found, hfound⟩ := Compare.looks_look (e := Run.engine (d + 1)) honly s
  unfold put
  rw [Exec.bind_run (Mapping.hashOf_standin ha), Exec.bind_run hmembers, Exec.bind_run hfound]
  cases found with
  | «at» i => exact ⟨s, rfl, h⟩
  | free i =>
    refine ⟨_, rfl, ⟨⟨n, ?_⟩, k, ?_⟩, m.putAt i x (.object a), ?_, honly.putAt i⟩
    · exact (Array.getElem?_modify.trans (if_neg hca)).trans ha
    · exact (Array.getElem?_modify.trans (if_neg hcb)).trans hb
    · exact Array.getElem?_modify.trans ((if_pos rfl).trans (congrArg _ hc))

/-- Adding what a stand-in yields does not end before the program's steps do. -/
theorem addYielded_exhausts (fuel : Nat) : ∀ s : State, s.Gathers a b c →
    Exhausts (addYielded (Run.engine (d + 2)) c (.object b) fuel) s := by
  induction fuel with
  | zero => exact fun s _ => .throw s
  | succ fuel ih =>
    intro s h
    refine h.toIterates.exhausts (d := d) rfl fun s' hs' => ?_
    have hset := h.set
    rw [← hs'.others c h.ne.2] at hset
    obtain ⟨s'', hput, hgathers⟩ := put_standin (d := d + 1) ⟨hs'.iterates, hset⟩
    exact .behind hput (ih s'' hgathers)

/-- A stand-in has no end of members for a set. -/
theorem update_exhausts (h : s.objects[a]? = some (.standin n)) {m : Members}
    (hc : s.objects[c]? = some { cls := .kind .set, data := .set m })
    (honly : Members.Only (.object a) m.slots) :
    Exhausts (update Run.machine c (.object a)) s := by
  have hsource : (sourceOf (.object a)).run s = .ok .other s := Exec.bind_run (Exec.object_run h)
  have hgathers : (s.iterating a).Gathers a s.objects.size c :=
    ⟨State.iterates_iterating h, m, State.getElem?_push_of_eq hc _, honly⟩
  unfold update
  refine .behind hsource (.behind (Iterate.iter_standin h) (.behind rfl ?_))
  exact addYielded_exhausts (d := 988) _ _ hgathers

end Bag

/-! ## The union with a view -/

/-- A view of the keys of a dictionary that has none. -/
def State.HasNoKeys (s : State) (v : Nat) : Prop :=
  ∃ c, s.objects[v]? = some { cls := .kind (.view .keys), data := .view c } ∧
    ∃ o t, s.objects[c]? = some o ∧ o.data = .dict t ∧ t.toList = []

namespace Operate

theorem asSet_run {v : Nat} (h : s.HasNoKeys v) (e : Engine) (w : Value) :
    ∃ m, (asSet e (.object v)).run s = .ok m s ∧ Members.Only w m.slots := by
  obtain ⟨c, hv, o, t, hc, hdict, hkeys⟩ := h
  have htable : (Mapping.table c).run s = .ok t s := by
    refine (Exec.bind_run (Exec.dataAt_run hc)).trans ?_
    rw [hdict]
    rfl
  have hview : (Exec.object? (.object v)).run s =
      .ok (some { cls := .kind (.view .keys), data := .view c }) s :=
    Exec.map_eq_ok.mpr ⟨_, Exec.object_run hv, rfl⟩
  have hempty : Members.Only w (Array.replicate 8 .free) := by
    intro h w hmem
    cases (Array.mem_replicate.mp hmem).2
  have hmerge : ∃ m, Bag.mergeTable e {} t = pure m ∧ Members.Only w m.slots := by
    unfold Bag.mergeTable
    rw [hkeys]
    refine ⟨_, rfl, ?_⟩
    split
    · exact .resized (m := {}) hempty _
    · exact hempty
  obtain ⟨m, hm, honly⟩ := hmerge
  unfold asSet
  rw [Exec.bind_run hview]
  dsimp only
  rw [Exec.bind_run htable, hm]
  exact ⟨m, rfl, honly⟩

/-- Keys joined with a stand-in. However many steps the program has, it does not come to the end. -/
theorem keys_or_endless {v : Nat} (hv : s.HasNoKeys v) (h : s.objects[a]? = some (.standin n)) :
    Exhausts (binary Run.machine .bitOr (.object v) (.object a)) s := by
  have hasked : Exhausts (onViews Run.machine .bitOr (.object v) (.object a)) s := by
    obtain ⟨m, hset, honly⟩ := asSet_run hv Run.machine (.object a)
    let t : State := { s with objects := s.objects.push { cls := .kind .set, data := .set m } }
    have hlike : (likeSet .set m).run s = .ok (.object s.objects.size) t := rfl
    have hupdate := Bag.update_exhausts (s := t) (State.getElem?_push_of_eq h _)
      Array.getElem?_push_size honly
    unfold onViews
    exact .behind hset (.behind hlike hupdate.bind)
  obtain ⟨c, hview, -⟩ := hv
  have hanswer : Exhausts (answer Run.machine (.op .bitOr) (.object v) (.object a)) s := by
    refine .congr (answer_between (k := .view .keys) (Typing.of_run hview) (Typing.of_standin h)) ?_
    exact hasked.bind
  unfold binary binaryAs
  exact hanswer.bind

/-- A program with the keys of an empty dictionary to the left of a stand-in that it has imported:
the stand-in is not what this comes to, in any number of steps. -/
theorem keys_or_refutes : ∃ s₀ s : State, s₀.Loaded ∧
    (Use.importModule "nope" 0 false).run.run s₀ = .ok (.object 4) s ∧
    s.HasType (.object 4) (.kind .stub) ∧ s.HasType (.object 3) (.kind (.view .keys)) ∧
    ∀ steps, ∃ t, (Use.orBehind (.object 4) (.object 3)).run.run { s with steps := steps } =
      .error .exhausted t := by
  let dict : Object := { cls := .kind .dict, data := .dict {} }
  let view : Object := { cls := .kind (.view .keys), data := .view 2 }
  let s₀ : State := { objects := #[dict, dict, dict, view], steps := 0 }
  let s : State := { s₀ with objects := s₀.objects.push (.standin "nope") }
  refine ⟨s₀, s, nofun, rfl, rfl, rfl, fun steps => ?_⟩
  exact keys_or_endless (s := { s with steps := steps }) ⟨2, rfl, dict, {}, rfl, rfl, rfl⟩ rfl

end Operate

end Exemplar.Machine
