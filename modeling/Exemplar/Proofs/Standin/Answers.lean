import Exemplar.Machine.Run
import Exemplar.Proofs.Standin.Frame

/-
  What operations on a stand-in come to, whatever the machine holds besides: an attribute and a call
  make a new stand-in with a longer name, an item and `|` are the stand-in itself, and its text has
  its name. None of them raises an exception that is not caught on the way.
-/

namespace Exemplar.Machine

open Exec (Ends Answers Spares Looks)

/-- A value is a new address, and a stand-in with a name is there. -/
def State.Gains (s : State) (name : String) (v : Value) (s' : State) : Prop :=
  ∃ b, v = .object b ∧ s.objects[b]? = none ∧ s'.objects[b]? = some (.standin name)

theorem State.Gains.of_keeps {s t s' : State} {name : String} {v : Value} (h : s.Keeps t) :
    t.Gains name v s' → s.Gains name v s' := by
  rintro ⟨b, rfl, hnew, hb⟩
  refine ⟨b, rfl, ?_, hb⟩
  cases hs : s.objects[b]? with
  | none => rfl
  | some o =>
    obtain ⟨o', ho', -⟩ := h.types hs
    rw [hnew] at ho'
    cases ho'

/-- Whether a name stands between double underscores. -/
def isDunder (name : String) : Bool := name.startsWith "__" && name.endsWith "__"

namespace Kind

theorem role?_eq_none {k : Kind} {name : String} (h : name ∉ k.declared) :
    k.role? name = Option.none := by
  unfold declared at h
  simp only [List.mem_append, not_or] at h
  obtain ⟨⟨⟨⟨⟨⟨hslots, hmethods⟩, hclass⟩, hstatic⟩, habsent⟩, hfields⟩, -⟩ := h
  have hlookup : k.fields.lookup name = Option.none := by
    refine List.lookup_eq_none_iff.mpr fun f hf => ?_
    rw [bne_iff_ne]
    rintro rfl
    exact hfields (List.mem_map_of_mem hf)
  simp [role?, hslots, hmethods, hclass, hstatic, habsent, hlookup]

/-- Stand-ins and objects declare names between double underscores only. -/
theorem isDunder_declared : ∀ k ∈ [stub, object], ∀ name ∈ k.declared ++ ["__module__"],
    isDunder name = true := by
  decide +kernel

end Kind

namespace Exec

variable {s : State} {a : Nat} {o : Object}

theorem object_run (h : s.objects[a]? = some o) : (object a).run s = .ok o s := by
  show EStateM.Result.ok (s.objects.getD a default) s = _
  rw [Array.getD_eq_getD_getElem?, h]
  rfl

theorem dataAt_run (h : s.objects[a]? = some o) : (dataAt a).run s = .ok o.data s := by
  show EStateM.Result.ok (s.objects.getD a default).data s = _
  rw [Array.getD_eq_getD_getElem?, h]
  rfl

end Exec

namespace Typing

variable {s : State} {a : Nat} {o : Object} {n name : String}

theorem of_run (h : s.objects[a]? = some o) : (of (.object a)).run s = .ok o.cls s :=
  Exec.bind_run (Exec.object_run h)

theorem of_standin (h : s.objects[a]? = some (.standin n)) :
    (of (.object a)).run s = .ok (.kind .stub) s :=
  of_run h

theorem isA_standin (h : s.objects[a]? = some (.standin n)) :
    (isA (.object a) .stub).run s = .ok true s :=
  Exec.bind_run (of_standin h)

theorem ownName?_standin (h : s.objects[a]? = some (.standin n)) (name : String) :
    (ownName? a name).run s = .ok ([("_name", .str n)].lookup name) s :=
  Exec.bind_run (Exec.object_run h)

theorem ofKind?_eq_none {k : Kind} (hname : name ∉ k.declared ++ ["__module__"]) :
    ofKind? k name = none := by
  have hdeclared : name ∉ k.declared := fun h => hname (List.mem_append_left _ h)
  have hdoc : name ≠ "__doc__" := fun h => hdeclared (h ▸ List.mem_append_right _ (.head _))
  have hmodule : name ≠ "__module__" := fun h => hname (h ▸ List.mem_append_right _ (.head _))
  simp [ofKind?, Kind.role?_eq_none hdeclared, hdoc, hmodule]

theorem find?_eq_none {ks : List Kind} (h : ∀ k ∈ ks, name ∉ k.declared ++ ["__module__"]) :
    (find? name (ks.map .kind)).run s = .ok none s := by
  induction ks with
  | nil => rfl
  | cons k ks ih =>
    rw [List.map_cons]
    unfold find?
    rw [ofKind?_eq_none (h k List.mem_cons_self)]
    exact ih fun j hj => h j (List.mem_cons_of_mem k hj)

/-- Stand-ins declare nothing by a plain name. -/
theorem declared?_plain (hname : isDunder name = false) :
    (declared? (.kind .stub) name).run s = .ok none s := by
  refine find?_eq_none fun k hk hmem => ?_
  have hdunder := Kind.isDunder_declared k hk name hmem
  rw [hname] at hdunder
  cases hdunder

theorem isError_run {cls : String} (h : s.objects[a]? = some o)
    (hcls : o.cls = .kind (.exception cls)) : (isError (.object a) cls).run s = .ok true s := by
  unfold isError isA
  rw [Exec.bind_run (of_run h), hcls]
  show EStateM.Result.ok ((Kind.exception cls).extends? (.exception cls)) s = _
  rw [Kind.extends?, beq_self_eq_true, Bool.true_or]

/-- Stand-ins declare their slots. -/
theorem declared?_slot (hrole : Kind.stub.role? name = some .slot) :
    (declared? (.kind .stub) name).run s = .ok (some (.native .stub name)) s := by
  show (find? name [.kind .stub, .kind .object]).run s = _
  unfold find? ofKind?
  rw [hrole]
  rfl

end Typing

namespace Attribute

variable {e : Engine} {s : State} {a : Nat} {n name : String}

/-- What a stand-in has by a name of its own. -/
theorem ordinary?_standin (h : s.objects[a]? = some (.standin n)) (hname : isDunder name = false) :
    (ordinary? e (.object a) name).run s =
      .ok (if name = "_name" then some (.str n) else none) s := by
  unfold ordinary?
  rw [Exec.bind_run (Typing.of_standin h), Exec.bind_run (Typing.declared?_plain hname)]
  simp only [pure_bind, Bool.false_eq_true, if_false]
  rw [Exec.bind_run (Typing.ownName?_standin h name), List.lookup_cons]
  by_cases heq : name = "_name"
  · subst heq
    rfl
  · rw [beq_eq_false_iff_ne.mpr heq, if_neg heq]
    rfl

theorem isDunder_name : isDunder "_name" = false := by decide +kernel

theorem plain_standin (h : s.objects[a]? = some (.standin n)) :
    (plain e (.object a) name).run s = (ordinary e (.object a) name).run s :=
  Exec.bind_run (Exec.dataAt_run h)

/-- The name of a stand-in is there. -/
theorem get_name (h : s.objects[a]? = some (.standin n)) :
    (get e (.object a) "_name").run s = .ok (.str n) s := by
  have hordinary : (ordinary e (.object a) "_name").run s = .ok (.str n) s := by
    unfold ordinary
    rw [Exec.bind_run (ordinary?_standin h isDunder_name), if_pos rfl]
    rfl
  have hasked : (asked e (.object a) "_name").run s = .ok (.str n) s := by
    unfold asked
    rw [Exec.bind_run (Typing.of_standin h)]
    exact Exec.catching_eq_ok.mpr (.inl ((plain_standin h).trans hordinary))
  exact Exec.catching_eq_ok.mpr (.inl hasked)

/-- A new stand-in. -/
theorem standin_ends (name : String) : Answers (standin (.str name)) s (s.Gains name) :=
  .of_run rfl (.push s _) ⟨_, rfl, Array.getElem?_size, Array.getElem?_push_size⟩

theorem missing_ends (v : Value) (name : String) :
    Ends (missing v name : Exec Value) s (fun _ _ => False) fun stop s' =>
      ∃ b o, stop = .raised (.object b) ∧ s'.objects[b]? = some o ∧
        o.cls = .kind (.exception "AttributeError") := by
  unfold missing
  exact .bind_looks Typing.looks_word fun _ => Exec.raise_ends _ _

/-- A name that a stand-in does not have makes another stand-in. -/
theorem ofStandin_ends (h : s.objects[a]? = some (.standin n)) (hname : isDunder name = false) :
    Answers (ofStandin e (.object a) name) s (s.Gains (n ++ "." ++ name)) := by
  unfold ofStandin
  rw [show (name.startsWith "__" && name.endsWith "__") = false from hname]
  refine .bind_of_run (ordinary?_standin h isDunder_name) ?_
  exact standin_ends _

/-- Any other plain name makes another stand-in. -/
theorem get_standin (h : s.objects[a]? = some (.standin n)) (hname : isDunder name = false)
    (hne : name ≠ "_name") :
    Answers (get e (.object a) name) s (s.Gains (n ++ "." ++ name)) := by
  unfold get
  refine .catching (S := fun _ _ => False) ?_ (fun _ _ _ => False.elim) fun _ _ _ => id
  unfold asked
  refine .bind_of_run (Typing.of_standin h) (.catching ?_ (S := fun stop s' =>
    ∃ b o, stop = .raised (.object b) ∧ s'.objects[b]? = some o ∧
      o.cls = .kind (.exception "AttributeError")) ?_ ?_)
  · refine .congr (plain_standin h) (.bind_of_run (ordinary?_standin h hname) ?_)
    rw [if_neg hne]
    exact (missing_ends _ name).raises
  · rintro _ t ht ⟨b, o, ⟨⟩, ho, hcls⟩
    have hrole : Kind.stub.role? "__getattr__" = some .slot := by decide +kernel
    have hcaught : (Typing.isError (.object b) "AttributeError").run t = .ok true t :=
      Typing.isError_run ho hcls
    refine .bind_of_run hcaught (.bind_of_run (Typing.declared?_slot hrole) ?_)
    exact (ofStandin_ends (ht.standins h) hname).mono (fun _ _ _ => .of_keeps ht) fun _ _ _ => id
  · rintro _ t hstop ⟨b, o, rfl, -⟩
    exact absurd rfl (hstop _)

end Attribute

/-! ## Calls -/

namespace Typing

variable {t v : Value} {name : String}

theorem looks_ownName? (a : Nat) : Looks (ownName? a name) := by
  refine .bind (.object a) fun o => ?_
  split
  · exact .pure
  · refine .bind (.dataAt _) fun d => ?_
    split <;> exact .pure
  · exact .pure

theorem looks_find? (ts : List Value) : Looks (find? name ts) := by
  induction ts with
  | nil => exact .pure
  | cons t ts ih =>
    cases t with
    | kind k =>
      unfold find?
      split
      · exact .pure
      · exact ih
    | object a =>
      unfold find?
      refine .bind (looks_ownName? a) fun w => ?_
      split
      · exact .pure
      · exact ih
    | _ => exact ih

theorem looks_special? : Looks (special? v name) :=
  .bind looks_of fun _ => .bind looks_lineage fun _ => looks_find? _

theorem looks_isType : Looks (isType v) := by
  cases v with
  | kind k => exact .pure
  | _ => exact .bind looks_class fun _ => .pure

end Typing

/-- A value can be called, as a state of the machine has it. -/
def State.CanCall (s : State) (v : Value) : Prop := (Slot.isCallable v).run s = .ok true s

theorem looks_isCallable (v : Value) : Looks (Slot.isCallable v) := by
  unfold Slot.isCallable
  split
  case _ => exact .pure
  case _ => exact .pure
  case _ => exact .pure
  case _ => exact .pure
  case _ => exact .pure
  case _ => exact .pure
  refine .bind Typing.looks_isType fun b => ?_
  split
  · exact .pure
  · exact .bind Typing.looks_special? fun _ => .pure

/-- Objects without a type of their own and modules cannot be called. -/
theorem not_canCall {s : State} {b : Nat} {k : Kind} (hk : k ∈ [Kind.object, .module])
    (hcls : (s.objects.getD b default).cls = .kind k)
    (hdata : ∀ c, (s.objects.getD b default).data ≠ .classOf c) : ¬s.CanCall (.object b) := by
  have hclass : (Typing.class? (.object b)).run s = .ok none s := by
    have hrun : (Exec.dataAt b).run s = .ok (s.objects.getD b default).data s := rfl
    refine (Exec.bind_run hrun).trans ?_
    split
    · rename_i c hc
      exact absurd hc (hdata c)
    · rfl
  have htype : (Typing.isType (.object b)).run s = .ok false s := Exec.bind_run hclass
  have hof : (Typing.of (.object b)).run s = .ok (.kind k) s := hcls ▸ rfl
  have hnone : ∀ k ∈ [Kind.object, .module], ∀ j ∈ k.lineage,
      "__call__" ∉ j.declared ++ ["__module__"] := by
    decide +kernel
  have hspecial : (Typing.special? (.object b) "__call__").run s = .ok none s :=
    (Exec.bind_run hof).trans (Typing.find?_eq_none (hnone k hk))
  have hnot : (Slot.isCallable (.object b)).run s = .ok false s :=
    (Exec.bind_run htype).trans (Exec.bind_run hspecial)
  intro hcall
  rw [State.CanCall, hnot] at hcall
  cases hcall

namespace Slot

variable {e : Engine} {s : State} {a : Nat} {n name : String} {args : List Value} {named : Fields}

/-- A stand-in gives back its only argument if that can be called; else it makes another one. -/
theorem callStandin_ends (h : s.objects[a]? = some (.standin n))
    (hself : named.lookup "self" = none) :
    Answers (callStandin e (.object a) args named) s fun v s' =>
      (∃ w, args = [w] ∧ named = [] ∧ s.CanCall w ∧ v = w) ∨
      (∀ w, args = [w] → named = [] → ¬s.CanCall w) ∧ s.Gains (n ++ "()") v s' := by
  have another : Answers (do
      let own ← Attribute.get e (.object a) "_name"
      Attribute.standin (.str ((← Format.value e own "") ++ "()"))) s (s.Gains (n ++ "()")) :=
    .bind_of_run (Attribute.get_name h) (.bind_of_run (a := n) rfl (Attribute.standin_ends _))
  unfold callStandin
  rw [hself]
  dsimp only [Option.isSome]
  rw [if_neg Bool.false_ne_true]
  split
  case h_1 w =>
    obtain ⟨c, hc⟩ := looks_isCallable w s
    refine .bind_of_run hc ?_
    by_cases hpass : named = [] ∧ c = true
    · obtain ⟨rfl, rfl⟩ := hpass
      exact .pure (.inl ⟨w, rfl, rfl, hc, rfl⟩)
    · rw [if_neg (by simpa [List.isEmpty_iff] using hpass)]
      refine another.mono (fun v s' _ hv => Or.inr ⟨?_, hv⟩) fun _ _ _ => id
      rintro _ ⟨⟩ hnamed hcall
      rw [State.CanCall, hc] at hcall
      cases hcall
      exact hpass ⟨hnamed, rfl⟩
  case h_2 hne =>
    exact another.mono (fun v s' _ hv => Or.inr ⟨fun w hw => absurd hw (hne w), hv⟩)
      fun _ _ _ => id

end Slot

theorem Call.value_standin {e : Engine} {s : State} {a : Nat} {n : String} {args : List Value}
    {named : Fields} (h : s.objects[a]? = some (.standin n)) :
    (Call.value e (.object a) args named).run s =
      (Slot.callStandin e (.object a) args named).run s :=
  Exec.bind_run (Exec.object_run h)

/-! ## Items and texts -/

theorem Item.get_standin {e : Engine} {s : State} {a : Nat} {n : String}
    (h : s.objects[a]? = some (.standin n)) (key : Value) :
    (Item.get e (.object a) key).run s = .ok (.object a) s := by
  have hplainly : (Item.plainly e (.object a) key).run s = .ok (.object a) s := by
    have hunboxed : (Typing.unboxed (.object a)).run s = .ok (.object a) s :=
      Exec.bind_run (Exec.dataAt_run h)
    unfold Item.plainly
    rw [Exec.bind_run hunboxed]
    exact (Exec.bind_run (Exec.dataAt_run h)).trans (Exec.bind_run (Typing.isA_standin h))
  exact (Exec.bind_run (Exec.object_run h)).trans hplainly

theorem Show.quoted_standin {e : Engine} {s : State} {a : Nat} {n : String}
    (h : s.objects[a]? = some (.standin n)) :
    (Show.quoted e (.object a)).run s = .ok ("<stub " ++ n ++ ">") s := by
  have hplainly : (Show.plainly e (.object a)).run s = .ok ("<stub " ++ n ++ ">") s := by
    unfold Show.plainly
    rw [Exec.bind_run (Exec.object_run h)]
    exact Exec.bind_run (Typing.ownName?_standin h "_name")
  unfold Show.quoted
  rw [Exec.bind_run (Exec.object_run h)]
  exact hplainly

end Exemplar.Machine
