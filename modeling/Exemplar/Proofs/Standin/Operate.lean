import Exemplar.Proofs.Standin.Answers
import Exemplar.Proofs.Standin.Frame

/-
  The operator `|` with a stand-in on one side. On the left a stand-in answers by itself. On the
  right it is asked last: the types of the library that know the operator refuse a stand-in, and so
  it answers by itself again. The views of a dictionary that are like sets are left out: they do not
  refuse but iterate over whatever stands on their right.

  Comparing stand-ins for equality. A stand-in says nothing about what it equals, so the other value
  is asked, and no type of the library has an answer for a stand-in (`Compare.byKind_standin`).
  Therefore it equals only itself (`Compare.equal_standin`), in the state in which it has been
  obtained and in all later ones (`State.differ_standin`). Proxies of dictionaries are left out:
  they have the dictionary behind them compared instead.
-/

namespace Exemplar.Machine

open Exec (Ends Answers Spares Looks)

/-- A value has a type, as a state of the machine has it. -/
def State.HasType (s : State) (v t : Value) : Prop := (Typing.of v).run s = .ok t s

theorem State.HasType.object {s : State} {b : Nat} {k : Kind}
    (h : s.HasType (.object b) (.kind k)) (hk : k ≠ .object) :
    ∃ o, s.objects[b]? = some o ∧ o.cls = .kind k := by
  have hcls : (s.objects.getD b default).cls = .kind k := (EStateM.Result.ok.inj h).1
  rw [Array.getD_eq_getD_getElem?] at hcls
  cases ho : s.objects[b]? with
  | none =>
    rw [ho] at hcls
    exact absurd (Value.kind.inj hcls).symm hk
  | some o =>
    rw [ho] at hcls
    exact ⟨o, rfl, hcls⟩

/-- Only what an address leads to is a stand-in. -/
theorem State.HasType.exists_object {s : State} {v : Value} (h : s.HasType v (.kind .stub)) :
    ∃ b, v = .object b := by
  cases v with
  | object b => exact ⟨b, rfl⟩
  | native k name =>
    have hkind := Value.kind.inj (EStateM.Result.ok.inj h).1
    split at hkind <;> cases hkind
  | method v k name =>
    have hkind := Value.kind.inj (EStateM.Result.ok.inj h).1
    split at hkind <;> cases hkind
  | _ => cases h

/-- Types stay, but for a value that is not in the store yet. -/
theorem State.Keeps.hasType {s t : State} {v : Value} {k : Kind} (h : s.Keeps t)
    (hv : s.HasType v (.kind k)) (hk : k ≠ .object) : t.HasType v (.kind k) := by
  cases v with
  | object b =>
    obtain ⟨o, ho, hcls⟩ := hv.object hk
    obtain ⟨o', ho', hlike⟩ := h.types ho
    exact (Typing.of_run ho').trans (by rw [hlike.1, hcls])
  | _ =>
    cases hv
    rfl

/-- A value is no proxy through which a stand-in is seen. -/
def State.Unproxied (s : State) (v : Value) : Prop :=
  ∀ b o c, v = .object b → s.objects[b]? = some o → o.data = .proxy (.object c) →
    ∀ n, s.objects[c]? ≠ some (.standin n)

theorem Typing.isA_run {s : State} {v : Value} {k : Kind} (hv : s.HasType v (.kind k)) (j : Kind) :
    (isA v j).run s = .ok (k.extends? j) s :=
  Exec.bind_run hv

namespace Kind

theorem mem_lineage {j k : Kind} (h : j ∈ k.lineage) :
    j = k ∨ j = object ∨ j = int ∨ ∃ name, j = exception name := by
  unfold lineage at h
  split at h
  case h_3 =>
    obtain h | h := List.mem_append.mp h
    · obtain ⟨name, -, rfl⟩ := List.mem_map.mp h
      exact .inr (.inr (.inr ⟨name, rfl⟩))
    · exact .inr (.inl (List.mem_singleton.mp h))
  case h_4 =>
    obtain ⟨name, -, rfl⟩ := List.mem_map.mp h
    split
    · exact .inr (.inl rfl)
    · exact .inr (.inr (.inr ⟨name, rfl⟩))
  all_goals
    simp only [List.mem_cons, List.not_mem_nil, or_false] at h
    grind

theorem eq_of_extends_stub {k : Kind} (h : k.extends? stub = true) : k = stub := by
  simp only [extends?, Bool.or_eq_true, beq_iff_eq, List.contains_iff_mem] at h
  obtain h | h := h
  · exact h
  · obtain h | h | h | ⟨name, h⟩ := mem_lineage h
    · exact h.symm
    all_goals cases h

theorem stub_extends {k : Kind} (h : stub.extends? k = true) : k = stub ∨ k = object := by
  simp only [extends?, lineage, Bool.or_eq_true, beq_iff_eq, List.contains_iff_mem, List.mem_cons,
    List.not_mem_nil, or_false] at h
  grind

end Kind

namespace Operate

variable {e : Engine} {s : State} {a : Nat} {n : String} {v x y : Value} {j k k' : Kind}

/-- The family that answers for `|` on values of a type of the library. -/
def orFamily (k : Kind) : Option Kind := k.lineage.findSome? fun j => familyOf j (.op .bitOr)

/-- The families of types that know the operator. -/
theorem familyOf_bitOr (h : familyOf j (.op .bitOr) = some k) :
    k ∈ [Kind.int, .bool, .set, .dict, .mappingProxy, .type] ∨
      k = .view .keys ∧ (j = .view .keys ∨ j = .view .items) ∨ k = .stub ∧ j = .stub := by
  unfold familyOf at h
  split at h <;> simp_all

theorem orFamily_cases (h : orFamily k = some j) :
    j ∈ [Kind.int, .bool, .set, .dict, .mappingProxy, .type] ∨
      j = .view .keys ∧ (k = .view .keys ∨ k = .view .items) ∨ j = .stub ∧ k = .stub := by
  obtain ⟨m, hm, hfamily⟩ := List.exists_of_findSome?_eq_some h
  have hm := Kind.mem_lineage hm
  obtain h | ⟨rfl, h⟩ | ⟨rfl, rfl⟩ := familyOf_bitOr hfamily
  · exact .inl h
  · exact .inr (.inl ⟨rfl, by grind⟩)
  · exact .inr (.inr ⟨rfl, by grind⟩)

/-- What the families of two types of the library make of `|`: that of the left operand is asked
first, unless the type of the right one extends that of the left. -/
def between (e : Engine) (x y : Value) (k k' : Kind) : Exec Value :=
  let asking (j : Kind) : Exec Value := ofNative e j (.op .bitOr) x y
  let inTurn (j j' : Kind) : Exec Value := do
    let r ← asking j
    if r.isNotImplemented then asking j' else pure r
  match orFamily k, orFamily k' with
  | none, none => pure .notImplemented
  | some j, none | none, some j => asking j
  | some j, some j' =>
    if j = j' then asking j
    else if k'.extends? k then inTurn j' j else inTurn j j'

theorem answer_between (hx : s.HasType x (.kind k)) (hy : s.HasType y (.kind k')) :
    (answer e (.op .bitOr) x y).run s = (between e x y k k').run s := by
  have parties : ∀ k, (partyOf (.kind k) (.op .bitOr)).run s =
      .ok ((orFamily k).map .native) s := fun _ => rfl
  unfold answer
  rw [Exec.bind_run hx, Exec.bind_run hy, Exec.bind_run (parties k)]
  dsimp only
  by_cases hsame : k = k'
  · subst hsame
    rw [if_pos (show (Value.kind k).same (.kind k) = true from beq_self_eq_true k), pure_bind]
    unfold between
    cases orFamily k with
    | none => rfl
    | some j => simp
  · rw [if_neg (show ¬(Value.kind k).same (.kind k') = true from mt eq_of_beq hsame),
      Exec.bind_run (parties k')]
    unfold between
    cases orFamily k with
    | none => cases orFamily k' <;> rfl
    | some j =>
      cases orFamily k' with
      | none => rfl
      | some j' =>
        by_cases hj : j = j'
        · subst hj
          simp
        · simp only [Option.map_some, beq_iff_eq, Option.some.injEq, Party.native.injEq, hj,
            if_false]
          exact Exec.bind_run rfl

/-- The stand-in on the left is the result. -/
theorem stub_first (hx : s.HasType (.object a) (.kind .stub)) (hv : s.HasType v (.kind k)) :
    (binary e .bitOr (.object a) v).run s = .ok (.object a) s := by
  have hnative : (ofNative e .stub (.op .bitOr) (.object a) v).run s = .ok (.object a) s :=
    Exec.bind_run (Typing.isA_run hx .stub)
  have hanswer : (answer e (.op .bitOr) (.object a) v).run s = .ok (.object a) s := by
    rw [answer_between hx hv]
    unfold between
    rw [show orFamily .stub = some .stub from rfl]
    cases hk : orFamily k with
    | none => exact hnative
    | some j =>
      dsimp only
      by_cases hj : .stub = j
      · rw [if_pos hj]
        exact hnative
      · have hsub : ¬k.extends? .stub = true := by
          intro hsub
          rw [Kind.eq_of_extends_stub hsub] at hk
          exact hj (Option.some.inj hk)
        rw [if_neg hj, if_neg hsub]
        exact Exec.bind_run hnative
  unfold binary binaryAs
  exact Exec.bind_run hanswer

/-! ## A stand-in on the right -/

theorem looks_unboxed (v : Value) : Looks (Typing.unboxed v) := by
  cases v with
  | object b =>
    refine .bind (.dataAt b) fun d => ?_
    cases d <;> exact .pure
  | _ => exact .pure

theorem unboxed_standin (h : s.objects[a]? = some (.standin n)) :
    (Typing.unboxed (.object a)).run s = .ok (.object a) s :=
  Exec.bind_run (Exec.dataAt_run h)

theorem data?_standin (h : s.objects[a]? = some (.standin n)) :
    (Exec.data? (.object a)).run s = .ok (some .plain) s :=
  Exec.map_eq_ok.mpr ⟨_, Exec.dataAt_run h, rfl⟩

theorem looks_data? (v : Value) : Looks (Exec.data? v) := by
  cases v with
  | object b => exact .map (.dataAt b)
  | _ => exact fun _ => ⟨none, rfl⟩

/-- What a value holds, as a state of the machine has it. -/
def dataOf (s : State) : Value → Option Data
  | .object b => some (s.objects.getD b default).data
  | _ => none

theorem data?_run (v : Value) (s : State) : (Exec.data? v).run s = .ok (dataOf s v) s := by
  cases v <;> rfl

theorem exists_of_data? {d : Data} (h : dataOf s v = some d) (hd : d ≠ .plain) :
    ∃ b o, v = .object b ∧ s.objects[b]? = some o ∧ o.data = d := by
  cases v with
  | object b =>
    dsimp only [dataOf] at h
    rw [Array.getD_eq_getD_getElem?] at h
    cases ho : s.objects[b]? with
    | none =>
      rw [ho] at h
      exact absurd (Option.some.inj h).symm hd
    | some o =>
      rw [ho] at h
      exact ⟨b, o, rfl, ho, Option.some.inj h⟩
  | _ => cases h

theorem onNumbers_refuses (h : s.objects[a]? = some (.standin n)) (hk : k = .int ∨ k = .bool) :
    (onNumbers k .bitOr v (.object a)).run s = .ok .notImplemented s := by
  obtain ⟨w, hw⟩ := looks_unboxed v s
  unfold onNumbers
  rw [Exec.bind_run hw, Exec.bind_run (unboxed_standin h)]
  obtain rfl | rfl := hk
  · cases w <;> rfl
  · cases w <;> rfl

theorem set?_standin (h : s.objects[a]? = some (.standin n)) :
    (set? (.object a)).run s = .ok none s :=
  Exec.bind_run (data?_standin h)

theorem dict?_standin (h : s.objects[a]? = some (.standin n)) :
    (dict? (.object a)).run s = .ok none s :=
  Exec.bind_run (data?_standin h)

theorem looks_dict? (v : Value) : Looks (dict? v) := by
  refine .bind (looks_data? v) fun d => ?_
  split <;> exact .pure

theorem looks_set? (v : Value) : Looks (set? v) := by
  refine .bind (looks_data? v) fun d => ?_
  split
  · exact .bind Typing.looks_isA fun _ => .pure
  · exact .pure

theorem onSets_refuses (h : s.objects[a]? = some (.standin n)) :
    (onSets e .bitOr v (.object a)).run s = .ok .notImplemented s := by
  obtain ⟨m, hm⟩ := looks_set? v s
  unfold onSets
  rw [Exec.bind_run hm, Exec.bind_run (set?_standin h)]
  cases m <;> rfl

theorem onDicts_refuses (h : s.objects[a]? = some (.standin n)) :
    (onDicts e .bitOr v (.object a)).run s = .ok .notImplemented s := by
  obtain ⟨t, ht⟩ := looks_dict? v s
  unfold onDicts
  rw [Exec.bind_run ht, Exec.bind_run (dict?_standin h)]
  cases t <;> rfl

theorem looks_isUnionMember (v : Value) : Looks (isUnionMember v) := by
  unfold isUnionMember
  split
  case h_4 => exact Typing.looks_isType
  all_goals exact .pure

theorem onTypes_refuses (h : s.objects[a]? = some (.standin n)) :
    (onTypes e .bitOr v (.object a)).run s = .ok .notImplemented s := by
  have hclass : (Typing.class? (.object a)).run s = .ok none s :=
    Exec.bind_run (Exec.dataAt_run h)
  have hnot : (isUnionMember (.object a)).run s = .ok false s := Exec.bind_run hclass
  obtain ⟨b, hb⟩ := looks_isUnionMember v s
  unfold onTypes
  rw [Exec.bind_run hb, Exec.bind_run hnot, Bool.and_false]
  rfl

theorem looks_namesOf (b : Nat) : Looks (Typing.namesOf b) := by
  refine .bind (.object b) fun o => ?_
  split
  · exact .pure
  · refine .bind (.dataAt _) fun d => ?_
    split <;> exact .pure
  · exact .pure

/-- An object that is no stand-in gets a dictionary of its names. -/
theorem dictionary_ends {c : Nat} (hc : ∀ m, s.objects[c]? ≠ some (.standin m)) :
    Answers (Typing.dictionary c) s fun _ _ => True := by
  unfold Typing.dictionary
  refine .bind_of_run rfl ?_
  split
  · exact .pure trivial
  · refine .bind_looks (looks_namesOf c) fun fields => ?_
    refine .bind (Exec.newObject_ends _) ?_
    rintro _ t - ⟨rfl, rfl⟩
    refine .bind (Exec.setNames_ends _ fun m hm => ?_) fun _ _ _ _ => .pure trivial
    rw [Array.getElem?_push] at hm
    split at hm
    · cases Option.some.inj hm
    · exact hc m hm

theorem onProxies_refuses (h : s.objects[a]? = some (.standin n)) (hv : s.Unproxied v) :
    Answers (ofNative e .mappingProxy (.op .bitOr) v (.object a)) s fun r _ =>
      r = .notImplemented := by
  unfold ofNative
  refine .bind (Q := fun _ _ => True) ?_ fun w t ht _ => ?_
  · refine .bind_of_run (data?_run v s) ?_
    split
    · rename_i c hdata
      obtain ⟨b, o, rfl, ho, hproxy⟩ := exists_of_data? hdata nofun
      refine .bind_of_run rfl ?_
      split
      · exact .pure trivial
      · exact dictionary_ends (hv b o c rfl ho hproxy)
    · exact .pure trivial
  · refine .bind_of_run (a := .object a) (Exec.bind_run (data?_standin (ht.standins h))) ?_
    exact .of_run (onDicts_refuses (ht.standins h)) (.refl t) rfl

/-- The types that know the operator refuse a stand-in on the right. -/
theorem ofNative_refuses (h : s.objects[a]? = some (.standin n)) (hv : s.Unproxied v)
    (hj : j ∈ [Kind.int, .bool, .set, .dict, .mappingProxy, .type]) :
    Answers (ofNative e j (.op .bitOr) v (.object a)) s fun r _ => r = .notImplemented := by
  simp only [List.mem_cons, List.not_mem_nil, or_false] at hj
  obtain rfl | rfl | rfl | rfl | rfl | rfl := hj
  · exact .of_run (onNumbers_refuses h (.inl rfl)) (.refl s) rfl
  · exact .of_run (onNumbers_refuses h (.inr rfl)) (.refl s) rfl
  · exact .of_run (onSets_refuses h) (.refl s) rfl
  · exact .of_run (onDicts_refuses h) (.refl s) rfl
  · exact onProxies_refuses h hv
  · exact .of_run (onTypes_refuses h) (.refl s) rfl

/-- The stand-in on the right is the result. -/
theorem stub_last (h : s.objects[a]? = some (.standin n)) (hv : s.HasType v (.kind k))
    (hk : k ≠ .stub) (hview : k ≠ .view .keys ∧ k ≠ .view .items) (hproxy : s.Unproxied v) :
    Answers (binary e .bitOr v (.object a)) s fun r _ => r = .object a := by
  have hstub : ∀ t : State, t.HasType v (.kind k) →
      (ofNative e .stub (.op .bitOr) v (.object a)).run t = .ok (.object a) t := by
    intro t ht
    refine (Exec.bind_run (Typing.isA_run ht .stub)).trans ?_
    rw [if_neg (mt Kind.eq_of_extends_stub hk)]
    rfl
  have hanswer : Answers (answer e (.op .bitOr) v (.object a)) s fun r _ => r = .object a := by
    refine .congr (answer_between hv (Typing.of_standin h)) ?_
    unfold between
    rw [show orFamily .stub = some .stub from rfl]
    cases hfamily : orFamily k with
    | none => exact .of_run (hstub s hv) (.refl s) rfl
    | some j =>
      have hobject : k ≠ .object := by
        rintro rfl
        cases hfamily
      have hj : j ∈ [Kind.int, .bool, .set, .dict, .mappingProxy, .type] := by
        obtain hj | ⟨-, hk' | hk'⟩ | ⟨-, hk'⟩ := orFamily_cases hfamily
        · exact hj
        · exact absurd hk' hview.1
        · exact absurd hk' hview.2
        · exact absurd hk' hk
      have hsub : ¬Kind.stub.extends? k = true :=
        fun hsub => (Kind.stub_extends hsub).elim hk hobject
      dsimp only
      rw [if_neg (by rintro rfl; simp at hj), if_neg hsub]
      refine .bind (ofNative_refuses h hproxy hj) ?_
      rintro _ t ht rfl
      exact .of_run (hstub t (ht.hasType hv hobject)) (.refl t) rfl
  have heq : binary e .bitOr v (.object a) = (do
      let r ← answer e (.op .bitOr) v (.object a)
      if r.isNotImplemented then onSequences e .bitOr BinaryOp.bitOr.sign v (.object a)
      else pure r) := by
    cases v <;> rfl
  rw [heq]
  refine .bind hanswer ?_
  rintro _ t - rfl
  exact .pure rfl

end Operate

/-! ## Equality -/

variable {s t : State} {a d : Nat} {n : String} {e : Engine} {v w : Value} {k : Kind}

namespace Compare

theorem looks_bytes? (v : Value) : Looks (bytes? v) := by
  refine .bind (Operate.looks_unboxed v) fun u => ?_
  cases u with
  | object b =>
    refine .bind (.dataAt b) fun d => ?_
    cases d <;> exact .pure
  | _ => exact .pure

theorem bytes?_standin (h : s.objects[a]? = some (.standin n)) :
    (bytes? (.object a)).run s = .ok none s :=
  (Exec.bind_run (Operate.unboxed_standin h)).trans (Exec.bind_run (Exec.dataAt_run h))

theorem looks_likeSet? (v : Value) : Looks (likeSet? v) := by
  cases v with
  | object b =>
    refine .bind (.object b) fun o => ?_
    split
    · exact .pure
    · refine .bind (.dataAt _) fun d => ?_
      split <;> exact .pure
    · exact .pure
  | _ => exact .pure

theorem likeSet?_standin (h : s.objects[a]? = some (.standin n)) :
    (likeSet? (.object a)).run s = .ok none s :=
  Exec.bind_run (Exec.object_run h)

theorem views_standin (h : s.objects[a]? = some (.standin n)) :
    (views e .eq v (.object a)).run s = .ok none s := by
  obtain ⟨items, hitems⟩ := looks_likeSet? v s
  unfold views
  rw [Exec.bind_run hitems, Exec.bind_run (likeSet?_standin h)]
  cases items <;> rfl

/-- No type of the library but that of proxies has an answer for a stand-in. -/
theorem byKind_standin (h : s.objects[a]? = some (.standin n)) (hk : k ≠ .mappingProxy) :
    (byKind e k .eq v (.object a)).run s = .ok none s := by
  obtain ⟨u, hu⟩ := Operate.looks_unboxed v s
  unfold byKind
  rw [Exec.bind_run hu, Exec.bind_run (Operate.unboxed_standin h)]
  have hnumber : Numeric.ofValue? (.object a) = none := rfl
  split
  -- Bytes, numbers, views, proxies, and what else has an address; no other arm takes a stand-in.
  case h_6 | h_7 =>
    obtain ⟨bytes, hbytes⟩ := looks_bytes? v s
    rw [Exec.bind_run hbytes, Exec.bind_run (bytes?_standin h)]
    cases bytes <;> rfl
  case h_8 | h_9 | h_10 | h_11 =>
    rw [hnumber]
    split
    all_goals first | rfl | contradiction
  case h_12 => exact views_standin h
  case h_18 => exact absurd rfl hk
  case h_19 =>
    rename_i heq
    cases heq
    refine (Exec.bind_run rfl).trans ((Exec.bind_run (Exec.dataAt_run h)).trans ?_)
    split
    case h_5 => rfl
    all_goals contradiction
  all_goals first | rfl | contradiction

theorem plainly?_object (a : Nat) (w : Value) : plainly? (.object a) w = none := by
  cases w <;> rfl

theorem same_object (hw : w ≠ .object a) : (Value.object a).same w = false := by
  cases w with
  | object b => exact beq_eq_false_iff_ne.mpr fun hab => hw (congrArg Value.object hab.symm)
  | _ => rfl

theorem same_comm_object (hw : w ≠ .object a) : w.same (.object a) = false := by
  cases w with
  | object b => exact beq_eq_false_iff_ne.mpr fun hab => hw (congrArg Value.object hab)
  | _ => rfl

/-- A stand-in has no answer itself. -/
theorem ask_standin (hw : w ≠ .object a) :
    (ask e (.kind .stub) .eq (.object a) w).run s = .ok .notImplemented s := by
  have hown : Kind.stub.lineage.find? comparesItself = none := by decide +kernel
  show (ofKind e .stub .eq (.object a) w).run s = _
  unfold ofKind
  rw [hown]
  dsimp only
  rw [same_object hw]
  rfl

/-- The other value has none either: its own type is asked, one that this extends, or the type of
all things. -/
theorem asked_standin (h : s.objects[a]? = some (.standin n)) (hw : w ≠ .object a)
    (hk : k ≠ .mappingProxy) :
    (ask e (.kind k) .eq w (.object a)).run s = .ok .notImplemented s := by
  show (ofKind e k .eq w (.object a)).run s = _
  unfold ofKind
  dsimp only
  rw [same_comm_object hw]
  cases hfind : k.lineage.find? comparesItself with
  | none => rfl
  | some j =>
    have hj : j ≠ .mappingProxy := by
      have hmem := Kind.mem_lineage (List.mem_of_find?_eq_some hfind)
      rintro rfl
      obtain rfl | hmem | hmem | ⟨name, hmem⟩ := hmem
      · exact hk rfl
      all_goals cases hmem
    dsimp only
    split
    · rfl
    · exact Exec.bind_run (byKind_standin h hj)

/-- A stand-in does not equal any other value of the library's types. -/
theorem equal_standin (h : s.objects[a]? = some (.standin n)) (hw : s.HasType w (.kind k))
    (hne : w ≠ .object a) (hk : k ≠ .mappingProxy) :
    (equal (Run.engine (d + 1)) (.object a) w).run s = .ok false s := by
  have hfirst := ask_standin (s := s) (e := Run.engine d) hne
  have hlast := asked_standin (e := Run.engine d) h hne hk
  have hextends (hsame : ¬(Value.kind .stub).same (.kind k) = true) :
      (Typing.extends? (.kind k) (.kind .stub)).run s = .ok false s := by
    have hnot : k.extends? .stub = false := by
      rw [Bool.eq_false_iff]
      intro hsub
      rw [Kind.eq_of_extends_stub hsub] at hsame
      exact hsame (beq_self_eq_true Kind.stub)
    show EStateM.Result.ok (k.extends? .stub) s = _
    rw [hnot]
  have hanswer : (answer (Run.engine d) .eq (.object a) w).run s = .ok (.bool false) s := by
    have hnumber : Numeric.ofValue? (.object a) = none := rfl
    unfold answer
    split
    case h_1 | h_2 => contradiction
    rw [hnumber]
    dsimp only
    rw [Exec.bind_run (Typing.of_standin h), Exec.bind_run hw]
    -- Neither type extends the other one, so the stand-in is asked first.
    split
    all_goals
      refine (Exec.bind_run (a := false) (t := s) (by first | rfl | exact hextends ‹_›)).trans ?_
      refine (Exec.bind_run hfirst).trans ((Exec.bind_run hlast).trans ?_)
      rw [same_object hne]
      rfl
  unfold equal
  rw [plainly?_object, same_object hne]
  exact Exec.bind_run hanswer

end Compare

/-- A value is of a type of the library, and is in the store if it is an address. -/
def State.HasKind (s : State) (w : Value) (k : Kind) : Prop :=
  s.HasType w (.kind k) ∧ ∀ b, w = .object b → ∃ o, s.objects[b]? = some o

theorem State.HasKind.hasType (h : s.HasKind w k) (hk : s.Keeps t) : t.HasType w (.kind k) := by
  obtain ⟨htype, hstored⟩ := h
  cases w with
  | object b =>
    obtain ⟨o, ho⟩ := hstored b rfl
    obtain ⟨o', ho', hlike⟩ := hk.types ho
    have hcls : o.cls = .kind k := (EStateM.Result.ok.inj ((Typing.of_run ho).symm.trans htype)).1
    exact (Typing.of_run ho').trans (by rw [hlike.1, hcls])
  | _ =>
    cases htype
    rfl

/-- From now on two values differ, and comparing them changes nothing. -/
def State.Differ (s : State) (e : Engine) (v w : Value) : Prop :=
  ∀ t, s.Keeps t → (Compare.equal e v w).run t = .ok false t

theorem State.Differ.later (h : s.Differ e v w) (hk : s.Keeps t) : t.Differ e v w :=
  fun t' hk' => h t' (hk.trans hk')

theorem State.differ_standin (h : s.objects[a]? = some (.standin n)) (hw : s.HasKind w k)
    (hne : w ≠ .object a) (hk : k ≠ .mappingProxy) :
    s.Differ (Run.engine (d + 1)) (.object a) w :=
  fun _ hkeeps => Compare.equal_standin (hkeeps.standins h) (hw.hasType hkeeps) hne hk

end Exemplar.Machine
