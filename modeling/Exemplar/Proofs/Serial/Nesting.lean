import Mathlib.Data.List.Perm.Subperm
import Mathlib.Logic.Relation
import Exemplar.Machine.Store

/-
  What values are made of. A value is text, a number or nothing, a container with its parts, or a
  thing of which only the quoted text counts (`State.form`). Parts may be shared, and a value may be
  inside itself. A value nests in some number of levels exactly if nothing in it is inside itself
  (`State.exists_nests_iff`): the addresses on the way to a part are all different, and there are as
  many as the store has.
-/

namespace Exemplar.Machine

/-- What a value is made of. -/
inductive Form
  | null
  | bool (b : Bool)
  | int (n : Int)
  | float (x : Binary64)
  | str (s : String)
  | tuple (items : List Value)
  | list (address : Nat) (items : List Value)
  | dict (address : Nat) (entries : List Entry)
  /-- A thing of which only its quoted text counts. -/
  | other

/-- The form of the object at an address. An instance of a declared class is a thing. -/
def Object.form (o : Object) (address : Nat) : Form :=
  match o.cls, o.data with
  | .kind .list, .list items => .list address items.toList
  | .kind .dict, .dict t => .dict address t.toList
  | _, _ => .other

/-- Where a container is that has an identity. -/
def Form.address? : Form → Option Nat
  | .list a _ | .dict a _ => some a
  | _ => none

def Form.parts : Form → List Value
  | .tuple items | .list _ items => items
  | .dict _ entries => entries.flatMap fun e => [e.key, e.value]
  | _ => []

theorem Form.forall_parts_dict {a : Nat} {entries : List Entry} {p : Value → Prop} :
    (∀ w ∈ (Form.dict a entries).parts, p w) ↔ ∀ e ∈ entries, p e.key ∧ p e.value := by
  unfold Form.parts
  induction entries with
  | nil => simp
  | cons e es ih => simp [← ih, and_assoc]

/-- An object that stands for nothing but itself: neither a container of a document nor a value in
an instance of a class that extends its type. -/
def Object.IsThing (o : Object) : Prop :=
  match o.data with
  | .list _ | .dict _ | .boxed _ => False
  | _ => True

theorem Object.IsThing.ne_boxed {o : Object} (h : o.IsThing) (w : Value) : o.data ≠ .boxed w := by
  intro hdata
  unfold Object.IsThing at h
  rw [hdata] at h
  exact h

namespace State

variable (s : State)

def form : Value → Form
  | .none => .null
  | .bool b => .bool b
  | .int n => .int n
  | .float x => .float x
  | .str t => .str t
  | .tuple items => .tuple items
  | .object a => s.objects[a]?.elim .other (·.form a)
  | _ => .other

/-- If the value is an address, a thing is there, and so is the class that it is an instance of. -/
def HasThing (v : Value) : Prop :=
  ∀ a, v = .object a → ∃ o, s.objects[a]? = some o ∧ o.IsThing ∧
    ∀ c, o.cls = .object c → c < s.objects.size

/-- The second value is an item of the first, or a key or a value of it. -/
def HasPart (v w : Value) : Prop := w ∈ (s.form v).parts

/-- The second value is the first one or somewhere inside it. -/
def Reaches : Value → Value → Prop := Relation.ReflTransGen s.HasPart

/-- The value is somewhere inside itself. -/
def IsCyclic (v : Value) : Prop := Relation.TransGen s.HasPart v v

/-- The value nests in fewer levels than a number. -/
def Nests : Nat → Value → Prop
  | 0, _ => False
  | n + 1, v => ∀ w, s.HasPart v w → Nests n w

variable {s} {n : Nat} {v w : Value}

/-- The forms of addresses. -/
theorem form_object (s : State) (a : Nat) :
    (∃ o xs, s.objects[a]? = some o ∧ o.cls = .kind .list ∧ o.data = .list xs ∧
      s.form (.object a) = .list a xs.toList) ∨
    (∃ o t, s.objects[a]? = some o ∧ o.cls = .kind .dict ∧ o.data = .dict t ∧
      s.form (.object a) = .dict a t.toList) ∨
    s.form (.object a) = .other := by
  cases ho : s.objects[a]? with
  | none => exact .inr (.inr (by simp [form, ho]))
  | some o =>
    have hform : s.form (.object a) = o.form a := by simp [form, ho]
    rw [hform]
    unfold Object.form
    split
    case h_1 xs hcls hdata => exact .inl ⟨o, xs, rfl, hcls, hdata, rfl⟩
    case h_2 t hcls hdata => exact .inr (.inl ⟨o, t, rfl, hcls, hdata, rfl⟩)
    case h_3 => exact .inr (.inr rfl)

/-- The keys and values of a dictionary are parts of it. -/
theorem entry_parts {a : Nat} {entries : List Entry} (h : s.form v = .dict a entries) {x : Entry}
    (hx : x ∈ entries) : s.HasPart v x.key ∧ s.HasPart v x.value := by
  have hall : ∀ w ∈ (Form.dict a entries).parts, s.HasPart v w := fun w hw => by rwa [HasPart, h]
  exact Form.forall_parts_dict.mp hall x hx

/-- The value of a container with an identity is its address. -/
theorem eq_object {a : Nat} (h : (s.form v).address? = some a) : v = .object a := by
  cases v with
  | object b =>
    obtain ⟨o, xs, -, -, -, hv⟩ | ⟨o, t, -, -, -, hv⟩ | hv := s.form_object b
    all_goals
      rw [hv] at h
      cases h
    · rfl
    · rfl
  | _ => cases h

theorem Nests.succ (h : s.Nests n v) : s.Nests (n + 1) v := by
  induction n generalizing v with
  | zero => exact h.elim
  | succ n ih => exact fun w hw => ih (h w hw)

theorem Nests.of_reaches (h : s.Nests n v) (hw : s.Reaches v w) : s.Nests n w := by
  induction hw with
  | refl => exact h
  | tail _ hw ih =>
    cases n with
    | zero => exact ih.elim
    | succ n => exact (ih _ hw).succ

/-- What nests in some number of levels is not inside itself, by induction on the levels: what is
inside itself is so below each of its parts on the way. -/
theorem Nests.not_isCyclic (h : s.Nests n v) : ¬ s.IsCyclic v := by
  induction n generalizing v with
  | zero => exact h.elim
  | succ n ih =>
    intro hv
    obtain ⟨w, hvw, hwv⟩ := Relation.TransGen.head'_iff.mp hv
    exact ih (h w hvw) (.tail' hwv hvw)

theorem Nests.mono {m : Nat} (h : s.Nests n v) (hm : n ≤ m) : s.Nests m v := by
  induction hm with
  | refl => exact h
  | step _ ih => exact ih.succ

/-- Values that nest in some numbers of levels do so in one number. -/
theorem exists_nests_all (ws : List Value) (h : ∀ w ∈ ws, ∃ n, s.Nests n w) :
    ∃ n, ∀ w ∈ ws, s.Nests n w := by
  induction ws with
  | nil => exact ⟨0, nofun⟩
  | cons w ws ih =>
    obtain ⟨m, hm⟩ := h w (.head _)
    obtain ⟨n, hn⟩ := ih fun x hx => h x (.tail _ hx)
    exact ⟨Nat.max m n, List.forall_mem_cons.mpr ⟨hm.mono (Nat.le_max_left m n),
      fun x hx => (hn x hx).mono (Nat.le_max_right m n)⟩⟩

theorem exists_nests_of_parts (h : ∀ w, s.HasPart v w → ∃ n, s.Nests n w) : ∃ n, s.Nests n v :=
  (exists_nests_all (s.form v).parts h).imp' (· + 1) fun _ => id

/-- What holds of a value and its parts comes to addresses, as tuples have no identity: by induction
on the size of the value. -/
theorem exists_nests_of_addresses {p : Value → Prop} (hparts : ∀ v w, p v → s.HasPart v w → p w)
    (haddress : ∀ a, p (.object a) → ∃ n, s.Nests n (.object a)) {v : Value} (hv : p v) :
    ∃ n, s.Nests n v := by
  induction hsize : sizeOf v using Nat.strongRecOn generalizing v with
  | _ m ih =>
    cases v with
    | object a => exact haddress a hv
    | tuple items =>
      refine exists_nests_of_parts fun w hw => ih (sizeOf w) ?_ (hparts _ w hv hw) rfl
      have hlt : sizeOf w < sizeOf items := List.sizeOf_lt_of_mem hw
      rw [← hsize, Value.tuple.sizeOf_spec]
      omega
    | _ => exact exists_nests_of_parts fun w hw => nomatch hw

theorem lt_size_of_hasPart {a : Nat} (h : s.HasPart (.object a) w) : a < s.objects.size := by
  unfold HasPart at h
  obtain ⟨o, xs, ho, -⟩ | ⟨o, t, ho, -⟩ | hv := s.form_object a
  · exact (Array.getElem?_eq_some_iff.mp ho).1
  · exact (Array.getElem?_eq_some_iff.mp ho).1
  · rw [hv] at h
    cases h

/-- Each address on the way to a value is a new one, as nothing there is inside itself; so the way
ends, by induction on the addresses that are left. -/
theorem exists_nests_below {path : List Nat} {v : Value} (hnodup : path.Nodup)
    (hrange : ∀ a ∈ path, a < s.objects.size)
    (hpath : ∀ a ∈ path, Relation.TransGen s.HasPart (.object a) v)
    (hacyclic : ∀ w, s.Reaches v w → ¬ s.IsCyclic w) : ∃ n, s.Nests n v := by
  refine exists_nests_of_addresses (p := fun v =>
    (∀ a ∈ path, Relation.TransGen s.HasPart (.object a) v) ∧
      ∀ w, s.Reaches v w → ¬ s.IsCyclic w) (fun v w hv hw => ?_) (fun b hb => ?_)
    ⟨hpath, hacyclic⟩
  · exact ⟨fun a ha => (hv.1 a ha).tail hw, fun u hu => hv.2 u (.head hw hu)⟩
  · refine exists_nests_of_parts fun w hw => ?_
    have hnew : b ∉ path := fun hmem => hb.2 _ .refl (hb.1 b hmem)
    have hnodup' : (b :: path).Nodup := List.nodup_cons.mpr ⟨hnew, hnodup⟩
    have hrange' : ∀ a ∈ b :: path, a < s.objects.size :=
      List.forall_mem_cons.mpr ⟨lt_size_of_hasPart hw, hrange⟩
    have hlength : path.length < s.objects.size := by
      have h := (List.subperm_of_subset hnodup' fun a ha =>
        List.mem_range.mpr (hrange' a ha)).length_le
      rwa [List.length_range] at h
    exact exists_nests_below hnodup' hrange'
      (List.forall_mem_cons.mpr ⟨.single hw, fun a ha => (hb.1 a ha).tail hw⟩)
      fun u hu => hb.2 u (.head hw hu)
termination_by s.objects.size - path.length
decreasing_by
  rw [List.length_cons]
  omega

/-- A value with no cycle in it, and no other, nests in some number of levels. -/
theorem exists_nests_iff : (∃ n, s.Nests n v) ↔ ∀ w, s.Reaches v w → ¬ s.IsCyclic w :=
  ⟨fun ⟨_, h⟩ _ hw => (h.of_reaches hw).not_isCyclic,
    exists_nests_below List.nodup_nil (List.forall_mem_nil _) (List.forall_mem_nil _)⟩

end State

end Exemplar.Machine
