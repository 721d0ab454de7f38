import Exemplar.Proofs.Json.Doubles
import Exemplar.Proofs.Serial.Nesting

/-
  Values as documents see them. A value that has a document is one without cycles whose keys are
  those of fields, whose integers are short enough and whose things have a quoted text
  (`Expressible`), and that does not nest too deeply (`document?_iff`). The document says what the
  value does (`Denotes`) and is read from its text. `document?` is what writing a document comes to,
  without the machine.
-/

namespace Exemplar.Serial

open Machine

/-- The name that a key has as that of a field, if it has one. -/
def keyName? : Value → Option String
  | .str t => some t
  | .int n => if Decimal.isLong n then none else some (toString n)
  | .bool b => some (if b then "true" else "false")
  | .none => some "null"
  | .float x => some (String.ofList (Json.writeFloat x))
  | _ => none

/-- Keys that fields may have: texts, numbers, truth values and nothing. -/
def IsKey : Value → Prop
  | .str _ | .int _ | .bool _ | .none | .float _ => True
  | _ => False

section

variable (s : State) (quotes : Value → Option String)

/-- A document says what a value does: a double that is no number is one that is none, containers
are arrays and objects with their parts in order, and a thing is its quoted text. -/
inductive Denotes : Value → Json → Prop
  | null {v : Value} (hv : s.form v = .null) : Denotes v .null
  | bool {v : Value} {b : Bool} (hv : s.form v = .bool b) : Denotes v (.bool b)
  | int {v : Value} {n : Int} (hv : s.form v = .int n) : Denotes v (.int n)
  | float {v : Value} {x y : Binary64} (hv : s.form v = .float x)
      (hy : y = x ∨ x.isNaN = true ∧ y.isNaN = true) : Denotes v (.float y)
  | str {v : Value} {t : String} (hv : s.form v = .str t) : Denotes v (.str t)
  | tuple {v : Value} {items : List Value} {js : List Json} (hv : s.form v = .tuple items)
      (hlen : js.length = items.length) (hjs : ∀ p ∈ items.zip js, Denotes p.1 p.2) :
      Denotes v (.arr js)
  | list {v : Value} {a : Nat} {items : List Value} {js : List Json}
      (hv : s.form v = .list a items) (hlen : js.length = items.length)
      (hjs : ∀ p ∈ items.zip js, Denotes p.1 p.2) : Denotes v (.arr js)
  | dict {v : Value} {a : Nat} {entries : List Machine.Entry} {fields : List (String × Json)}
      (hv : s.form v = .dict a entries) (hlen : fields.length = entries.length)
      (hnames : ∀ p ∈ entries.zip fields, keyName? p.1.key = some p.2.1)
      (hvalues : ∀ p ∈ entries.zip fields, Denotes p.1.value p.2.2) : Denotes v (.obj fields)
  | other {v : Value} {t : String} (hv : s.form v = .other) (ht : quotes v = some t) :
      Denotes v (.str t)

/-- Nothing in the value apart from its parts keeps it from being a document: an integer is short
enough, keys are those of fields, and a thing has a quoted text. -/
def Fits (v : Value) : Prop :=
  match s.form v with
  | .int n => Decimal.isLong n = false
  | .dict _ entries => ∀ e ∈ entries, IsKey e.key
  | .other => ∃ t, quotes v = some t
  | _ => True

/-- Nothing in the value keeps it from being a document, however deep it nests. -/
structure Expressible (v : Value) : Prop where
  acyclic : ∀ w, s.Reaches v w → ¬ s.IsCyclic w
  fits : ∀ w, s.Reaches v w → Fits s quotes w

end

/-! ## Documents without the machine -/

/-- A double as it is read back. -/
def plainFloat (x : Binary64) : Binary64 := if x.isNaN then .nan else x

/-- The field of an entry, where `document` gives that of its value. -/
def field? (document : Value → Option Json) (e : Machine.Entry) : Option (String × Json) := do
  return (← keyName? e.key, ← document e.value)

/-- The document of a value that nests in fewer levels than a number and is not inside what is
around it; `other` gives those of things. -/
def document? (s : State) (other : Value → Option Json) : Nat → List Nat → Value → Option Json
  | 0, _, _ => none
  | n + 1, path, v =>
    match s.form v with
    | .null => some .null
    | .bool b => some (.bool b)
    | .int k => if Decimal.isLong k then none else some (.int k)
    | .float x => some (.float (plainFloat x))
    | .str t => some (.str t)
    | .tuple items => (items.mapM (document? s other n path)).map .arr
    | .list a items =>
      if path.contains a then none else (items.mapM (document? s other n (a :: path))).map .arr
    | .dict a entries =>
      if path.contains a then none
      else (entries.mapM (field? (document? s other n (a :: path)))).map .obj
    | .other => other v

section

variable {α β γ : Type}

theorem mapM_eq_some {f : α → Option β} {xs : List α} {ys : List β} :
    xs.mapM f = some ys ↔ xs.map f = ys.map some := by
  induction xs generalizing ys with
  | nil => cases ys <;> simp
  | cons x xs ih =>
    rw [List.mapM_cons]
    cases ys with
    | nil => cases f x <;> cases xs.mapM f <;> simp
    | cons y ys =>
      simp only [List.map_cons, List.cons.injEq, ← ih]
      cases f x <;> cases xs.mapM f <;> simp

theorem exists_mapM {f : α → Option β} {xs : List α} :
    (∃ ys, xs.mapM f = some ys) ↔ ∀ x ∈ xs, ∃ y, f x = some y := by
  induction xs with
  | nil => simp
  | cons x xs ih =>
    rw [List.forall_mem_cons, ← ih, List.mapM_cons]
    cases f x <;> cases xs.mapM f <;> simp

theorem mapM_zip {f : α → Option β} {xs : List α} {ys : List β} (h : xs.mapM f = some ys) :
    ys.length = xs.length ∧ ∀ p ∈ xs.zip ys, f p.1 = some p.2 := by
  rw [mapM_eq_some] at h
  induction xs generalizing ys with
  | nil =>
    obtain rfl : ys = [] := by simpa using h
    exact ⟨rfl, nofun⟩
  | cons x xs ih =>
    cases ys with
    | nil => cases h
    | cons y ys =>
      obtain ⟨hx, hxs⟩ := List.cons.inj h
      obtain ⟨hlen, hzip⟩ := ih hxs
      exact ⟨congrArg (· + 1) hlen, List.forall_mem_cons.mpr ⟨hx, hzip⟩⟩

theorem mapM_mem {f : α → Option β} {xs : List α} {ys : List β} (h : xs.mapM f = some ys) :
    ∀ y ∈ ys, ∃ x ∈ xs, f x = some y := by
  intro y hy
  have := List.mem_map_of_mem (f := some) hy
  rwa [← mapM_eq_some.mp h, List.mem_map] at this

theorem mapM_mono {f g : α → Option β} {xs : List α} {ys : List β}
    (hfg : ∀ x ∈ xs, ∀ y, f x = some y → g x = some y) (h : xs.mapM f = some ys) :
    xs.mapM g = some ys := by
  rw [mapM_eq_some] at h ⊢
  rw [← h]
  refine List.map_congr_left fun x hx => ?_
  have hmem : f x ∈ ys.map some := h ▸ List.mem_map_of_mem hx
  obtain ⟨y, -, hy⟩ := List.mem_map.mp hmem
  rw [← hy, hfg x hx y hy.symm]

theorem mapM_map_some (f : α → Option β) (g : β → γ) (xs : List α) :
    xs.mapM (fun x => (f x).map g) = (xs.mapM f).map (List.map g) := by
  induction xs with
  | nil => rfl
  | cons x xs ih =>
    rw [List.mapM_cons, List.mapM_cons, ih]
    cases f x <;> cases xs.mapM f <;> rfl

end

variable {s : State} {quotes : Value → Option String} {n : Nat} {path : List Nat} {v k : Value}

/-! ## Which values have documents -/

theorem exists_keyName : (∃ t, keyName? k = some t) ↔ IsKey k ∧ Fits s quotes k := by
  cases k with
  | int n => cases h : Decimal.isLong n <;> simp [keyName?, IsKey, Fits, State.form, h]
  | _ => simp [keyName?, IsKey, Fits, State.form]

theorem IsKey.parts (h : IsKey k) : (s.form k).parts = [] := by
  cases k <;> first | rfl | exact h.elim

/-- The value and all that is inside it fit into documents and nest in fewer levels. -/
def Good (s : State) (quotes : Value → Option String) (n : Nat) (v : Value) : Prop :=
  s.Nests n v ∧ ∀ w, s.Reaches v w → Fits s quotes w

theorem Good.pos (h : Good s quotes n v) : 0 < n := by
  cases n with
  | zero => exact h.1.elim
  | succ n => exact Nat.succ_pos n

theorem good_succ : Good s quotes (n + 1) v ↔
    Fits s quotes v ∧ ∀ w, s.HasPart v w → Good s quotes n w := by
  constructor
  · exact fun h => ⟨h.2 v .refl, fun w hw => ⟨h.1 w hw, fun u hu => h.2 u (.head hw hu)⟩⟩
  · refine fun h => ⟨fun w hw => (h.2 w hw).1, fun u hu => ?_⟩
    obtain rfl | ⟨w, hw, hwu⟩ := Relation.ReflTransGen.cases_head hu
    · exact h.1
    · exact (h.2 w hw).2 u hwu

theorem good_iff : Good s quotes n v ↔ s.Nests n v ∧ Expressible s quotes v :=
  ⟨fun h => ⟨h.1, fun _ hw => (h.1.of_reaches hw).not_isCyclic, h.2⟩, fun h => ⟨h.1, h.2.fits⟩⟩

/-- A key is the name of a field if it is a good part. -/
theorem good_key (hn : 0 < n) : Good s quotes n k ∧ IsKey k ↔ ∃ t, keyName? k = some t := by
  obtain ⟨n, rfl⟩ := Nat.exists_eq_succ_of_ne_zero (Nat.ne_of_gt hn)
  rw [@exists_keyName s quotes k, good_succ]
  constructor
  · exact fun h => ⟨h.2, h.1.1⟩
  · refine fun h => ⟨⟨h.2, fun w hw => ?_⟩, h.1⟩
    rw [State.HasPart, h.1.parts] at hw
    cases hw

theorem field_eq_some {document : Value → Option Json} {e : Machine.Entry} {p : String × Json} :
    field? document e = some p ↔ keyName? e.key = some p.1 ∧ document e.value = some p.2 := by
  unfold field?
  cases keyName? e.key <;> cases document e.value <;> simp [Prod.ext_iff]

theorem exists_field {document : Value → Option Json} {e : Machine.Entry} :
    (∃ p, field? document e = some p) ↔
      (∃ t, keyName? e.key = some t) ∧ ∃ j, document e.value = some j := by
  simp only [field_eq_some, Prod.exists, exists_and_left, exists_and_right]

variable (s quotes) in
/-- The documents of things are their quoted texts. -/
abbrev documentOf? : Nat → List Nat → Value → Option Json :=
  document? s fun w => (quotes w).map .str

/-- By induction on the levels. -/
theorem good_of_document? (h : ∃ j, documentOf? s quotes n path v = some j) :
    Good s quotes n v := by
  induction n generalizing path v with
  | zero => simp [document?] at h
  | succ n ih =>
    rw [good_succ]
    unfold Fits State.HasPart
    unfold documentOf? document? at h
    cases hv : s.form v with
    | null | bool | float | str => exact ⟨trivial, List.forall_mem_nil _⟩
    | int k => simpa [hv, Form.parts] using h
    | tuple items =>
      simp only [hv, Option.map_eq_some_iff, exists_comm (α := Json), exists_and_left,
        exists_eq', and_true, exists_mapM] at h
      exact ⟨trivial, fun w hw => ih (h w hw)⟩
    | list a items =>
      simp only [hv, Option.ite_none_left_eq_some, exists_and_left, Option.map_eq_some_iff,
        exists_comm (α := Json), exists_eq', and_true, exists_mapM] at h
      exact ⟨trivial, fun w hw => ih (h.2 w hw)⟩
    | dict a entries =>
      simp only [hv, Option.ite_none_left_eq_some, exists_and_left, Option.map_eq_some_iff,
        exists_comm (α := Json), exists_eq', and_true, exists_mapM, exists_field] at h
      have key (e : Machine.Entry) (he : e ∈ entries) : Good s quotes n e.key ∧ IsKey e.key :=
        (good_key (ih (h.2 e he).2).pos).mpr (h.2 e he).1
      exact ⟨fun e he => (key e he).2,
        Machine.Form.forall_parts_dict.mpr fun e he => ⟨(key e he).1, ih (h.2 e he).2⟩⟩
    | other => simpa [hv, Form.parts] using h

/-- By induction on the levels: what is around a value on the way is not inside it, as nothing there
is inside itself. -/
theorem exists_document? (h : Good s quotes n v)
    (hpath : ∀ a ∈ path, ¬ s.Reaches v (.object a)) :
    ∃ j, documentOf? s quotes n path v = some j := by
  induction n generalizing path v with
  | zero => exact h.1.elim
  | succ n ih =>
    obtain ⟨hfits, hparts⟩ := good_succ.mp h
    have around (w : Value) (hw : s.HasPart v w) (a : Nat) (ha : a ∈ path) :
        ¬ s.Reaches w (.object a) := fun hwa => hpath a ha (.head hw hwa)
    have inside (a : Nat) (ha : v = .object a) (w : Value) (hw : s.HasPart v w) :
        ∃ j, documentOf? s quotes n (a :: path) w = some j := by
      refine ih (hparts w hw) (List.forall_mem_cons.mpr ⟨fun hwv => ?_, around w hw⟩)
      exact h.1.not_isCyclic (.head' hw (ha ▸ hwv))
    have outside (a : Nat) (ha : v = .object a) : ¬ path.contains a = true := by
      rw [List.contains_iff_mem]
      exact fun hmem => hpath a hmem (ha ▸ .refl)
    unfold Fits State.HasPart at *
    unfold documentOf? document?
    cases hv : s.form v with
    | null | bool | float | str => exact ⟨_, rfl⟩
    | int k =>
      rw [hv] at hfits
      exact ⟨.int k, if_neg (by rw [hfits]; exact Bool.false_ne_true)⟩
    | tuple items =>
      obtain ⟨js, hjs⟩ : ∃ js, items.mapM (documentOf? s quotes n path) = some js :=
        exists_mapM.mpr fun w hw => ih (hparts w (hv ▸ hw)) (around w (hv ▸ hw))
      exact ⟨.arr js, congrArg (Option.map Json.arr) hjs⟩
    | list a items =>
      have ha := State.eq_object (s := s) (by rw [hv]; rfl)
      obtain ⟨js, hjs⟩ : ∃ js, items.mapM (documentOf? s quotes n (a :: path)) = some js :=
        exists_mapM.mpr fun w hw => inside a ha w (hv ▸ hw)
      exact ⟨.arr js, (if_neg (outside a ha)).trans (congrArg (Option.map Json.arr) hjs)⟩
    | dict a entries =>
      have ha := State.eq_object (s := s) (by rw [hv]; rfl)
      rw [hv] at hfits
      have field (e : Machine.Entry) (he : e ∈ entries) :
          ∃ p, field? (documentOf? s quotes n (a :: path)) e = some p := by
        obtain ⟨hkey, hvalue⟩ := State.entry_parts hv he
        have hgood := hparts e.key hkey
        exact exists_field.mpr
          ⟨(good_key hgood.pos).mp ⟨hgood, hfits e he⟩, inside a ha e.value hvalue⟩
      obtain ⟨fs, hfs⟩ := exists_mapM.mpr field
      exact ⟨.obj fs, (if_neg (outside a ha)).trans (congrArg (Option.map Json.obj) hfs)⟩
    | other =>
      rw [hv] at hfits
      obtain ⟨t, ht⟩ := hfits
      exact ⟨.str t, congrArg (Option.map Json.str) ht⟩

theorem document?_iff : (∃ j, documentOf? s quotes n [] v = some j) ↔
    s.Nests n v ∧ Expressible s quotes v :=
  ⟨fun h => good_iff.mp (good_of_document? h),
    fun h => exists_document? (good_iff.mpr h) (List.forall_mem_nil _)⟩

/-! ## What documents say -/

/-- A document that needs no texts of things is that of the value whatever they are. -/
theorem document?_mono {other : Value → Option Json} {j : Json}
    (h : document? s (fun _ => none) n path v = some j) : document? s other n path v = some j := by
  induction n generalizing path v j with
  | zero => cases h
  | succ n ih =>
    have field (path : List Nat) (e : Machine.Entry) (p : String × Json)
        (hp : field? (document? s (fun _ => none) n path) e = some p) :
        field? (document? s other n path) e = some p :=
      field_eq_some.mpr ((field_eq_some.mp hp).imp_right ih)
    unfold document? at h ⊢
    cases hv : s.form v with
    | null | bool | int | float | str => simpa [hv] using h
    | tuple items =>
      simp only [hv, Option.map_eq_some_iff] at h ⊢
      exact h.imp fun js hjs => hjs.imp_left (mapM_mono fun w _ _ => ih)
    | list a items =>
      simp only [hv, Option.ite_none_left_eq_some, Option.map_eq_some_iff] at h ⊢
      exact h.imp_right (.imp fun js hjs => hjs.imp_left (mapM_mono fun w _ _ => ih))
    | dict a entries =>
      simp only [hv, Option.ite_none_left_eq_some, Option.map_eq_some_iff] at h ⊢
      exact h.imp_right (.imp fun fs hfs => hfs.imp_left (mapM_mono fun e _ => field _ e))
    | other => simp [hv] at h

theorem plainFloat_eq (x : Binary64) :
    plainFloat x = x ∨ x.isNaN = true ∧ (plainFloat x).isNaN = true := by
  unfold plainFloat
  split
  · exact .inr ⟨‹_›, by decide +kernel⟩
  · exact .inl rfl

theorem isPlain_plainFloat (x : Binary64) : Json.IsPlain (plainFloat x) := by
  unfold Json.IsPlain plainFloat
  split
  · exact fun _ => rfl
  · exact fun h => absurd h ‹_›

/-- The document of a value says what the value does and reads back. By induction on the levels. -/
theorem document?_spec {j : Json} (h : documentOf? s quotes n path v = some j) :
    Denotes s quotes v j ∧ j.Readable := by
  induction n generalizing path v j with
  | zero => cases h
  | succ n ih =>
    have items {path : List Nat} {ws : List Value} {js : List Json}
        (hjs : ws.mapM (documentOf? s quotes n path) = some js) :
        (∀ p ∈ ws.zip js, Denotes s quotes p.1 p.2) ∧ (Json.arr js).Readable :=
      ⟨fun p hp => (ih ((mapM_zip hjs).2 p hp)).1,
        .arr fun j hj => (mapM_mem hjs j hj).elim fun _ hw => (ih hw.2).2⟩
    unfold documentOf? document? at h
    cases hv : s.form v with
    | null =>
      obtain rfl : .null = j := by simpa [hv] using h
      exact ⟨.null hv, .null⟩
    | bool b =>
      obtain rfl : .bool b = j := by simpa [hv] using h
      exact ⟨.bool hv, .bool b⟩
    | int k =>
      obtain ⟨hk, rfl⟩ : Decimal.isLong k = false ∧ .int k = j := by simpa [hv] using h
      exact ⟨.int hv, .int (Decimal.natAbs_lt_of_short hk)⟩
    | float x =>
      obtain rfl : .float (plainFloat x) = j := by simpa [hv] using h
      exact ⟨.float hv (plainFloat_eq x), .float (isPlain_plainFloat x)⟩
    | str t =>
      obtain rfl : .str t = j := by simpa [hv] using h
      exact ⟨.str hv, .str t⟩
    | tuple ws =>
      simp only [hv, Option.map_eq_some_iff] at h
      obtain ⟨js, hjs, rfl⟩ := h
      exact ⟨.tuple hv (mapM_zip hjs).1 (items hjs).1, (items hjs).2⟩
    | list a ws =>
      simp only [hv, Option.ite_none_left_eq_some, Option.map_eq_some_iff] at h
      obtain ⟨-, js, hjs, rfl⟩ := h
      exact ⟨.list hv (mapM_zip hjs).1 (items hjs).1, (items hjs).2⟩
    | dict a entries =>
      simp only [hv, Option.ite_none_left_eq_some, Option.map_eq_some_iff] at h
      obtain ⟨-, fs, hfs, rfl⟩ := h
      obtain ⟨hlen, hzip⟩ := mapM_zip hfs
      refine ⟨.dict hv hlen (fun p hp => (field_eq_some.mp (hzip p hp)).1)
        fun p hp => (ih (field_eq_some.mp (hzip p hp)).2).1, .obj fun p hp => ?_⟩
      obtain ⟨e, -, he⟩ := mapM_mem hfs p hp
      exact (ih (field_eq_some.mp he).2).2
    | other =>
      obtain ⟨t, ht, rfl⟩ : ∃ t, quotes v = some t ∧ .str t = j := by simpa [hv] using h
      exact ⟨.other hv ht, .str t⟩

end Exemplar.Serial
