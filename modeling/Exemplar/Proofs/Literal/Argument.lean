import Exemplar.Proofs.Hint
import Exemplar.Proofs.Literal.Printed
import Exemplar.Proofs.Synthesis

/-
  Literals that stand for arguments. A literal that conforms to the shape of a parameter stands for
  a datum, since its keys have the form of keys; and if its text can be written, it is read back,
  since neither shapes nor draws supply the double that is no number.
-/

namespace Exemplar

/-- The number is not the double that is no number. -/
def Number.Proper : Number → Prop
  | .int _ => True
  | .float x => x.isNaN = false

namespace Datum

/-- The datum can be a key. -/
def IsKey (d : Datum) : Prop := d.unhashable? = none

theorem isKey_tuple {ds : List Datum} (h : ∀ d ∈ ds, d.IsKey) : (tuple ds).IsKey := by
  show unhashableAmong? ds = none
  induction ds with
  | nil => rfl
  | cons d ds ih =>
    obtain ⟨hd, hds⟩ := List.forall_mem_cons.mp h
    rw [unhashableAmong?, ih hds, show d.unhashable? = none from hd]
    rfl

end Datum

namespace Literal

/-! ## Numbers in literals -/

variable {p q : Number → Prop}

theorem Numbers.and {l : Literal} (hp : l.Numbers p) (hq : l.Numbers q) :
    l.Numbers fun n => p n ∧ q n := by
  induction hp with
  | text => exact .text
  | number h =>
    cases hq with
    | number h' => exact .number ⟨h, h'⟩
  | boolean => exact .boolean
  | none => exact .none
  | list _ ih =>
    cases hq with
    | list h => exact .list fun x hx => ih x hx (h x hx)
  | tuple _ ih =>
    cases hq with
    | tuple h => exact .tuple fun x hx => ih x hx (h x hx)
  | mapping _ _ ihk ihv =>
    cases hq with
    | mapping hk hv =>
      exact .mapping (fun e he => ihk e he (hk e he)) fun e he => ihv e he (hv e he)
  | record _ ih =>
    cases hq with
    | record h => exact .record fun f hf => ih f hf (h f hf)

theorem Numbers.mono {l : Literal} (h : ∀ n, p n → q n) (hp : l.Numbers p) : l.Numbers q := by
  induction hp with
  | text => exact .text
  | number hn => exact .number (h _ hn)
  | boolean => exact .boolean
  | none => exact .none
  | list _ ih => exact .list ih
  | tuple _ ih => exact .tuple ih
  | mapping _ _ ihk ihv => exact .mapping ihk ihv
  | record _ ih => exact .record ih

theorem keyForms_eq (ls : List Literal) : keyForms ls = ls.map keyForm := by
  induction ls with
  | nil => rfl
  | cons l ls ih => rw [keyForms, ih, List.map_cons]

theorem Numbers.keyForm {l : Literal} (h : l.Numbers p) : l.keyForm.Numbers p := by
  have all : ∀ {items : List Literal}, (∀ x ∈ items, x.keyForm.Numbers p) →
      (Literal.tuple (keyForms items)).Numbers p := by
    intro items hitems
    rw [keyForms_eq]
    exact .tuple (List.forall_mem_map.mpr hitems)
  induction h with
  | text => exact .text
  | number h => exact .number h
  | boolean => exact .boolean
  | none => exact .none
  | list _ ih | tuple _ ih => exact all ih
  | mapping | record => exact .tuple nofun

/-! ## Keys -/

theorem toData_of_forall {ls : List Literal} {q : Datum → Prop}
    (h : ∀ l ∈ ls, ∃ d, l.toDatum = .ok d ∧ q d) : ∃ ds, toData ls = .ok ds ∧ ∀ d ∈ ds, q d := by
  induction ls with
  | nil => exact ⟨[], rfl, nofun⟩
  | cons l ls ih =>
    obtain ⟨⟨d, hd, hq⟩, hrest⟩ := List.forall_mem_cons.mp h
    obtain ⟨ds, hds, hall⟩ := ih hrest
    refine ⟨d :: ds, ?_, List.forall_mem_cons.mpr ⟨hq, hall⟩⟩
    rw [toData, hd, hds]
    rfl

/-- A literal in the form of a key stands for a datum that can be a key. -/
theorem toDatum_keyForm (l : Literal) :
    ∃ d, l.keyForm.toDatum = .ok d ∧ d.IsKey := by
  have all : ∀ {items : List Literal},
      (∀ x ∈ items, ∃ d, x.keyForm.toDatum = .ok d ∧ d.IsKey) →
      ∃ d, (Literal.tuple (keyForms items)).toDatum = .ok d ∧ d.IsKey := by
    intro items hitems
    rw [keyForms_eq]
    obtain ⟨ds, hds, hhash⟩ := toData_of_forall (List.forall_mem_map.mpr hitems)
    refine ⟨.tuple ds, ?_, Datum.isKey_tuple hhash⟩
    rw [toDatum, hds]
    rfl
  induction l using parts_induction with
  | text s => exact ⟨_, rfl, rfl⟩
  | number n => cases n <;> exact ⟨_, rfl, rfl⟩
  | boolean b => exact ⟨_, rfl, rfl⟩
  | none => exact ⟨_, rfl, rfl⟩
  | list items ih => exact all ih
  | tuple items ih => exact all ih
  | mapping => exact ⟨.tuple [], rfl, rfl⟩
  | record => exact ⟨.tuple [], rfl, rfl⟩

theorem toEntries_of_forall {es : List (Literal × Literal)}
    (hk : ∀ e ∈ es, ∃ d, e.1.toDatum = .ok d ∧ d.IsKey)
    (hv : ∀ e ∈ es, ∃ d, e.2.toDatum = .ok d) : ∀ done, ∃ ds, toEntries done es = .ok ds := by
  induction es with
  | nil => exact fun done => ⟨done, rfl⟩
  | cons e es ih =>
    intro done
    obtain ⟨⟨key, hkey, hhash⟩, hks⟩ := List.forall_mem_cons.mp hk
    obtain ⟨⟨value, hvalue⟩, hvs⟩ := List.forall_mem_cons.mp hv
    obtain ⟨ds, hds⟩ := ih hks hvs (Datum.put done key value)
    refine ⟨ds, ?_⟩
    have hnone : key.unhashable? = Option.none := hhash
    rw [toEntries, hkey, hvalue]
    dsimp only [bind, Except.bind]
    rw [hnone]
    exact hds

theorem toFields_of_forall {fs : List (String × Literal)}
    (h : ∀ f ∈ fs, ∃ d, f.2.toDatum = .ok d) : ∀ done, ∃ ds, toFields done fs = .ok ds := by
  induction fs with
  | nil => exact fun done => ⟨done, rfl⟩
  | cons f fs ih =>
    intro done
    obtain ⟨⟨value, hvalue⟩, hfs⟩ := List.forall_mem_cons.mp h
    obtain ⟨ds, hds⟩ := ih hfs (Datum.put done (.scalar (.str f.1)) value)
    refine ⟨ds, ?_⟩
    rw [toFields, hvalue]
    exact hds

/-! ## Literals that conform -/

/-- A literal that stands for a scalar is written as it. -/
theorem eq_ofScalar {l : Literal} {v : Scalar} (h : l.toDatum = .ok (.scalar v)) :
    l = ofScalar v := by
  cases l with
  | text s => cases h; rfl
  | number n => cases n <;> cases h <;> rfl
  | boolean b => cases h; rfl
  | none => cases h; rfl
  | list items =>
    rw [toDatum] at h
    cases hd : toData items <;> rw [hd] at h <;> cases h
  | tuple items =>
    rw [toDatum] at h
    cases hd : toData items <;> rw [hd] at h <;> cases h
  | mapping entries =>
    rw [toDatum] at h
    cases hd : toEntries [] entries <;> rw [hd] at h <;> cases h
  | record fields =>
    rw [toDatum] at h
    cases hd : toFields [] fields <;> rw [hd] at h <;> cases h

/-- Each of the items stands beside one of as many others. -/
theorem exists_zip_of_mem {α β : Type} {as : List α} {bs : List β} (h : bs.length = as.length)
    {b : β} (hb : b ∈ bs) : ∃ a, (a, b) ∈ as.zip bs := by
  rw [← List.map_snd_zip (Nat.le_of_eq h)] at hb
  obtain ⟨⟨a, b'⟩, hmem, rfl⟩ := List.mem_map.mp hb
  exact ⟨a, hmem⟩

open Synthesis (Conforms)

variable {number : Int → Prop} {length : Nat → Nat → Prop} {shape : Shape} {depth : Nat}
  {l : Literal}

/-- What conforms to a shape of proper scalars holds no improper number. -/
theorem numbers_of_conforms (h : Conforms number length shape depth l) (hs : shape.Proper) :
    l.Numbers Number.Proper := by
  induction h with
  | text | unknownText => exact .text
  | number | unknownNumber => exact .number trivial
  | boolean => exact .boolean
  | none | named => exact .none
  | @choice values depth l v hv hl =>
    rw [eq_ofScalar hl]
    cases hs with
    | choice hs =>
      have hproper := hs v hv
      cases v with
      | none => exact .none
      | bool b => exact .boolean
      | int n => exact .number trivial
      | float x => exact .number hproper
      | str s => exact .text
  | list _ _ ih =>
    cases hs with
    | list hs => exact .list fun x hx => ih x hx hs
  | @tuple elements depth items hn _ ih =>
    cases hs with
    | tuple hs =>
      refine .tuple fun x hx => ?_
      obtain ⟨e, he⟩ := exists_zip_of_mem hn hx
      exact ih (e, x) he (hs e (List.of_mem_zip he).1)
  | @mapping key value depth keys entries _ hk _ _ ihk ihv =>
    cases hs with
    | mapping hkey hvalue =>
      refine .mapping (fun e he => ?_) fun e he => ihv e he hvalue
      have hmem : e.1 ∈ keys.map keyForm := hk ▸ List.mem_map_of_mem he
      obtain ⟨k, hkmem, heq⟩ := List.mem_map.mp hmem
      exact heq ▸ (ihk k hkmem hkey).keyForm
  | @record fields depth items hn _ ih =>
    cases hs with
    | record hs =>
      refine .record fun x hx => ?_
      have hlen : items.length = fields.length := by simpa using congrArg List.length hn
      obtain ⟨f, hf⟩ := exists_zip_of_mem hlen hx
      exact ih (f, x) hf (hs f (List.of_mem_zip hf).1)
  | union ha _ ih =>
    cases hs with
    | union hs => exact ih (hs _ ha)

/-- What conforms to a shape stands for a datum. -/
theorem toDatum_of_conforms (h : Conforms number length shape depth l) :
    ∃ d, l.toDatum = .ok d := by
  have data : ∀ {items : List Literal}, (∀ x ∈ items, ∃ d, x.toDatum = .ok d) →
      ∃ ds, toData items = .ok ds := by
    intro items hitems
    obtain ⟨ds, hds, -⟩ := toData_of_forall (q := fun _ => True) fun x hx => by
      obtain ⟨d, hd⟩ := hitems x hx
      exact ⟨d, hd, trivial⟩
    exact ⟨ds, hds⟩
  induction h with
  | choice _ hl => exact ⟨_, hl⟩
  | list _ _ ih =>
    obtain ⟨ds, hds⟩ := data ih
    exact ⟨.list ds, by rw [toDatum, hds]; rfl⟩
  | tuple hn _ ih =>
    obtain ⟨ds, hds⟩ := data fun x hx => by
      obtain ⟨e, he⟩ := exists_zip_of_mem hn hx
      exact ih _ he
    exact ⟨.tuple ds, by rw [toDatum, hds]; rfl⟩
  | @mapping key value depth keys entries _ hk _ _ _ ihv =>
    have keys : ∀ e ∈ entries, ∃ d, e.1.toDatum = .ok d ∧ d.IsKey := by
      intro e he
      have hmem : e.1 ∈ keys.map keyForm := hk ▸ List.mem_map_of_mem he
      obtain ⟨k, -, heq⟩ := List.mem_map.mp hmem
      exact heq ▸ toDatum_keyForm k
    obtain ⟨ds, hds⟩ := toEntries_of_forall keys ihv []
    exact ⟨.dict ds, by rw [toDatum, hds]; rfl⟩
  | @record fields depth items hn _ ih =>
    have hlen : items.length = fields.length := by simpa using congrArg List.length hn
    have each : ∀ x ∈ items, ∃ d, x.2.toDatum = .ok d := by
      intro x hx
      obtain ⟨f, hf⟩ := exists_zip_of_mem hlen hx
      exact ih _ hf
    obtain ⟨ds, hds⟩ := toFields_of_forall each []
    exact ⟨.dict ds, by rw [toDatum, hds]; rfl⟩
  | union _ _ ih => exact ih
  | _ => exact ⟨_, rfl⟩

/-! ## Literals that can be written -/

section Printable

open Syntax (Unprintable)

theorem none_of_first {a : Option Unprintable} {b : Unit → Option Unprintable}
    (h : Unprintable.first a b = Option.none) : a = Option.none ∧ b () = Option.none := by
  cases a with
  | some r => cases h
  | none => exact ⟨rfl, h⟩

theorem printable_items {items : List Literal}
    (h : Unprintable.ofAll? (toExprs items) = Option.none) :
    ∀ x ∈ items, Unprintable.of? x.toExpr = Option.none := by
  induction items with
  | nil => exact nofun
  | cons x items ih =>
    obtain ⟨hx, hitems⟩ := none_of_first h
    exact List.forall_mem_cons.mpr ⟨hx, ih hitems⟩

theorem printable_entries {entries : List (Literal × Literal)}
    (h : Unprintable.ofEntries? (entryExprs entries) = Option.none) :
    ∀ e ∈ entries, Unprintable.of? e.1.toExpr = Option.none ∧
      Unprintable.of? e.2.toExpr = Option.none := by
  induction entries with
  | nil => exact nofun
  | cons e entries ih =>
    obtain ⟨hkey, hrest⟩ := none_of_first h
    obtain ⟨hvalue, hentries⟩ := none_of_first hrest
    exact List.forall_mem_cons.mpr ⟨⟨hkey, hvalue⟩, ih hentries⟩

theorem printable_fields {fields : List (String × Literal)}
    (h : Unprintable.ofEntries? (fieldExprs fields) = Option.none) :
    ∀ f ∈ fields, Unprintable.of? f.2.toExpr = Option.none := by
  induction fields with
  | nil => exact nofun
  | cons f fields ih =>
    obtain ⟨-, hrest⟩ := none_of_first h
    obtain ⟨hvalue, hfields⟩ := none_of_first hrest
    exact List.forall_mem_cons.mpr ⟨hvalue, ih hfields⟩

theorem printable_keywords {named : List (String × Literal)}
    (h : Unprintable.ofKeywords? (named.map fun a => .mk (some a.1) a.2.toExpr) = Option.none) :
    ∀ a ∈ named, Unprintable.of? a.2.toExpr = Option.none := by
  induction named with
  | nil => exact nofun
  | cons a named ih =>
    obtain ⟨ha, hnamed⟩ := none_of_first h
    exact List.forall_mem_cons.mpr ⟨ha, ih hnamed⟩

/-- No integer is too long in a literal whose text can be written. -/
theorem numbers_of_printable (h : Unprintable.of? l.toExpr = Option.none) :
    l.Numbers fun n => ∀ i, n = .int i → Decimal.isLong i = false := by
  induction l using parts_induction with
  | text => exact .text
  | number n =>
    refine .number ?_
    rintro i rfl
    cases hi : Decimal.isLong i with
    | false => rfl
    | true =>
      have : Unprintable.ofConstant? (.int i) = Option.none := h
      rw [Unprintable.ofConstant?, hi] at this
      cases this
  | boolean => exact .boolean
  | none => exact .none
  | list items ih => exact .list fun x hx => ih x hx (printable_items h x hx)
  | tuple items ih => exact .tuple fun x hx => ih x hx (printable_items h x hx)
  | mapping entries ih =>
    have each := printable_entries h
    exact .mapping (fun e he => (ih e he).1 (each e he).1) fun e he => (ih e he).2 (each e he).2
  | record fields ih => exact .record fun f hf => ih f hf (printable_fields h f hf)

end Printable

/-- A literal that conforms to the shape of a parameter and can be written is read back. -/
theorem writable_of_conforms (h : Conforms number length shape depth l) (hs : shape.Proper)
    (hp : Syntax.Unprintable.of? l.toExpr = Option.none) : l.Numbers Number.Writable := by
  refine ((numbers_of_conforms h hs).and (numbers_of_printable hp)).mono ?_
  rintro n ⟨hproper, hshort⟩
  cases n with
  | int i => exact hshort i rfl
  | float x => exact hproper

end Literal

end Exemplar
