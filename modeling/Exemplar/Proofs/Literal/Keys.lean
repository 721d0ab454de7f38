import Exemplar.Proofs.Literal.Argument
import Exemplar.Proofs.Session

/-
  Keys of dictionaries in literals. The form of keys is reached in one step and left alone after
  that: it consists of scalars and tuples all the way down, and a literal that does so already is
  its own (`keyForm_eq_self`). Synthesis puts keys into that form where it makes a dictionary, so by
  induction on what a shape allows every key of a literal, wherever its dictionary stands, can be
  hashed (`keys_of_conforms`), and the literal stands for a datum (`synthesized_keys`).
-/

namespace Exemplar

namespace Literal

/-- Scalars and tuples of such, all the way down. -/
inductive IsKeyForm : Literal → Prop
  | text {s} : IsKeyForm (.text s)
  | number {n} : IsKeyForm (.number n)
  | boolean {b} : IsKeyForm (.boolean b)
  | none : IsKeyForm .none
  | tuple {items} (h : ∀ x ∈ items, IsKeyForm x) : IsKeyForm (.tuple items)

/-- Every key of every dictionary in the literal has a property, those of dictionaries inside keys
included. The keys of a record are texts. -/
inductive Keys (p : Literal → Prop) : Literal → Prop
  | text {s} : Keys p (.text s)
  | number {n} : Keys p (.number n)
  | boolean {b} : Keys p (.boolean b)
  | none : Keys p .none
  | list {items} (h : ∀ x ∈ items, Keys p x) : Keys p (.list items)
  | tuple {items} (h : ∀ x ∈ items, Keys p x) : Keys p (.tuple items)
  | mapping {entries} (hp : ∀ e ∈ entries, p e.1) (hk : ∀ e ∈ entries, Keys p e.1)
      (hv : ∀ e ∈ entries, Keys p e.2) : Keys p (.mapping entries)
  | record {fields} (hp : ∀ f ∈ fields, p (.text f.1)) (h : ∀ f ∈ fields, Keys p f.2) :
    Keys p (.record fields)

/-- The literal stands for a datum that can be a key. -/
def Hashable (l : Literal) : Prop := ∃ d, l.toDatum = .ok d ∧ d.IsKey

/-! ## The form of keys -/

theorem isKeyForm_keyForm (l : Literal) : l.keyForm.IsKeyForm := by
  have all : ∀ {items : List Literal}, (∀ x ∈ items, x.keyForm.IsKeyForm) →
      (Literal.tuple (keyForms items)).IsKeyForm := by
    intro items hitems
    rw [keyForms_eq]
    exact .tuple (List.forall_mem_map.mpr hitems)
  induction l using parts_induction with
  | text s => exact .text
  | number n => exact .number
  | boolean b => exact .boolean
  | none => exact .none
  | list items ih => exact all ih
  | tuple items ih => exact all ih
  | mapping | record => exact .tuple nofun

variable {p : Literal → Prop} {l : Literal}

theorem keyForm_eq_self (h : l.IsKeyForm) : l.keyForm = l := by
  induction h with
  | @tuple items _ ih =>
    have hitems : items.map keyForm = items := (List.map_congr_left ih).trans (List.map_id' items)
    rw [keyForm, keyForms_eq, hitems]
  | _ => rfl

theorem IsKeyForm.hashable (h : l.IsKeyForm) : l.Hashable := by
  rw [← keyForm_eq_self h]
  exact toDatum_keyForm l

/-- In the form of a key there is no dictionary, and so no key. -/
theorem IsKeyForm.keys (h : l.IsKeyForm) : l.Keys p := by
  induction h with
  | text => exact .text
  | number => exact .number
  | boolean => exact .boolean
  | none => exact .none
  | tuple _ ih => exact .tuple ih

/-! ## Literals that are synthesized -/

open Synthesis (Conforms)

variable {number : Int → Prop} {length : Nat → Nat → Prop} {shape : Shape} {depth : Nat}

/-- What conforms to a shape has keys in the form of keys. -/
theorem keys_of_conforms (h : Conforms number length shape depth l) : l.Keys IsKeyForm := by
  induction h with
  | text | unknownText => exact .text
  | number | unknownNumber => exact .number
  | boolean => exact .boolean
  | none | named => exact .none
  | @choice values depth l v _ hl =>
    rw [eq_ofScalar hl]
    cases v with
    | none => exact .none
    | bool b => exact .boolean
    | int n => exact .number
    | float x => exact .number
    | str s => exact .text
  | list _ _ ih => exact .list ih
  | tuple hn _ ih =>
    refine .tuple fun x hx => ?_
    obtain ⟨e, he⟩ := exists_zip_of_mem hn hx
    exact ih (e, x) he
  | @mapping key value depth keys entries _ hk _ _ _ ihv =>
    have form : ∀ e ∈ entries, e.1.IsKeyForm := by
      intro e he
      have hmem : e.1 ∈ keys.map keyForm := hk ▸ List.mem_map_of_mem he
      obtain ⟨k, -, heq⟩ := List.mem_map.mp hmem
      exact heq ▸ isKeyForm_keyForm k
    exact .mapping form (fun e he => (form e he).keys) ihv
  | @record fields depth items hn _ ih =>
    have hlen : items.length = fields.length := by simpa using congrArg List.length hn
    refine .record (fun _ _ => .text) fun x hx => ?_
    obtain ⟨f, hf⟩ := exists_zip_of_mem hlen hx
    exact ih (f, x) hf
  | union _ _ ih => exact ih

theorem Keys.mono {q : Literal → Prop} (h : ∀ k, p k → q k) (hp : l.Keys p) : l.Keys q := by
  induction hp with
  | text => exact .text
  | number => exact .number
  | boolean => exact .boolean
  | none => exact .none
  | list _ ih => exact .list ih
  | tuple _ ih => exact .tuple ih
  | mapping hp _ _ ihk ihv => exact .mapping (fun e he => h _ (hp e he)) ihk ihv
  | record hp _ ih => exact .record (fun f hf => h _ (hp f hf)) ih

end Literal

namespace Synthesis

open Literal

/-- The form of keys holds scalars and tuples only, is kept by making it again, and is what it is
made of if that has it. Whatever supplies the draws, a literal that is synthesized has keys that can
be hashed only, at every depth, and stands for a datum; and a source that keeps to its bounds makes
one of every shape whose choices and unions offer something. -/
theorem synthesized_keys :
    (∀ l : Literal, l.keyForm.IsKeyForm ∧ l.keyForm.keyForm = l.keyForm ∧
      (l.IsKeyForm → l.keyForm = l)) ∧
    ∀ {σ : Type} (d : Draws σ) (s : SynthesisSettings) (shape : Shape) (st : σ),
      (∀ l st', (synthesize d s shape).run st = (.ok l, st') →
        l.Keys Hashable ∧ ∃ x, l.toDatum = .ok x) ∧
      (d.Faithful → ∀ s', s.checked = .ok s' → shape.Offers →
        ∃ l st', (synthesize d s shape).run st = (.ok l, st')) := by
  refine ⟨fun l => ⟨isKeyForm_keyForm l, keyForm_eq_self (isKeyForm_keyForm l), keyForm_eq_self⟩,
    fun d s shape st => ⟨fun l st' hrun => ?_, fun hd s' hs ho => ?_⟩⟩
  · have supplies : Supplies d s (fun _ => True) (fun _ _ => True) fun _ => True :=
      Call.supplies_of_raisesOnly d.raisesOnly_any trivial
    have hconforms := (atDepth_ensures supplies shape 0 (.inl trivial)).answer hrun
    exact ⟨(keys_of_conforms hconforms).mono fun _ => IsKeyForm.hashable,
      toDatum_of_conforms hconforms⟩
  · obtain ⟨l, st', hrun, -⟩ := synthesis_conforms hd hs ho 0 st
    exact ⟨l, st', hrun⟩

/-- A key that is a list of dictionaries, whose keys are lists in turn. -/
theorem synthesized_keys_nested :
    let shape : Shape := .mapping (.list (.mapping (.list (.plain .number)) .none)) (.plain .boolean)
    let l : Literal := .mapping [(.tuple [.tuple []], .boolean false)]
    (synthesize Draws.lowest { countRange := (1, 1) } shape).run () = (.ok l, ()) ∧
      l.Keys Hashable ∧ ∃ x, l.toDatum = .ok x := by
  intro shape l
  have hrun : (synthesize Draws.lowest { countRange := (1, 1) } shape).run () = (.ok l, ()) := rfl
  exact ⟨hrun, (synthesized_keys.2 Draws.lowest { countRange := (1, 1) } shape ()).1 l () hrun⟩

end Synthesis

end Exemplar
