import Exemplar.Proofs.Literal.Written

/-
  The text of a literal is read as its tree. A number is read with a minus sign in front of its
  size; a text, a truth value and nothing are read as they are; and a record is read as the
  dictionary that it is written as. Only an integer that is too long and what is not a number have
  no text.
-/

namespace Exemplar

/-- The number has a text that is read as the number. -/
def Number.Writable : Number → Prop
  | .int n => Decimal.isLong n = false
  | .float x => x.isNaN = false

/-- Whether the number is written with a minus sign. -/
def Number.isNegative : Number → Bool
  | .int n => decide (n < 0)
  | .float x => x.negative

/-- The number without its sign. -/
def Number.size : Number → Constant
  | .int n => .int n.natAbs
  | .float x => .float (if x.negative then x.neg else x)

/-- The text of the number without its sign. -/
def Number.sizeText : Number → List Char
  | .int n => Nat.toDigits 10 n.natAbs
  | .float x => Decimal.sizeText x

/-- The tree that the text of a number is read as. -/
def Number.tree (line : Nat) (n : Number) : Tree :=
  if n.isNegative then .mk line (.unary .minus (.mk line (.const n.size)))
  else .mk line (.const n.size)

namespace Literal

/-- Induction over literals, with what holds of all parts at hand. -/
@[elab_as_elim]
theorem parts_induction {P : Literal → Prop} (text : ∀ s, P (.text s))
    (number : ∀ n, P (.number n)) (boolean : ∀ b, P (.boolean b)) (none : P .none)
    (list : ∀ items, (∀ x ∈ items, P x) → P (.list items))
    (tuple : ∀ items, (∀ x ∈ items, P x) → P (.tuple items))
    (mapping : ∀ entries, (∀ e ∈ entries, P e.1 ∧ P e.2) → P (.mapping entries))
    (record : ∀ fields, (∀ f ∈ fields, P f.2) → P (.record fields)) : ∀ l, P l
  | .text s => text s
  | .number n => number n
  | .boolean b => boolean b
  | .none => none
  | .list items => list items fun x _ =>
    parts_induction text number boolean none list tuple mapping record x
  | .tuple items => tuple items fun x _ =>
    parts_induction text number boolean none list tuple mapping record x
  | .mapping entries => mapping entries fun (k, v) _ =>
    ⟨parts_induction text number boolean none list tuple mapping record k,
      parts_induction text number boolean none list tuple mapping record v⟩
  | .record fields => record fields fun (_, v) _ =>
    parts_induction text number boolean none list tuple mapping record v
termination_by l => l
decreasing_by
  · decreasing_tactic
  · decreasing_tactic
  all_goals
    have := List.sizeOf_lt_of_mem ‹_ ∈ _›
    simp only [Prod.mk.sizeOf_spec] at this
    decreasing_tactic

/-- Every number in the literal has a property. -/
inductive Numbers (p : Number → Prop) : Literal → Prop
  | text {s} : Numbers p (.text s)
  | number {n} (h : p n) : Numbers p (.number n)
  | boolean {b} : Numbers p (.boolean b)
  | none : Numbers p .none
  | list {items} (h : ∀ x ∈ items, Numbers p x) : Numbers p (.list items)
  | tuple {items} (h : ∀ x ∈ items, Numbers p x) : Numbers p (.tuple items)
  | mapping {entries} (hk : ∀ e ∈ entries, Numbers p e.1) (hv : ∀ e ∈ entries, Numbers p e.2) :
    Numbers p (.mapping entries)
  | record {fields} (h : ∀ f ∈ fields, Numbers p f.2) : Numbers p (.record fields)

mutual

/-- How deep the brackets in the text of the literal nest. -/
def depth : Literal → Nat
  | .list items => depthAmong items + 1
  | .tuple items => depthAmong items + 1
  | .mapping entries => depthAmongEntries entries + 1
  | .record fields => depthAmongFields fields + 1
  | _ => 0

def depthAmong : List Literal → Nat
  | [] => 0
  | l :: ls => max (depth l) (depthAmong ls)

def depthAmongEntries : List (Literal × Literal) → Nat
  | [] => 0
  | (k, v) :: es => max (max (depth k) (depth v)) (depthAmongEntries es)

def depthAmongFields : List (String × Literal) → Nat
  | [] => 0
  | (_, v) :: fs => max (depth v) (depthAmongFields fs)

end

theorem depth_le_among {items : List Literal} : ∀ x ∈ items, depth x ≤ depthAmong items := by
  induction items with
  | nil => exact nofun
  | cons l ls ih =>
    refine List.forall_mem_cons.mpr ⟨Nat.le_max_left _ _, fun x hx => ?_⟩
    exact (ih x hx).trans (Nat.le_max_right _ _)

theorem depth_le_amongEntries {entries : List (Literal × Literal)} :
    ∀ e ∈ entries, depth e.1 ≤ depthAmongEntries entries ∧
      depth e.2 ≤ depthAmongEntries entries := by
  induction entries with
  | nil => exact nofun
  | cons e es ih =>
    refine List.forall_mem_cons.mpr ⟨?_, fun x hx => ?_⟩
    · unfold depthAmongEntries
      omega
    · have := ih x hx
      unfold depthAmongEntries
      omega

theorem depth_le_amongFields {fields : List (String × Literal)} :
    ∀ f ∈ fields, depth f.2 ≤ depthAmongFields fields := by
  induction fields with
  | nil => exact nofun
  | cons f fs ih =>
    refine List.forall_mem_cons.mpr ⟨Nat.le_max_left _ _, fun x hx => ?_⟩
    exact (ih x hx).trans (Nat.le_max_right _ _)

mutual

/-- The tree that the text of the literal is read as. -/
def tree (line : Nat) : Literal → Tree
  | .text s => .mk line (.const (.str s))
  | .number n => n.tree line
  | .boolean b => .mk line (.const (.bool b))
  | .none => .mk line (.const .none)
  | .list items => .mk line (.list (trees line items))
  | .tuple items => .mk line (.tuple (trees line items))
  | .mapping entries => .mk line (.dict (entryTrees line entries))
  | .record fields => .mk line (.dict (fieldTrees line fields))

def trees (line : Nat) : List Literal → List Tree
  | [] => []
  | l :: ls => tree line l :: trees line ls

def entryTrees (line : Nat) : List (Literal × Literal) → List (Option Tree × Tree)
  | [] => []
  | (k, v) :: es => (some (tree line k), tree line v) :: entryTrees line es

def fieldTrees (line : Nat) : List (String × Literal) → List (Option Tree × Tree)
  | [] => []
  | (n, v) :: fs => (some (.mk line (.const (.str n))), tree line v) :: fieldTrees line fs

end

/-- The tree of an entry. -/
def entryTree (line : Nat) (e : Literal × Literal) : Option Tree × Tree :=
  (some (e.1.tree line), e.2.tree line)

/-- The tree of a field, whose key is a text. -/
def fieldTree (line : Nat) (f : String × Literal) : Option Tree × Tree :=
  (some (.mk line (.const (.str f.1))), f.2.tree line)

theorem trees_eq (line : Nat) (ls : List Literal) : trees line ls = ls.map (tree line) := by
  induction ls with
  | nil => rfl
  | cons l ls ih => rw [trees, ih, List.map_cons]

theorem entryTrees_eq (line : Nat) (es : List (Literal × Literal)) :
    entryTrees line es = es.map (entryTree line) := by
  induction es with
  | nil => rfl
  | cons e es ih =>
    rw [entryTrees, ih, List.map_cons]
    rfl

theorem fieldTrees_eq (line : Nat) (fs : List (String × Literal)) :
    fieldTrees line fs = fs.map (fieldTree line) := by
  induction fs with
  | nil => rfl
  | cons f fs ih =>
    rw [fieldTrees, ih, List.map_cons]
    rfl

/-! ## The texts of parts -/

open Syntax

/-- The text of the literal where it stands for an item. -/
def written (l : Literal) : List Char := printAt false Strength.test.level l.toExpr

theorem toExprs_eq (ls : List Literal) : toExprs ls = ls.map toExpr := by
  induction ls with
  | nil => rfl
  | cons l ls ih => rw [toExprs, ih, List.map_cons]

theorem printList_toExprs (ls : List Literal) : printList false (toExprs ls) = ls.map written := by
  induction ls with
  | nil => rfl
  | cons l ls ih =>
    rw [toExprs, printList, ih]
    rfl

theorem printEntries_entryExprs (es : List (Literal × Literal)) :
    printEntries false (entryExprs es) =
      es.map fun e => e.1.written ++ ':' :: ' ' :: e.2.written := by
  induction es with
  | nil => rfl
  | cons e es ih =>
    rw [entryExprs, printEntries, ih]
    rfl

theorem printEntries_fieldExprs (fs : List (String × Literal)) :
    printEntries false (fieldExprs fs) =
      fs.map fun f => (Literal.text f.1).written ++ ':' :: ' ' :: f.2.written := by
  induction fs with
  | nil => rfl
  | cons f fs ih =>
    rw [fieldExprs, printEntries, ih]
    rfl

/-! ## The texts of numbers -/

theorem written_eq (n : Number) (h : n.Writable) :
    written (.number n) = (if n.isNegative then ['-'] else []) ++ n.sizeText := by
  cases n with
  | int n =>
    show (toString n).toList = _
    cases n with
    | ofNat m => simp [Number.isNegative, Number.sizeText, Int.toString_eq_repr, Int.repr, Nat.repr]
    | negSucc m =>
      simp [Number.isNegative, Number.sizeText, Int.toString_eq_repr, Int.repr, Nat.repr]
  | float x => exact Decimal.floatSource_eq h

/-- The size of a number is scanned, and its text begins with a digit. -/
theorem scans_sizeText {n : Number} (h : n.Writable) :
    (∀ rest, Behind endsNumber rest → Scans n.sizeText (.number n.size) rest) ∧
      ∃ whole rest, n.sizeText = whole ++ rest ∧ WholeDigits whole := by
  cases n with
  | int n =>
    exact ⟨fun rest hr => scans_int (Decimal.natAbs_lt_of_short h) hr, _, [], (List.append_nil _).symm,
      wholeDigits_natDigits n.natAbs⟩
  | float x =>
    have htext := Decimal.numberText_unsigned h
    obtain ⟨whole, part, ex, heq, hw, -⟩ := htext.parts
    exact ⟨fun rest hr => Decimal.scans_float htext hr, whole, _,
      heq.trans (List.append_assoc ..), hw⟩

theorem written_number {n : Number} (h : n.Writable) :
    Written 0 (written (.number n)) (n.tree ·) := by
  obtain ⟨hscan, whole, rest, htext, hw⟩ := scans_sizeText h
  have hfront : ∃ d r, n.sizeText = d :: r ∧ d ≠ '=' ∧ d ≠ '>' := by
    obtain ⟨d, r, rfl, hd⟩ := hw.exists_cons
    refine ⟨d, r ++ rest, htext, ?_, ?_⟩ <;> rintro rfl <;> cases hd
  rw [written_eq n h]
  unfold Number.tree
  cases n.isNegative with
  | true => exact written_negative hscan hfront
  | false =>
    exact written_lexeme hscan nofun (Parser.reads_number n.size)
      ⟨List.cons_ne_nil _ _, fun s => by cases s <;> rfl⟩ rfl hfront

/-! ## The text of a literal -/

theorem written_quotation {q : Char} (hq : q = '\'' ∨ q = '"') (cs : List Char) :
    Written 0 (q :: cs.flatMap (Text.quoteChar q) ++ [q])
      (.mk · (.const (.str (String.ofList cs)))) := by
  refine written_lexeme (fun rest hr => scans_text hq cs (hr.imp fun c hc =>
    (Bool.and_eq_true_iff.mp hc).1)) nofun (Parser.reads_text (unescape_quote hq cs))
    ⟨List.cons_ne_nil _ _, fun s => by cases s <;> rfl⟩ rfl ⟨q, _, rfl, ?_, ?_⟩
  · rcases hq with rfl | rfl <;> decide
  · rcases hq with rfl | rfl <;> decide

theorem written_text (s : String) :
    Written 0 (written (.text s)) (.mk · (.const (.str s))) := by
  have all := written_quotation (quoteFor_quote s.toList) s.toList
  rw [String.ofList_toList] at all
  have htext : written (.text s) = (Text.quote s).toList := by
    simp [written, toExpr, printAt, constantText]
  rw [htext]
  unfold Text.quote
  rw [String.toList_ofList]
  exact all

/-- A word for a constant. -/
theorem written_word {w : String} {c : Constant} (hw : IsWord w.toList)
    (hc : Parser.wordConstant? w = some c) (hplain : Parser.Plain [.word w])
    (hstarts : Parser.starts [.word w] = true) : Written 0 w.toList (.mk · (.const c)) := by
  have hscan : ∀ rest, Behind endsNumber rest → Scans w.toList (.word w) rest := by
    intro rest hr
    have scans := scans_word hw (hr.imp fun c hc => (Bool.and_eq_true_iff.mp hc).1)
    rwa [String.ofList_toList] at scans
  obtain ⟨c, r, heq, hc'⟩ := hw.start
  refine written_lexeme hscan nofun (Parser.reads_constant hc) hplain hstarts ⟨c, r, heq, ?_, ?_⟩
  · rintro rfl
    cases hc'
  · rintro rfl
    cases hc'

theorem written_none : Written 0 "None".toList (.mk · (.const .none)) :=
  written_word ⟨⟨'N', _, rfl, rfl⟩, List.all_eq_true.mp (by decide), rfl⟩ rfl
    ⟨List.cons_ne_nil _ _, fun s => by cases s <;> rfl⟩ rfl

theorem written_boolean (b : Bool) :
    Written 0 (written (.boolean b)) (.mk · (.const (.bool b))) := by
  cases b with
  | false =>
    exact written_word (w := "False") ⟨⟨'F', _, rfl, rfl⟩, List.all_eq_true.mp (by decide), rfl⟩ rfl
      ⟨List.cons_ne_nil _ _, fun s => by cases s <;> rfl⟩ rfl
  | true =>
    exact written_word (w := "True") ⟨⟨'T', _, rfl, rfl⟩, List.all_eq_true.mp (by decide), rfl⟩ rfl
      ⟨List.cons_ne_nil _ _, fun s => by cases s <;> rfl⟩ rfl

/-- The items of a display. -/
theorem written_items {items : List Literal}
    (h : ∀ x ∈ items, Written x.depth x.written (x.tree ·)) :
    List.Forall₂ (Written (depthAmong items)) (items.map written)
      (items.map fun x line => x.tree line) := by
  rw [List.forall₂_map_left_iff, List.forall₂_map_right_iff, List.forall₂_same]
  exact fun x hx => (h x hx).mono (depth_le_among x hx)

/-- The text of a literal is read as its tree. -/
theorem written_toExpr {l : Literal} (h : l.Numbers Number.Writable) :
    Written l.depth l.written (l.tree ·) := by
  induction h with
  | text => exact written_text _
  | number h => exact written_number h
  | boolean => exact written_boolean _
  | none => exact written_none
  | @list items h ih =>
    have all := written_list (written_items ih)
    rw [← printList_toExprs] at all
    simp only [List.map_map, Function.comp_def, ← trees_eq] at all
    exact all
  | @tuple items h ih =>
    have all := written_tuple (written_items ih)
    rw [← printList_toExprs] at all
    simp only [List.map_map, Function.comp_def, ← trees_eq] at all
    exact all
  | @mapping entries hk hv ihk ihv =>
    have each : List.Forall₂ (WrittenEntry (depthAmongEntries entries))
        (entries.map fun e => e.1.written ++ ':' :: ' ' :: e.2.written)
        (entries.map fun e line => entryTree line e) := by
      rw [List.forall₂_map_left_iff, List.forall₂_map_right_iff, List.forall₂_same]
      intro e he
      obtain ⟨h1, h2⟩ := depth_le_amongEntries e he
      exact ⟨_, _, _, _, rfl, (ihk e he).mono h1, (ihv e he).mono h2, rfl⟩
    have all := written_dict each
    rw [← printEntries_entryExprs] at all
    simp only [List.map_map, Function.comp_def, ← entryTrees_eq] at all
    exact all
  | @record fields h ih =>
    have each : List.Forall₂ (WrittenEntry (depthAmongFields fields))
        (fields.map fun f => (Literal.text f.1).written ++ ':' :: ' ' :: f.2.written)
        (fields.map fun f line => fieldTree line f) := by
      rw [List.forall₂_map_left_iff, List.forall₂_map_right_iff, List.forall₂_same]
      intro f hf
      exact ⟨_, _, _, _, rfl, (written_text f.1).mono (Nat.zero_le _),
        (ih f hf).mono (depth_le_amongFields f hf), rfl⟩
    have all := written_dict each
    rw [← printEntries_fieldExprs] at all
    simp only [List.map_map, Function.comp_def, ← fieldTrees_eq] at all
    exact all

end Literal

end Exemplar
