import Exemplar.Draw.Basic
import Exemplar.Synthesis

/-
  What computations that draw ensure. `Ensures x q bad` says of every state that `x` either answers
  there with a value that has `q` or raises an exception that has `bad`; with a `bad` that nothing
  has, `x` never raises. Computations made of others ensure what their parts do (`Ensures.bind`),
  so that a recursion over shapes or parameters needs one line for each draw in it.

  What synthesis answers. `Conforms` says which literals a shape allows at a depth, given which
  numbers and which lengths are allowed; it is stated on the literal alone. `atDepth_ensures` is the
  one induction over shapes: whatever supplies the draws, a literal that is answered conforms, and
  what is raised comes from a draw or from a choice among nothing. A source that keeps to the bounds
  it is asked for supplies every shape whose choices and unions offer something
  (`synthesis_conforms`).
-/

namespace Exemplar

variable {σ α β : Type}

namespace DrawM

/-- From every state the computation answers with a value that has `q` or raises an exception that
has `bad`. -/
def Ensures (x : DrawM σ α) (q : α → Prop) (bad : Raised → Prop) : Prop :=
  ∀ s, match (x.run s).1 with
    | .ok a => q a
    | .error e => bad e

theorem run_bind (x : DrawM σ α) (f : α → DrawM σ β) (s : σ) :
    (x >>= f).run s = match x.run s with
      | (.ok a, s') => (f a).run s'
      | (.error e, s') => (.error e, s') := by
  unfold ExceptT.run
  simp only [bind, ExceptT.bind, ExceptT.mk, StateT.bind]
  cases x s with
  | mk o s' => cases o <;> rfl

namespace Ensures

variable {x : DrawM σ α} {f : α → DrawM σ β} {q : α → Prop} {r : β → Prop} {bad : Raised → Prop}

theorem pure {a : α} (h : q a) : Ensures (Pure.pure a : DrawM σ α) q bad := fun _ => h

theorem throw {e : Raised} (h : bad e) : Ensures (MonadExcept.throw e : DrawM σ α) q bad :=
  fun _ => h

theorem bind (hx : Ensures x q bad) (hf : ∀ a, q a → Ensures (f a) r bad) :
    Ensures (x >>= f) r bad := by
  intro s
  have h := hx s
  rw [run_bind]
  cases hrun : x.run s with
  | mk o s' =>
    rw [hrun] at h
    cases o with
    | ok a => exact hf a h s'
    | error e => exact h

theorem mono {q' : α → Prop} (hx : Ensures x q bad) (h : ∀ a, q a → q' a) :
    Ensures x q' bad := by
  intro s
  have hs := hx s
  cases hrun : (x.run s).1 with
  | ok a => rw [hrun] at hs; exact h a hs
  | error e => rw [hrun] at hs; exact hs

theorem any : Ensures x (fun _ => True) fun _ => True := by
  intro s
  cases (x.run s).1 <;> trivial

/-- What is answered has what is ensured. -/
theorem answer (hx : Ensures x q bad) {s s' : σ} {a : α} (h : x.run s = (.ok a, s')) : q a := by
  have hs := hx s
  rw [h] at hs
  exact hs

/-- What is raised has what is ensured. -/
theorem raised (hx : Ensures x q bad) {s s' : σ} {e : Raised} (h : x.run s = (.error e, s')) :
    bad e := by
  have hs := hx s
  rw [h] at hs
  exact hs

/-- A computation of which nothing can be raised answers. -/
theorem answers (hx : Ensures x q fun _ => False) (s : σ) :
    ∃ a s', x.run s = (.ok a, s') ∧ q a := by
  have hs := hx s
  cases hrun : x.run s with
  | mk o s' =>
    rw [hrun] at hs
    cases o with
    | ok a => exact ⟨a, s', rfl, hs⟩
    | error e => exact hs.elim

end Ensures

end DrawM

namespace Draws

open DrawM (Ensures)

/-- Every draw answers within the bounds that it is asked for, and none raises. -/
structure Faithful (d : Draws σ) : Prop where
  words : Ensures d.words (fun _ => True) fun _ => False
  integer : ∀ low high, low ≤ high →
    Ensures (d.integer low high) (fun n => low ≤ n ∧ n ≤ high) fun _ => False
  boolean : Ensures d.boolean (fun _ => True) fun _ => False
  choice : ∀ count, 0 < count →
    Ensures (d.choice count) (fun i => 0 ≤ i ∧ i < count) fun _ => False
  count : ∀ low high, low ≤ high →
    Ensures (d.count low high) (fun n => low ≤ n ∧ n ≤ high) fun _ => False

/-- Whatever the draws answer, what they raise has `bad`. -/
structure RaisesOnly (d : Draws σ) (bad : Raised → Prop) : Prop where
  words : Ensures d.words (fun _ => True) bad
  integer : ∀ low high, Ensures (d.integer low high) (fun _ => True) bad
  boolean : Ensures d.boolean (fun _ => True) bad
  choice : ∀ count, Ensures (d.choice count) (fun _ => True) bad
  count : ∀ low high, Ensures (d.count low high) (fun _ => True) bad

/-- Of what draws raise, nothing at all is known. -/
theorem raisesOnly_any (d : Draws σ) : d.RaisesOnly fun _ => True where
  words := .any
  integer _ _ := .any
  boolean := .any
  choice _ := .any
  count _ _ := .any

end Draws

/-! ## Literals that shapes allow -/

namespace Shape

mutual

/-- Every choice and every union in the shape lists something. -/
def Offers : Shape → Prop
  | .choice vs => vs ≠ []
  | .list e => Offers e
  | .tuple es => AllOffer es
  | .mapping k v => Offers k ∧ Offers v
  | .record fs => AllFieldsOffer fs
  | .union as => as ≠ [] ∧ AllOffer as
  | _ => True

def AllOffer : List Shape → Prop
  | [] => True
  | s :: ss => Offers s ∧ AllOffer ss

def AllFieldsOffer : List (String × Shape) → Prop
  | [] => True
  | (_, s) :: fs => Offers s ∧ AllFieldsOffer fs

end

end Shape

namespace Synthesis

open DrawM (Ensures)

/-- The literals that a shape allows at a depth, where `number` tells which integers are allowed and
`length` how long a container may be at a depth. The alternatives of a union stand at its own depth,
all other parts one deeper. A name that was never resolved leaves nothing but the empty value. -/
inductive Conforms (number : Int → Prop) (length : Nat → Nat → Prop) :
    Shape → Nat → Literal → Prop
  | text {depth w} : Conforms number length (.plain .text) depth (.text w)
  | number {depth n} (h : number n) :
    Conforms number length (.plain .number) depth (.number (.int n))
  | boolean {depth b} : Conforms number length (.plain .boolean) depth (.boolean b)
  | none {depth} : Conforms number length .none depth .none
  /-- The value of the literal is one of the scalars, of the same type. -/
  | choice {values depth l v} (hv : v ∈ values) (hl : l.toDatum = .ok (.scalar v)) :
    Conforms number length (.choice values) depth l
  | list {element depth items} (hn : length depth items.length)
      (h : ∀ x ∈ items, Conforms number length element (depth + 1) x) :
    Conforms number length (.list element) depth (.list items)
  | tuple {elements depth items} (hn : items.length = elements.length)
      (h : ∀ p ∈ elements.zip items, Conforms number length p.1 (depth + 1) p.2) :
    Conforms number length (.tuple elements) depth (.tuple items)
  /-- The keys are the key forms of literals that conform. -/
  | mapping {key value depth} {keys : List Literal} {entries} (hn : length depth entries.length)
      (hk : entries.map Prod.fst = keys.map Literal.keyForm)
      (h : ∀ k ∈ keys, Conforms number length key (depth + 1) k)
      (h' : ∀ e ∈ entries, Conforms number length value (depth + 1) e.2) :
    Conforms number length (.mapping key value) depth (.mapping entries)
  | record {fields depth items} (hn : items.map Prod.fst = fields.map Prod.fst)
      (h : ∀ p ∈ fields.zip items, Conforms number length p.1.2 (depth + 1) p.2.2) :
    Conforms number length (.record fields) depth (.record items)
  | union {alternatives depth a l} (ha : a ∈ alternatives)
      (h : Conforms number length a depth l) :
    Conforms number length (.union alternatives) depth l
  | named {name depth} : Conforms number length (.named name) depth .none
  | unknownText {depth w} : Conforms number length .unknown depth (.text w)
  | unknownNumber {depth n} (h : number n) :
    Conforms number length .unknown depth (.number (.int n))

variable {σ : Type} {d : Draws σ} {s : SynthesisSettings} {number : Int → Prop}
  {length : Nat → Nat → Prop} {bad : Raised → Prop}

/-- What the draws supply to synthesis: the integers and lengths that are allowed, and one of
several things wherever there is one or the choice among nothing may be raised. -/
structure Supplies (d : Draws σ) (s : SynthesisSettings) (number : Int → Prop)
    (length : Nat → Nat → Prop) (bad : Raised → Prop) : Prop where
  words : Ensures d.words (fun _ => True) bad
  integer : Ensures (d.integer s.integerRange.1 s.integerRange.2) number bad
  boolean : Ensures d.boolean (fun _ => True) bad
  kind : Ensures (d.choice 2) (fun _ => True) bad
  pick : ∀ {α : Type} (xs : List α), bad outOfRange ∨ xs ≠ [] →
    Ensures (pick d xs) (· ∈ xs) bad
  lengthAt : ∀ depth, Ensures (lengthAt d s depth) (length depth) bad

theorem mem_of_item? {α : Type} {xs : List α} {i : Int} {x : α} (h : item? xs i = some x) :
    x ∈ xs := by
  unfold item? at h
  split at h
  · exact List.mem_of_getElem? h
  · split at h
    · exact List.mem_of_getElem? h
    · cases h

theorem item?_of_lt {α : Type} {xs : List α} {i : Int} (h0 : 0 ≤ i) (h : i < xs.length) :
    ∃ x, item? xs i = some x := by
  unfold item?
  rw [if_pos h0]
  have hi : i.toNat < xs.length := by omega
  exact ⟨xs[i.toNat], List.getElem?_eq_getElem hi⟩

theorem times_ensures {α : Type} {x : DrawM σ α} {q : α → Prop} (h : Ensures x q bad) (n : Nat) :
    Ensures (times x n) (fun as => as.length = n ∧ ∀ a ∈ as, q a) bad := by
  induction n with
  | zero => exact .pure ⟨rfl, fun a ha => absurd ha List.not_mem_nil⟩
  | succ n ih =>
    unfold times
    refine .bind h fun a ha => .bind ih fun as has => .pure ⟨?_, ?_⟩
    · rw [List.length_cons, has.1]
    · exact List.forall_mem_cons.mpr ⟨ha, has.2⟩

theorem text_ensures (h : Supplies d s number length bad) :
    Ensures (text d) (fun l => ∃ w, l = .text w) bad :=
  .bind h.words fun w _ => .pure ⟨w, rfl⟩

theorem number_ensures (h : Supplies d s number length bad) :
    Ensures (Synthesis.number d s) (fun l => ∃ n, number n ∧ l = .number (.int n)) bad :=
  .bind h.integer fun n hn => .pure ⟨n, hn, rfl⟩

theorem toDatum_ofScalar (v : Scalar) : (Literal.ofScalar v).toDatum = .ok (.scalar v) := by
  cases v <;> rfl

/-- Entries whose keys are key forms come from the literals that these are the forms of. -/
theorem exists_keys {q r : Literal → Prop} {entries : List (Literal × Literal)}
    (h : ∀ e ∈ entries, (∃ k, q k ∧ e.1 = k.keyForm) ∧ r e.2) :
    ∃ keys : List Literal, entries.map Prod.fst = keys.map Literal.keyForm ∧ ∀ k ∈ keys, q k := by
  induction entries with
  | nil => exact ⟨[], rfl, fun k hk => absurd hk List.not_mem_nil⟩
  | cons e entries ih =>
    obtain ⟨⟨k, hk, hek⟩, -⟩ := h e List.mem_cons_self
    obtain ⟨keys, hkeys, hall⟩ := ih fun e' he' => h e' (List.mem_cons_of_mem _ he')
    refine ⟨k :: keys, ?_, List.forall_mem_cons.mpr ⟨hk, hall⟩⟩
    rw [List.map_cons, List.map_cons, hek, hkeys]

mutual

/-- A literal that is answered for a shape conforms to it. -/
theorem atDepth_ensures (h : Supplies d s number length bad) :
    ∀ (shape : Shape) (depth : Nat), bad outOfRange ∨ shape.Offers →
      Ensures (atDepth d s shape depth) (Conforms number length shape depth) bad
  | .plain .text, _, _ => by
    unfold atDepth
    exact (text_ensures h).mono fun _ ⟨_, hl⟩ => hl ▸ .text
  | .plain .number, _, _ => by
    unfold atDepth
    exact (number_ensures h).mono fun _ ⟨_, hn, hl⟩ => hl ▸ .number hn
  | .plain .boolean, _, _ => by
    unfold atDepth
    exact .bind h.boolean fun _ _ => .pure .boolean
  | .none, _, _ => by
    unfold atDepth
    exact .pure .none
  | .choice values, _, ho => by
    unfold atDepth
    exact .bind (h.pick values ho) fun v hv => .pure (.choice hv (toDatum_ofScalar v))
  | .list element, depth, ho => by
    unfold atDepth
    have he := atDepth_ensures h element (depth + 1) ho
    refine .bind (h.lengthAt depth) fun n hn => .bind (times_ensures he n) fun items hi => .pure ?_
    exact .list (by rw [hi.1]; exact hn) hi.2
  | .tuple elements, depth, ho => by
    unfold atDepth
    refine .bind (eachAtDepth_ensures h elements (depth + 1) ho) fun items hi => .pure ?_
    exact .tuple hi.1 hi.2
  | .mapping key value, depth, ho => by
    unfold atDepth
    have hk := atDepth_ensures h key (depth + 1) (ho.imp_right And.left)
    have hv := atDepth_ensures h value (depth + 1) (ho.imp_right And.right)
    have entry : Ensures (do
        let k ← atDepth d s key (depth + 1)
        let v ← atDepth d s value (depth + 1)
        pure (k.keyForm, v))
        (fun e => (∃ k, Conforms number length key (depth + 1) k ∧ e.1 = k.keyForm) ∧
          Conforms number length value (depth + 1) e.2) bad :=
      .bind hk fun k hk => .bind hv fun v hv => .pure ⟨⟨_, hk, rfl⟩, hv⟩
    refine .bind (h.lengthAt depth) fun n hn => .bind (times_ensures entry n) fun es hes => .pure ?_
    obtain ⟨keys, hkeys, hall⟩ := exists_keys hes.2
    exact .mapping (by rw [hes.1]; exact hn) hkeys hall fun e he => (hes.2 e he).2
  | .record fields, depth, ho => by
    unfold atDepth
    refine .bind (fieldsAtDepth_ensures h fields (depth + 1) ho) fun items hi => .pure ?_
    exact .record hi.1 hi.2
  | .union alternatives, depth, ho => by
    unfold atDepth
    have hne : bad outOfRange ∨ choicesAtDepth d s alternatives depth ≠ [] :=
      ho.imp_right fun hv => by
        cases alternatives with
        | nil => exact absurd rfl hv.1
        | cons a as => unfold choicesAtDepth; exact List.cons_ne_nil _ _
    have hall : bad outOfRange ∨ Shape.AllOffer alternatives := ho.imp_right And.right
    refine .bind (h.pick _ hne) fun run hrun => ?_
    obtain ⟨a, ha, hr⟩ := choicesAtDepth_ensures h alternatives depth hall run hrun
    exact hr.mono fun _ hl => .union ha hl
  | .named _, _, _ => by
    unfold atDepth
    exact .pure .named
  | .unknown, _, _ => by
    unfold atDepth
    refine .bind h.kind fun kind _ => ?_
    split
    · exact (text_ensures h).mono fun _ ⟨_, hl⟩ => hl ▸ .unknownText
    · exact (number_ensures h).mono fun _ ⟨_, hn, hl⟩ => hl ▸ .unknownNumber hn

theorem eachAtDepth_ensures (h : Supplies d s number length bad) :
    ∀ (shapes : List Shape) (depth : Nat), bad outOfRange ∨ Shape.AllOffer shapes →
      Ensures (eachAtDepth d s shapes depth)
        (fun items => items.length = shapes.length ∧
          ∀ p ∈ shapes.zip items, Conforms number length p.1 depth p.2) bad
  | [], _, _ => by
    unfold eachAtDepth
    exact .pure ⟨rfl, fun p hp => absurd hp List.not_mem_nil⟩
  | e :: es, depth, ho => by
    unfold eachAtDepth
    have he := atDepth_ensures h e depth (ho.imp_right And.left)
    have hes := eachAtDepth_ensures h es depth (ho.imp_right And.right)
    refine .bind he fun x hx => .bind hes fun xs hxs => .pure ⟨?_, ?_⟩
    · rw [List.length_cons, List.length_cons, hxs.1]
    · exact List.forall_mem_cons.mpr ⟨hx, hxs.2⟩

theorem fieldsAtDepth_ensures (h : Supplies d s number length bad) :
    ∀ (fields : List (String × Shape)) (depth : Nat),
      bad outOfRange ∨ Shape.AllFieldsOffer fields →
      Ensures (fieldsAtDepth d s fields depth)
        (fun items => items.map Prod.fst = fields.map Prod.fst ∧
          ∀ p ∈ fields.zip items, Conforms number length p.1.2 depth p.2.2) bad
  | [], _, _ => by
    unfold fieldsAtDepth
    exact .pure ⟨rfl, fun p hp => absurd hp List.not_mem_nil⟩
  | (name, f) :: fs, depth, ho => by
    unfold fieldsAtDepth
    have hf := atDepth_ensures h f depth (ho.imp_right And.left)
    have hfs := fieldsAtDepth_ensures h fs depth (ho.imp_right And.right)
    refine .bind hf fun x hx => .bind hfs fun xs hxs => .pure ⟨?_, ?_⟩
    · rw [List.map_cons, List.map_cons, hxs.1]
    · exact List.forall_mem_cons.mpr ⟨hx, hxs.2⟩

theorem choicesAtDepth_ensures (h : Supplies d s number length bad) :
    ∀ (shapes : List Shape) (depth : Nat), bad outOfRange ∨ Shape.AllOffer shapes →
      ∀ run ∈ choicesAtDepth d s shapes depth,
        ∃ a ∈ shapes, Ensures run (Conforms number length a depth) bad
  | [], _, _ => by
    unfold choicesAtDepth
    exact fun run hrun => absurd hrun List.not_mem_nil
  | a :: as, depth, ho => by
    unfold choicesAtDepth
    intro run hrun
    rcases List.mem_cons.mp hrun with rfl | hrun
    · exact ⟨a, List.mem_cons_self, atDepth_ensures h a depth (ho.imp_right And.left)⟩
    · obtain ⟨b, hb, hr⟩ := choicesAtDepth_ensures h as depth (ho.imp_right And.right) run hrun
      exact ⟨b, List.mem_cons_of_mem _ hb, hr⟩

end

/-! ## Sources that keep to their bounds -/

/-- The lengths of containers at a depth: none at the greatest depth or beyond, within the bounds
above it. -/
def LengthFits (s : SynthesisSettings) (depth n : Nat) : Prop :=
  if s.maxDepth ≤ depth then n = 0 else s.countRange.1 ≤ n ∧ (n : Int) ≤ s.countRange.2

/-- The integers within the bounds. -/
def IntegerFits (s : SynthesisSettings) (n : Int) : Prop :=
  s.integerRange.1 ≤ n ∧ n ≤ s.integerRange.2

/-- Settings that pass the check have ordered bounds, and no length below zero. -/
theorem bounds_of_checked {s s' : SynthesisSettings} (h : s.checked = .ok s') :
    s.integerRange.1 ≤ s.integerRange.2 ∧ s.countRange.1 ≤ s.countRange.2 ∧
      0 ≤ s.countRange.1 := by
  unfold SynthesisSettings.checked at h
  split at h
  · cases h
  · split at h
    · cases h
    · split at h
      · cases h
      · refine ⟨?_, ?_, ?_⟩ <;> omega

theorem pick_ensures (hd : d.Faithful) {α : Type} (xs : List α) (hxs : xs ≠ []) :
    Ensures (pick d xs) (· ∈ xs) fun _ => False := by
  have hlen : 0 < (xs.length : Int) := by
    have := List.length_pos_iff.mpr hxs
    omega
  refine .bind (hd.choice _ hlen) fun i hi => ?_
  obtain ⟨x, hx⟩ := item?_of_lt hi.1 hi.2
  rw [hx]
  exact .pure (mem_of_item? hx)

theorem lengthAt_ensures (hd : d.Faithful) {s' : SynthesisSettings} (hs : s.checked = .ok s')
    (depth : Nat) : Ensures (lengthAt d s depth) (LengthFits s depth) fun _ => False := by
  obtain ⟨-, hle, h0⟩ := bounds_of_checked hs
  unfold lengthAt LengthFits
  split
  · exact .pure rfl
  · refine .bind (hd.count _ _ hle) fun n hn => .pure ?_
    have h : (n.toNat : Int) = n := Int.toNat_of_nonneg (by omega)
    rw [h]
    exact hn

theorem Faithful.supplies (hd : d.Faithful) {s' : SynthesisSettings} (hs : s.checked = .ok s') :
    Supplies d s (IntegerFits s) (LengthFits s) fun _ => False where
  words := hd.words
  integer := hd.integer _ _ (bounds_of_checked hs).1
  boolean := hd.boolean
  kind := (hd.choice 2 (by decide)).mono fun _ _ => trivial
  pick xs h := pick_ensures hd xs (h.resolve_left id)
  lengthAt := lengthAt_ensures hd hs

/-- A source that keeps to the bounds it is asked for answers a literal that conforms, for every
shape whose choices and unions offer something, at every depth and from every state. -/
theorem synthesis_conforms (hd : d.Faithful) {s' : SynthesisSettings} (hs : s.checked = .ok s')
    {shape : Shape} (ho : shape.Offers) (depth : Nat) (st : σ) :
    ∃ l st', (atDepth d s shape depth).run st = (.ok l, st') ∧
      Conforms (IntegerFits s) (LengthFits s) shape depth l :=
  (atDepth_ensures (Faithful.supplies hd hs) shape depth (.inr ho)).answers st

end Synthesis

namespace Draws

/-- The draws that always answer the lowest of what is allowed. -/
def lowest : Draws Unit where
  words := pure ""
  integer low _ := pure low
  boolean := pure false
  choice _ := pure 0
  count low _ := pure low

theorem lowest_faithful : lowest.Faithful where
  words := .pure trivial
  integer _ _ h := .pure ⟨Int.le_refl _, h⟩
  boolean := .pure trivial
  choice _ h := .pure ⟨Int.le_refl _, h⟩
  count _ _ h := .pure ⟨Int.le_refl _, h⟩

end Draws

namespace Synthesis

/-- At the greatest depth the list is empty, whatever its items would be. -/
theorem synthesis_conforms_empty :
    ∃ l st', (atDepth Draws.lowest { maxDepth := 0 } (.list (.union [.none, .plain .text])) 0).run
        () = (.ok l, st') ∧
      Conforms (IntegerFits { maxDepth := 0 }) (LengthFits { maxDepth := 0 })
        (.list (.union [.none, .plain .text])) 0 l := by
  have ho : (Shape.list (.union [.none, .plain .text])).Offers := by
    simp [Shape.Offers, Shape.AllOffer]
  exact synthesis_conforms Draws.lowest_faithful rfl ho 0 ()

end Synthesis

end Exemplar
