import Exemplar.Proofs.Anchors
import Exemplar.Proofs.Call.Build
import Exemplar.Proofs.Hint.Union
import Exemplar.Proofs.Shape.Scalars

/-
  The compact form of shapes tells them apart. The first characters tell which kind of shape stands
  there, unless it is a union, and brackets close what they open; so the form of such a shape is the
  form of no other, whatever stands behind it. The form of a union ends before what ends an item
  outside of its alternatives, and it has no brackets of its own: a shape in normal form is known by
  its alternatives, which are no unions (`Shape.describe_tells`).

  The form of parameters. A name is parted from its shape by a colon, and a star is the name of
  nothing; so what is shown of two callables is alike only if their parameters are.
-/

namespace Exemplar

open Syntax

/-! ## Resolved shapes -/

namespace Shape

mutual

/-- Whether every field in the shape is named by an identifier. -/
def identified : Shape → Bool
  | .list e => identified e
  | .tuple es => allIdentified es
  | .mapping k v => identified k && identified v
  | .record fs => fieldsIdentified fs
  | .union as => allIdentified as
  | _ => true

def allIdentified : List Shape → Bool
  | [] => true
  | s :: ss => identified s && allIdentified ss

def fieldsIdentified : List (String × Shape) → Bool
  | [] => true
  | (n, s) :: fs => decide (IsWord n.toList) && identified s && fieldsIdentified fs

end

theorem identified_among {ss : List Shape} (h : allIdentified ss = true) :
    ∀ s ∈ ss, s.identified = true := by
  induction ss with
  | nil => exact List.forall_mem_nil _
  | cons s ss ih =>
    have parts := Bool.and_eq_true_iff.mp h
    exact List.forall_mem_cons.mpr ⟨parts.1, ih parts.2⟩

theorem identified_amongFields {fs : List (String × Shape)} (h : fieldsIdentified fs = true) :
    ∀ f ∈ fs, IsWord f.1.toList ∧ f.2.identified = true := by
  induction fs with
  | nil => exact List.forall_mem_nil _
  | cons f fs ih =>
    obtain ⟨own, rest⟩ := Bool.and_eq_true_iff.mp h
    rw [Bool.and_eq_true, decide_eq_true_eq] at own
    exact List.forall_mem_cons.mpr ⟨own, ih rest⟩

theorem holdsLong_among {ss : List Shape} (h : anyHoldsLong ss = false) :
    ∀ s ∈ ss, s.holdsLong = false := by
  induction ss with
  | nil => exact List.forall_mem_nil _
  | cons s ss ih =>
    have parts := Bool.or_eq_false_iff.mp h
    exact List.forall_mem_cons.mpr ⟨parts.1, ih parts.2⟩

theorem holdsLong_amongFields {fs : List (String × Shape)} (h : anyFieldHoldsLong fs = false) :
    ∀ f ∈ fs, f.2.holdsLong = false := by
  induction fs with
  | nil => exact List.forall_mem_nil _
  | cons f fs ih =>
    have parts := Bool.or_eq_false_iff.mp h
    exact List.forall_mem_cons.mpr ⟨parts.1, ih parts.2⟩

/-- The shape is in normal form, the scalars in it can be written, and its fields are named by
identifiers. -/
structure Resolved (s : Shape) : Prop where
  normal : s.Normal
  proper : s.Proper
  short : s.holdsLong = false
  identified : s.identified = true

namespace Resolved

theorem choice {vs : List Scalar} (h : (Shape.choice vs).Resolved) : ∀ v ∈ vs, v.Told := by
  match h with
  | ⟨_, .choice proper, short, _⟩ =>
    exact fun v hv => ⟨proper v hv, Bool.eq_false_iff.mpr (List.any_eq_false.mp short v hv)⟩

theorem list {e : Shape} (h : (Shape.list e).Resolved) : e.Resolved := by
  match h with
  | ⟨.list normal, .list proper, short, names⟩ => exact ⟨normal, proper, short, names⟩

theorem tuple {es : List Shape} (h : (Shape.tuple es).Resolved) : ∀ e ∈ es, e.Resolved := by
  match h with
  | ⟨.tuple normal, .tuple proper, short, names⟩ =>
    exact fun e he => ⟨normal e he, proper e he, holdsLong_among short e he,
      identified_among names e he⟩

theorem mapping {k v : Shape} (h : (Shape.mapping k v).Resolved) : k.Resolved ∧ v.Resolved := by
  match h with
  | ⟨.mapping nk nv, .mapping pk pv, short, names⟩ =>
    obtain ⟨sk, sv⟩ := Bool.or_eq_false_iff.mp short
    obtain ⟨ik, iv⟩ := Bool.and_eq_true_iff.mp names
    exact ⟨⟨nk, pk, sk, ik⟩, ⟨nv, pv, sv, iv⟩⟩

theorem record {fs : List (String × Shape)} (h : (Shape.record fs).Resolved) :
    ∀ f ∈ fs, IsWord f.1.toList ∧ f.2.Resolved := by
  match h with
  | ⟨.record normal, .record proper, short, names⟩ =>
    intro f hf
    obtain ⟨hname, hshape⟩ := identified_amongFields names f hf
    exact ⟨hname, normal f hf, proper f hf, holdsLong_amongFields short f hf, hshape⟩

theorem alternatives {s : Shape} (h : s.Resolved) :
    ∀ a ∈ s.alternatives, a.Resolved ∧ ¬a.IsUnion := by
  cases s with
  | union as =>
    match h with
    | ⟨.union _ flat normal, .union proper, short, names⟩ =>
      exact fun a ha => ⟨⟨normal a ha, proper a ha, holdsLong_among short a ha,
        identified_among names a ha⟩, flat a ha⟩
  | _ => exact List.forall_mem_singleton.mpr ⟨h, id⟩

end Resolved

/-! ## The compact form, one kind of shape after the other -/

theorem describeAll_eq (ss : List Shape) : describeAll ss = ss.map describe := by
  induction ss with
  | nil => rfl
  | cons s ss ih => exact congrArg (s.describe :: ·) ih

/-- The compact form as characters. -/
def form (s : Shape) : List Char := s.describe.toList

/-- A name with the compact form of its shape. -/
def fieldForm (f : String × Shape) : List Char := f.1.toList ++ ':' :: ' ' :: f.2.form

theorem fieldForm_eq (n : String) (s : Shape) :
    (n ++ ": " ++ s.describe).toList = fieldForm (n, s) := by
  simp [fieldForm, form]

theorem describeFields_eq (fs : List (String × Shape)) :
    (describeFields fs).map String.toList = fs.map fieldForm := by
  induction fs with
  | nil => rfl
  | cons f fs ih =>
    obtain ⟨n, s⟩ := f
    show (n ++ ": " ++ s.describe).toList :: (describeFields fs).map String.toList = _
    rw [ih, fieldForm_eq, List.map_cons]

theorem form_choice (vs : List Scalar) : form (.choice vs) =
    "Literal[".toList ++ ([',', ' '].intercalate (vs.map (·.quoted.toList)) ++ [']']) := by
  show ("Literal[" ++ ", ".intercalate (vs.map Scalar.quoted) ++ "]").toList = _
  simp [String.toList_intercalate, Function.comp_def]

theorem form_list (e : Shape) : form (.list e) = "list[".toList ++ (e.form ++ [']']) := by
  show ("list[" ++ e.describe ++ "]").toList = _
  simp [form]

theorem form_tuple (es : List Shape) : form (.tuple es) =
    "tuple[".toList ++ ([',', ' '].intercalate (es.map form) ++ [']']) := by
  have all : (describeAll es).map String.toList = es.map form := by
    rw [describeAll_eq, List.map_map]
    rfl
  show ("tuple[" ++ ", ".intercalate (describeAll es) ++ "]").toList = _
  simp [String.toList_intercalate, all]

theorem form_mapping (k v : Shape) : form (.mapping k v) =
    "dict[".toList ++ (k.form ++ ',' :: ' ' :: (v.form ++ [']'])) := by
  show ("dict[" ++ k.describe ++ ", " ++ v.describe ++ "]").toList = _
  simp [form]

theorem form_record (fs : List (String × Shape)) : form (.record fs) =
    '\x7b' :: ([',', ' '].intercalate (fs.map fieldForm) ++ ['\x7d']) := by
  show ("\x7b" ++ ", ".intercalate (describeFields fs) ++ "\x7d").toList = _
  simp [String.toList_intercalate, describeFields_eq]

/-- The alternatives stand between bars. -/
theorem form_alternatives (s : Shape) :
    s.form = [' ', '|', ' '].intercalate (s.alternatives.map form) := by
  cases s with
  | union as =>
    show (" | ".intercalate (describeAll as)).toList = _
    rw [describeAll_eq, String.toList_intercalate, List.map_map]
    rfl
  | _ =>
    show _ = [' ', '|', ' '].intercalate [_]
    rw [List.intercalate_singleton]

/-- The first character of a shape that is no union. -/
def mark : Shape → Char
  | .plain .text => 's'
  | .plain .number => 'n'
  | .plain .boolean => 'b'
  | .none => 'N'
  | .choice _ => 'L'
  | .list _ => 'l'
  | .tuple _ => 't'
  | .mapping _ _ => 'd'
  | .record _ => '\x7b'
  | .named _ => '<'
  | .union _ => '|'
  | .unknown => 'u'

/-- Shapes of one kind, which are no unions. -/
inductive Kindred : Shape → Shape → Prop
  | plain {kind} : Kindred (.plain kind) (.plain kind)
  | none : Kindred .none .none
  | choice {vs ws} : Kindred (.choice vs) (.choice ws)
  | list {e f} : Kindred (.list e) (.list f)
  | tuple {es fs} : Kindred (.tuple es) (.tuple fs)
  | mapping {k v l w} : Kindred (.mapping k v) (.mapping l w)
  | record {fs gs} : Kindred (.record fs) (.record gs)
  | unknown : Kindred .unknown .unknown

/-- The shape is resolved and no union, so that its compact form closes what it opens. -/
def Closed (s : Shape) : Prop := s.Resolved ∧ ¬s.IsUnion

theorem Closed.form_mark {s : Shape} (h : s.Closed) : ∃ r, s.form = s.mark :: r := by
  cases s with
  | plain kind => cases kind <;> exact ⟨_, rfl⟩
  | none => exact ⟨_, rfl⟩
  | choice vs => exact ⟨_, form_choice vs⟩
  | list e => exact ⟨_, form_list e⟩
  | tuple es => exact ⟨_, form_tuple es⟩
  | mapping k v => exact ⟨_, form_mapping k v⟩
  | record fs => exact ⟨_, form_record fs⟩
  | union => exact absurd trivial h.2
  | named => cases h.1.normal
  | unknown => exact ⟨_, rfl⟩

/-- The first character tells which kind of shape stands there. -/
theorem Closed.kindred {s t : Shape} (hs : s.Closed) (ht : t.Closed) {x y : List Char}
    (h : s.form ++ x = t.form ++ y) : Kindred s t := by
  have marks : s.mark = t.mark := by
    obtain ⟨r, hr⟩ := hs.form_mark
    obtain ⟨r', hr'⟩ := ht.form_mark
    rw [hr, hr'] at h
    exact (List.cons.inj h).1
  obtain ⟨⟨hs, -, -, -⟩, flat⟩ := hs
  obtain ⟨⟨ht, -, -, -⟩, flat'⟩ := ht
  cases hs with
  | @plain k =>
    cases ht with
    | @plain l => cases k <;> cases l <;> first | exact .plain | exact absurd marks (by simp [mark])
    | union => exact absurd trivial flat'
    | _ => cases k <;> exact absurd marks (by simp [mark])
  | union => exact absurd trivial flat
  | _ =>
    cases ht with
    | @plain l => cases l <;> exact absurd marks (by simp [mark])
    | union => exact absurd trivial flat'
    | _ => first | constructor | exact absurd marks (by simp [mark])

/-! ## Telling shapes apart -/

/-- What stands behind an item of a bracket: nothing, a comma or a closing bracket. -/
def Closes (x : List Char) : Prop := ∀ c ∈ x.head?, c = ',' ∨ c = ']' ∨ c = '\x7d'

theorem Closed.not_closes {s : Shape} (h : s.Closed) (x : List Char) : ¬Closes (s.form ++ x) := by
  obtain ⟨r, hr⟩ := h.form_mark
  rw [hr]
  intro hcloses
  have hmark : s.mark = ',' ∨ s.mark = ']' ∨ s.mark = '\x7d' := hcloses s.mark rfl
  cases s with
  | plain kind => cases kind <;> simp [mark] at hmark
  | _ => simp [mark] at hmark

/-- No item ends where it begins. -/
theorem Resolved.not_closes {s : Shape} (h : s.Resolved) (x : List Char) :
    ¬Closes (s.form ++ x) := by
  obtain ⟨a, as, has⟩ := List.exists_cons_of_ne_nil h.normal.alternatives_ne_nil
  rw [form_alternatives, has, List.map_cons, intercalate_cons_eq, List.append_assoc]
  exact Closed.not_closes (h.alternatives a (has ▸ .head _)) _

/-- The alternatives of a shape tell it apart, if each of them is told apart. -/
theorem tells_of_alternatives {s : Shape} (hs : s.Resolved)
    (h : ∀ a ∈ s.alternatives, Tells Closed (fun _ => True) form a) :
    Tells Resolved Closes form s := by
  have joined : Tells (fun bs => ∀ b ∈ bs, b.Closed) Closes
      (fun bs => [' ', '|', ' '].intercalate (bs.map form)) s.alternatives := by
    refine Tells.joined (fun _ => trivial) (fun _ _ => trivial) ?_ (fun a ha => ha.not_closes)
      fun a ha => ⟨hs.alternatives a ha, h a ha⟩
    intro x hx
    exact absurd (hx ' ' rfl) (by decide)
  intro t ht x y hx hy heq
  rw [form_alternatives s, form_alternatives t] at heq
  obtain ⟨same, hxy⟩ := joined t.alternatives ht.alternatives x y hx hy heq
  refine ⟨?_, hxy⟩
  rw [← unite_alternatives hs.normal, same, unite_alternatives ht.normal]

/-- The field is named by an identifier, and its shape is resolved. -/
def ClearField (f : String × Shape) : Prop := IsWord f.1.toList ∧ f.2.Resolved

/-- A colon ends the name of a field. -/
theorem tells_field {f : String × Shape} (hf : IsWord f.1.toList)
    (h : Tells Resolved Closes form f.2) : Tells ClearField Closes fieldForm f := by
  have name : ∀ {n : List Char}, IsWord n → ∀ r,
      (n ++ ':' :: r).takeWhile isWordPart = n ∧ (n ++ ':' :: r).dropWhile isWordPart = ':' :: r :=
    fun hn r => takeWhile_word hn.part ⟨':', r, rfl, by decide⟩
  intro g hg x y hx hy heq
  simp only [fieldForm, List.append_assoc, List.cons_append] at heq
  obtain ⟨hname, hrest⟩ := name hf (' ' :: (f.2.form ++ x))
  rw [heq] at hname hrest
  obtain ⟨hname', hrest'⟩ := name hg.1 (' ' :: (g.2.form ++ y))
  have shapes := (List.cons.inj (List.cons.inj (hrest'.symm.trans hrest)).2).2
  obtain ⟨same, hxy⟩ := h g.2 hg.2 x y hx hy shapes.symm
  exact ⟨Prod.ext (String.toList_inj.mp (hname.symm.trans hname')) same, hxy⟩

theorem closes_comma (x : List Char) : Closes (',' :: x) :=
  fun _ hc => .inl (Option.some.inj hc).symm

theorem closes_bracket (x : List Char) : Closes (']' :: x) :=
  fun _ hc => .inr (.inl (Option.some.inj hc).symm)

theorem closes_brace (x : List Char) : Closes ('\x7d' :: x) :=
  fun _ hc => .inr (.inr (Option.some.inj hc).symm)

/-- Items with commas between them, in front of the bracket that closes them. -/
theorem tells_items {α : Type} {ok : α → Prop} {behind : List Char → Prop} {text : α → List Char}
    {close : Char} (hclose : close ≠ ',') (hcomma : ∀ x, behind (',' :: x))
    (hbehind : ∀ x, behind (close :: x)) (hfront : ∀ a, ok a → ∃ c r, text a = c :: r ∧ c ≠ close)
    {as bs : List α} (has : ∀ a ∈ as, ok a ∧ Tells ok behind text a) (hbs : ∀ b ∈ bs, ok b)
    {x y : List Char} (h : [',', ' '].intercalate (as.map text) ++ close :: x =
      [',', ' '].intercalate (bs.map text) ++ close :: y) : as = bs ∧ x = y := by
  have joined : Tells (fun bs => ∀ b ∈ bs, ok b) (fun x => ∃ r, x = close :: r)
      (fun bs => [',', ' '].intercalate (bs.map text)) as := by
    refine Tells.joined (fun x => hcomma (' ' :: x)) ?_ ?_ ?_ has
    · rintro _ ⟨r, rfl⟩
      exact hbehind r
    · rintro x ⟨r, hr⟩
      exact hclose (List.cons.inj hr).1.symm
    · rintro a ha x ⟨r, hr⟩
      obtain ⟨c, cs, hcs, hc⟩ := hfront a ha
      rw [hcs] at hr
      exact hc (List.cons.inj hr).1
  obtain ⟨same, hxy⟩ := joined bs hbs _ _ ⟨x, rfl⟩ ⟨y, rfl⟩ h
  exact ⟨same, (List.cons.inj hxy).2⟩

theorem Resolved.front {s : Shape} (h : s.Resolved) : ∃ c r, s.form = c :: r ∧ c ≠ ']' := by
  have hne := h.not_closes []
  rw [List.append_nil] at hne
  cases hs : s.form with
  | nil =>
    rw [hs] at hne
    exact absurd (fun c hc => nomatch hc) hne
  | cons c r =>
    refine ⟨c, r, rfl, ?_⟩
    rintro rfl
    rw [hs] at hne
    exact hne (closes_bracket r)

theorem ClearField.front {f : String × Shape} (h : ClearField f) :
    ∃ c r, fieldForm f = c :: r ∧ isWordStart c = true := by
  obtain ⟨c, r, hcs, hc⟩ := h.1.start
  refine ⟨c, r ++ ':' :: ' ' :: f.2.form, ?_, hc⟩
  unfold fieldForm
  rw [hcs, List.cons_append]

/-! ## The kinds of shapes -/

/-- A shape that is the only one of its kind. -/
theorem tells_bare {s : Shape} (hs : s.Closed) (h : ∀ t, Kindred s t → s = t) :
    Tells Closed (fun _ => True) form s := by
  intro t ht x y _ _ heq
  obtain rfl := h t (hs.kindred ht heq)
  exact ⟨rfl, List.append_cancel_left heq⟩

theorem tells_choice {vs : List Scalar} (hs : (choice vs).Resolved) :
    Tells Closed (fun _ => True) form (.choice vs) := by
  intro t ht x y _ _ heq
  cases Closed.kindred ⟨hs, id⟩ ht heq with
  | choice =>
    simp only [form_choice, List.append_assoc, List.append_cancel_left_eq,
      List.singleton_append] at heq
    obtain ⟨rfl, hxy⟩ := tells_items (by decide) (fun x => behind_item (by decide))
      (fun x => behind_item (by decide)) (fun v hv => Scalar.front hv)
      (fun v hv => ⟨hs.choice v hv, Scalar.tells_quoted (hs.choice v hv)⟩) ht.1.choice heq
    exact ⟨rfl, hxy⟩

theorem tells_list {e : Shape} (hs : (list e).Resolved) (he : Tells Resolved Closes form e) :
    Tells Closed (fun _ => True) form (.list e) := by
  intro t ht x y _ _ heq
  cases Closed.kindred ⟨hs, id⟩ ht heq with
  | list =>
    simp only [form_list, List.append_assoc, List.append_cancel_left_eq,
      List.singleton_append] at heq
    obtain ⟨rfl, hxy⟩ := he _ ht.1.list _ _ (closes_bracket x) (closes_bracket y) heq
    exact ⟨rfl, (List.cons.inj hxy).2⟩

theorem tells_tuple {es : List Shape} (hs : (tuple es).Resolved)
    (hes : ∀ e ∈ es, Tells Resolved Closes form e) :
    Tells Closed (fun _ => True) form (.tuple es) := by
  intro t ht x y _ _ heq
  cases Closed.kindred ⟨hs, id⟩ ht heq with
  | tuple =>
    simp only [form_tuple, List.append_assoc, List.append_cancel_left_eq,
      List.singleton_append] at heq
    obtain ⟨rfl, hxy⟩ := tells_items (by decide) closes_comma closes_bracket
      (fun e he => Resolved.front he) (fun e he => ⟨hs.tuple e he, hes e he⟩) ht.1.tuple heq
    exact ⟨rfl, hxy⟩

theorem tells_mapping {k v : Shape} (hs : (mapping k v).Resolved)
    (hk : Tells Resolved Closes form k) (hv : Tells Resolved Closes form v) :
    Tells Closed (fun _ => True) form (.mapping k v) := by
  intro t ht x y _ _ heq
  cases Closed.kindred ⟨hs, id⟩ ht heq with
  | mapping =>
    simp only [form_mapping, List.append_assoc, List.append_cancel_left_eq, List.cons_append,
      List.nil_append] at heq
    obtain ⟨rfl, hrest⟩ := hk _ ht.1.mapping.1 _ _ (closes_comma _) (closes_comma _) heq
    have hvalues := (List.cons.inj (List.cons.inj hrest).2).2
    obtain ⟨rfl, hxy⟩ := hv _ ht.1.mapping.2 _ _ (closes_bracket x) (closes_bracket y) hvalues
    exact ⟨rfl, (List.cons.inj hxy).2⟩

theorem tells_record {fs : List (String × Shape)} (hs : (record fs).Resolved)
    (hfs : ∀ f ∈ fs, Tells Resolved Closes form f.2) :
    Tells Closed (fun _ => True) form (.record fs) := by
  intro t ht x y _ _ heq
  cases Closed.kindred ⟨hs, id⟩ ht heq with
  | record =>
    simp only [form_record, List.append_assoc, List.cons_append, List.nil_append,
      List.cons.injEq, true_and] at heq
    have fields : ∀ f ∈ fs, ClearField f ∧ Tells ClearField Closes fieldForm f :=
      fun f hf => ⟨hs.record f hf, tells_field (hs.record f hf).1 (hfs f hf)⟩
    have hfront : ∀ f, ClearField f → ∃ c r, fieldForm f = c :: r ∧ c ≠ '\x7d' := by
      intro f hf
      obtain ⟨c, r, hcs, hc⟩ := hf.front
      refine ⟨c, r, hcs, ?_⟩
      rintro rfl
      cases hc
    obtain ⟨rfl, hxy⟩ := tells_items (by decide) closes_comma closes_brace hfront fields
      ht.1.record heq
    exact ⟨rfl, hxy⟩

/-- The compact form of a shape that is no union tells it apart whatever stands behind it. By
induction on the shape: its parts stand in front of what closes them. -/
theorem tells_closed {s : Shape} (h : s.Normal) :
    s.Resolved → ∀ a ∈ s.alternatives, Tells Closed (fun _ => True) form a := by
  induction h with
  | plain =>
    intro hs
    exact List.forall_mem_singleton.mpr (tells_bare ⟨hs, id⟩ fun t ht => by cases ht; rfl)
  | none =>
    intro hs
    exact List.forall_mem_singleton.mpr (tells_bare ⟨hs, id⟩ fun t ht => by cases ht; rfl)
  | unknown =>
    intro hs
    exact List.forall_mem_singleton.mpr (tells_bare ⟨hs, id⟩ fun t ht => by cases ht; rfl)
  | choice =>
    intro hs
    exact List.forall_mem_singleton.mpr (tells_choice hs)
  | list _ ih =>
    intro hs
    have element := tells_of_alternatives hs.list (ih hs.list)
    exact List.forall_mem_singleton.mpr (tells_list hs element)
  | tuple _ ih =>
    intro hs
    refine List.forall_mem_singleton.mpr (tells_tuple hs fun e he => ?_)
    exact tells_of_alternatives (hs.tuple e he) (ih e he (hs.tuple e he))
  | mapping _ _ ihk ihv =>
    intro hs
    have key := tells_of_alternatives hs.mapping.1 (ihk hs.mapping.1)
    have value := tells_of_alternatives hs.mapping.2 (ihv hs.mapping.2)
    exact List.forall_mem_singleton.mpr (tells_mapping hs key value)
  | record _ ih =>
    intro hs
    refine List.forall_mem_singleton.mpr (tells_record hs fun f hf => ?_)
    have hshape := (hs.record f hf).2
    exact tells_of_alternatives hshape (ih f hf hshape)
  | union several flat _ ih =>
    intro hs a ha
    have hself := alternatives_eq_singleton (flat a ha)
    exact ih a ha (hs.alternatives a ha).1 a (hself ▸ .head _)

/-- Resolved shapes are told apart in front of what ends an item. -/
theorem Resolved.tells {s : Shape} (h : s.Resolved) : Tells Resolved Closes form s :=
  tells_of_alternatives h (tells_closed h.normal h)

end Shape

/-! ## Parameters -/

namespace Callable

open Shape (ClearField Closes fieldForm fieldForm_eq closes_comma tells_field)

/-- What is shown of parameters: fields, and a star in front of those passed by name. -/
def items (before : Bool) : List ShapedParameter → List (Option (String × Shape))
  | [] => []
  | p :: ps =>
    let own := some (p.name, p.shape)
    if p.keywordOnly && !before then none :: own :: items p.keywordOnly ps
    else own :: items p.keywordOnly ps

def itemForm : Option (String × Shape) → List Char
  | none => ['*']
  | some f => fieldForm f

theorem parts_eq (ps : List ShapedParameter) (before : Bool) :
    (describeParameters.parts before ps).map String.toList = (items before ps).map itemForm := by
  induction ps generalizing before with
  | nil => rfl
  | cons p ps ih =>
    unfold describeParameters.parts items
    dsimp only
    split
    · rw [List.map_cons, List.map_cons, List.map_cons, List.map_cons, ih, fieldForm_eq, itemForm,
        itemForm]
      rfl
    · rw [List.map_cons, List.map_cons, ih, fieldForm_eq, itemForm]

theorem describeParameters_eq (ps : List ShapedParameter) :
    (describeParameters ps).toList = [',', ' '].intercalate ((items false ps).map itemForm) := by
  unfold describeParameters
  rw [String.toList_intercalate, parts_eq]
  rfl

/-- The fields among what is shown are the parameters, each with its name and its shape. -/
theorem fields_items (ps : List ShapedParameter) (before : Bool) :
    (items before ps).filterMap id = ps.map fun p => (p.name, p.shape) := by
  induction ps generalizing before with
  | nil => rfl
  | cons p ps ih =>
    unfold items
    dsimp only
    split
    · exact congrArg _ (ih p.keywordOnly)
    · exact congrArg _ (ih p.keywordOnly)

def ClearItem (o : Option (String × Shape)) : Prop := ∀ f ∈ o, ClearField f

theorem clear_items {ps : List ShapedParameter}
    (h : ∀ p ∈ ps, ClearField (p.name, p.shape)) (before : Bool) :
    ∀ o ∈ items before ps, ClearItem o := by
  intro o ho f hf
  have hmem : f ∈ (items before ps).filterMap id := List.mem_filterMap.mpr ⟨o, ho, hf⟩
  rw [fields_items] at hmem
  obtain ⟨p, hp, rfl⟩ := List.mem_map.mp hmem
  exact h p hp

theorem ClearItem.front {o : Option (String × Shape)} (h : ClearItem o) :
    ∃ c r, itemForm o = c :: r ∧ (c = '*' → o = none) := by
  cases o with
  | none => exact ⟨'*', [], rfl, fun _ => rfl⟩
  | some f =>
    obtain ⟨c, r, hcs, hc⟩ := (h f rfl).front
    refine ⟨c, r, hcs, ?_⟩
    rintro rfl
    cases hc

/-- No name begins with a star. -/
theorem tells_item {o : Option (String × Shape)} (h : ClearItem o) :
    Tells ClearItem Closes itemForm o := by
  intro o' h' x y hx hy heq
  obtain ⟨c, r, hcs, hc⟩ := h.front
  obtain ⟨d, s, hds, hd⟩ := h'.front
  have heads : c = d := by
    rw [hcs, hds] at heq
    exact (List.cons.inj heq).1
  cases o with
  | none =>
    unfold itemForm at hcs
    have hstar : '*' = c := (List.cons.inj hcs).1
    obtain rfl := hd (hstar.trans heads).symm
    exact ⟨rfl, (List.cons.inj heq).2⟩
  | some f =>
    cases o' with
    | none =>
      have hstar : '*' = d := (List.cons.inj hds).1
      cases hc (heads.trans hstar.symm)
    | some g =>
      obtain ⟨hname, hshape⟩ := h f rfl
      obtain ⟨rfl, hxy⟩ := tells_field hname hshape.tells g (h' g rfl) x y hx hy heq
      exact ⟨rfl, hxy⟩

/-- What is shown of parameters tells their names and their shapes. -/
theorem parameters_of_describe {ps qs : List ShapedParameter}
    (hps : ∀ p ∈ ps, ClearField (p.name, p.shape)) (hqs : ∀ q ∈ qs, ClearField (q.name, q.shape))
    (h : describeParameters ps = describeParameters qs) :
    ps.map (fun p => (p.name, p.shape)) = qs.map fun q => (q.name, q.shape) := by
  have joined : Tells (fun os => ∀ o ∈ os, ClearItem o) (fun x => x = [])
      (fun os => [',', ' '].intercalate (os.map itemForm)) (items false ps) := by
    refine Tells.joined (fun x => closes_comma (' ' :: x)) ?_ (fun x => List.cons_ne_nil _ _) ?_
      fun o ho => ⟨clear_items hps false o ho, tells_item (clear_items hps false o ho)⟩
    · rintro x rfl
      exact nofun
    · intro o ho x hx
      obtain ⟨c, r, hcs, -⟩ := ho.front
      rw [hcs] at hx
      cases hx
  have forms := congrArg String.toList h
  rw [describeParameters_eq, describeParameters_eq] at forms
  obtain ⟨same, -⟩ := joined _ (clear_items hqs false) [] [] rfl rfl
    (congrArg (· ++ []) forms)
  rw [← fields_items ps false, same, fields_items]

/-! ### Callables of accepted files -/

/-- The callable is declared in an accepted file. -/
def Accepted (c : Callable) : Prop := ∃ filename text m cs,
  Module.parse filename text = .ok m ∧ Callables.ofFile m.text m.body = .ok cs ∧ c ∈ cs

/-- A parameter of a file has a name, and its shape is in normal form and lists proper scalars. -/
theorem Accepted.parameters {c : Callable} (h : c.Accepted) :
    ∀ p ∈ c.parameters, IsName p.name ∧ p.shape.Normal ∧ p.shape.Proper := by
  obtain ⟨_, _, m, cs, hm, hcs, hc⟩ := h
  obtain ⟨-, hparse, -⟩ := Module.body_of_parse hm
  have hsound := parseFile_sound (fun _ _ => trivial) hparse
  obtain ⟨stmt, hstmt, declared, hdeclared, hread⟩ := Callables.exists_declared hcs hc
  obtain ⟨-, rfl⟩ := (Callables.Declared.read_answers declared c).mp hread
  have sound := Callables.callable_parameters hsound hstmt hdeclared
  intro p hp
  refine ⟨(sound p hp).1, ?_, (sound p hp).2⟩
  obtain ⟨hinted, -, rfl⟩ := List.mem_map.mp hp
  have normal := (Declarations.resolved_normal (.ofStmts m.body)).2.1 hinted.hint
    (declared.docs.lookup hinted.name)
  show (hinted.shape (.ofStmts m.body) declared.docs).Normal
  unfold Callables.Hinted.shape
  cases hr : Declarations.resolve (.ofStmts m.body) hinted.hint
      (declared.docs.lookup hinted.name) with
  | error e => exact .unknown
  | ok s => exact normal s hr

end Callable

namespace Shape

/-- Resolved shapes with the same compact form are the same, down to the types of the scalars that
they list. So what is shown of the parameters of two callables of accepted files, whose fields are
named by identifiers, is alike only if their names and their shapes are. -/
theorem describe_injective :
    (∀ s t : Shape, s.Resolved → t.Resolved → s.describe = t.describe → s = t) ∧
    ∀ c d : Callable, c.Accepted → d.Accepted → (∀ p ∈ c.parameters, p.shape.identified = true) →
      (∀ p ∈ d.parameters, p.shape.identified = true) →
      ∀ shown, parametersText c.parameters = .ok shown →
        parametersText d.parameters = .ok shown →
          c.parameters.map (fun p => (p.name, p.shape)) =
            d.parameters.map fun p => (p.name, p.shape) := by
  have shown_eq : ∀ {ps : List ShapedParameter} {shown : String}, parametersText ps = .ok shown →
      (∀ p ∈ ps, p.shape.holdsLong = false) ∧ shown = describeParameters ps := by
    intro ps shown h
    unfold parametersText at h
    split at h
    · cases h
    · rename_i hlong
      cases h
      have short := List.any_eq_false.mp (Bool.eq_false_iff.mpr hlong)
      exact ⟨fun p hp => Bool.eq_false_iff.mpr (short p hp), rfl⟩
  have clear : ∀ {c : Callable}, c.Accepted → (∀ p ∈ c.parameters, p.shape.identified = true) →
      (∀ p ∈ c.parameters, p.shape.holdsLong = false) →
        ∀ p ∈ c.parameters, ClearField (p.name, p.shape) := by
    intro c hc hfields hshort p hp
    obtain ⟨hname, hnormal, hproper⟩ := hc.parameters p hp
    exact ⟨hname.word, hnormal, hproper, hshort p hp, hfields p hp⟩
  constructor
  · intro s t hs ht h
    have forms : s.form ++ [] = t.form ++ [] := congrArg (·.toList ++ []) h
    exact (hs.tells t ht [] [] nofun nofun forms).1
  · intro c d hc hd hcf hdf shown hshown hshown'
    obtain ⟨hcs, rfl⟩ := shown_eq hshown
    obtain ⟨hds, heq⟩ := shown_eq hshown'
    exact Callable.parameters_of_describe (clear hc hcf hcs) (clear hd hdf hds) heq

/-- Scalars that are equal as keys, and a text that looks like one of them. -/
def lookalikes : Shape := .choice [.int 1, .bool true, .str "1"]

/-- A record, a choice and an empty tuple. -/
def variety : Shape := .union [.record [("a", .plain .number)], lookalikes, .tuple []]

theorem resolved_variety : variety.Resolved where
  normal := by
    refine .union (by decide) ?_ ?_
    · simp only [List.forall_mem_cons]
      exact ⟨id, id, id, List.forall_mem_nil _⟩
    · simp only [List.forall_mem_cons]
      exact ⟨.record (List.forall_mem_singleton.mpr .plain), .choice (List.cons_ne_nil _ _),
        .tuple (List.forall_mem_nil _), List.forall_mem_nil _⟩
  proper := by
    refine .union ?_
    simp only [List.forall_mem_cons]
    refine ⟨.record (List.forall_mem_singleton.mpr .plain), .choice ?_, .tuple (List.forall_mem_nil _),
      List.forall_mem_nil _⟩
    simp only [List.forall_mem_cons]
    exact ⟨trivial, trivial, trivial, List.forall_mem_nil _⟩
  short := by decide +kernel
  identified := by decide +kernel

/-- Its first two alternatives joined before the last one. -/
def varietyInTwo : Shape :=
  unite [.union [.record [("a", .plain .number)], lookalikes], .tuple []]

theorem resolved_varietyInTwo : varietyInTwo.Resolved := resolved_variety

/-- Two functions with the same parameters. -/
def sameParameters : List Char := "def f(a, *, b): 0\ndef g(a, *, b): 1\n".toList

set_option maxRecDepth 20000 in
theorem ofText?_sameParameters :
    (Callables.ofText? sameParameters).map (fun cs => cs.map fun c =>
      ((parametersText c.parameters).toOption.map String.toList,
        c.parameters.all (·.shape.identified))) =
      some [(some "a: unknown, *, b: unknown".toList, true),
        (some "a: unknown, *, b: unknown".toList, true)] := by
  decide +kernel

/-- A shape that is joined from others in two ways, and two functions with the same parameters. -/
theorem describe_injective_variety :
    variety.describe = "\x7ba: number\x7d | Literal[1, True, '1'] | tuple[]" ∧
    variety = varietyInTwo ∧
    ∃ c d, Callables.ofText? sameParameters = some [c, d] ∧
      c.parameters.map (fun p => (p.name, p.shape)) =
        d.parameters.map fun p => (p.name, p.shape) := by
  obtain ⟨resolved, files⟩ := describe_injective
  have described : variety.describe = varietyInTwo.describe := by decide +kernel
  refine ⟨by decide +kernel,
    resolved variety varietyInTwo resolved_variety resolved_varietyInTwo described, ?_⟩
  obtain ⟨cs, htext, hshown⟩ := Option.map_eq_some_iff.mp ofText?_sameParameters
  obtain ⟨m, hm, hcs⟩ := Callables.exists_of_ofText? htext
  have accepted : ∀ c ∈ cs, c.Accepted := by
    obtain ⟨hmtext, -, -⟩ := Module.body_of_parse hm
    exact fun c hc => ⟨"", sameParameters, m, cs, hm, hmtext ▸ hcs, hc⟩
  have shown_of : ∀ {ps : List ShapedParameter} {cs : List Char},
      (parametersText ps).toOption.map String.toList = some cs →
        parametersText ps = .ok (String.ofList cs) := by
    intro ps cs h
    cases hps : parametersText ps with
    | error e =>
      rw [hps] at h
      cases h
    | ok shown =>
      rw [hps] at h
      rw [← Option.some.inj h]
      exact congrArg Except.ok String.ofList_toList.symm
  obtain ⟨c, d, rfl⟩ : ∃ c d, cs = [c, d] := by
    have hlength := congrArg List.length hshown
    rw [List.length_map] at hlength
    exact List.length_eq_two.mp hlength
  rw [List.map_cons, List.map_singleton] at hshown
  obtain ⟨hc, hd⟩ := List.cons.inj hshown
  obtain ⟨hctext, hcall⟩ := Prod.mk.inj hc
  obtain ⟨hdtext, hdall⟩ := Prod.mk.inj (List.cons.inj hd).1
  exact ⟨c, d, htext, files c d (accepted c (.head _)) (accepted d (.tail _ (.head _)))
    (List.all_eq_true.mp hcall) (List.all_eq_true.mp hdall) _ (shown_of hctext)
    (shown_of hdtext)⟩

end Shape

end Exemplar
