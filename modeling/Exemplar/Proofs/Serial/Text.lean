import Exemplar.Proofs.Serial.Quoted

/-
  The text of any value. It is that of its document if there is one, first without and then with the
  texts of things; otherwise it is its quoted text, and a value without one is named by its type. So
  a value always has a text, and that of a value that nothing keeps from being a document is read
  back, if the value does not nest too deeply (`text_total`). One without cycles may do that
  (`text_deep_tower`).
-/

namespace Exemplar.Serial

open Machine Exec
open Typing (of_run)

variable {P : Stop → Prop} {B B' : Value → State → Prop} {s t : State} {v : Value}
  {quotes : Nat → List Nat → Value → Option String}

/-! ## Attempts -/

/-- What raises an exception that is expected comes to nothing. -/
theorem attempt_settles {α : Type} {x : Exec α} {r : Option α} {expected : Value → Exec Bool}
    (h : Settles P B x s r) (hB : ∀ e t, B e t → (expected e).run t = .ok true t) :
    Settles P B' (attempt expected x) s (some r) := by
  unfold attempt
  obtain ⟨a, t, hrun, ht, rfl⟩ | ⟨e, t, hrun, ht, rfl, he⟩ | ⟨stop, t, hrun, hstop, hP⟩ := h.cases
  · exact .of_run (catching_eq_ok.mpr (.inl (map_eq_ok.mpr ⟨a, hrun, rfl⟩))) ht
  · refine .of_run (catching_eq_ok.mpr (.inr ⟨e, t, map_eq_error.mpr hrun, ?_⟩)) ht
    rw [bind_run (hB e t he)]
    rfl
  · exact .of_stop (catching_eq_error.mpr (.inr ⟨map_eq_error.mpr hrun, hstop⟩)) hstop hP

/-- The text that an attempt comes to, or else the text that follows. -/
theorem attempt_or_settles {x rest : Exec String} {r : Option String} {text : String}
    {expected : Value → Exec Bool} (h : Settles P B x s r)
    (hB : ∀ e t, B e t → (expected e).run t = .ok true t)
    (hrest : ∀ t, s.Leaves t → Settles P B' rest t (some text)) :
    Settles P B' (do
      if let some t ← attempt expected x then return t
      rest) s (some (r.getD text)) := by
  refine (attempt_settles h hB).bind (g := fun r => some (r.getD text)) fun r t _ ht => ?_
  cases r with
  | some text => exact .pure
  | none => exact hrest t ht

/-- No document expresses a thing. -/
theorem refuse_settles (hB : AdmitsErrors B) (w : Value) : Settles P B (refuse w) t none :=
  .bind_looks Typing.looks_of fun _ => .bind_looks Typing.looks_shortName fun _ =>
    .raise (hB _ (by decide))

/-! ## Names of types -/

/-- The name of the type of a value. -/
def typeName (v : Value) : Exec String := do Typing.shortName (← Typing.of v)

theorem looks_typeName : Looks (typeName v) := .bind Typing.looks_of fun _ => Typing.looks_shortName

theorem shortName_class {a : Nat} {o : Object} {k : Machine.Class} (ho : s.objects[a]? = some o)
    (hk : o.data = .classOf k) : (Typing.shortName (.object a)).run s = .ok k.name s := by
  unfold Typing.shortName Typing.class?
  dsimp only
  rw [bind_assoc, bind_run (dataAt_run ho), hk]
  rfl

theorem shortName_other {a : Nat} {o : Object} (ho : s.objects[a]? = some o)
    (hdata : ∀ k, o.data ≠ .classOf k) : (Typing.shortName (.object a)).run s = .ok "object" s := by
  unfold Typing.shortName Typing.class?
  dsimp only
  rw [bind_assoc, bind_run (dataAt_run ho)]
  cases hd : o.data with
  | classOf k => exact absurd hd (hdata k)
  | _ => rfl

/-- A class that is there keeps its name. -/
theorem shortName_leaves {c : Value} {name : String} (hc : ∀ a, c = .object a → a < s.objects.size)
    (hst : s.Leaves t) (h : (Typing.shortName c).run s = .ok name s) :
    (Typing.shortName c).run t = .ok name t := by
  cases c with
  | object a =>
    obtain ⟨o, ho⟩ : ∃ o, s.objects[a]? = some o := ⟨_, Array.getElem?_eq_getElem (hc a rfl)⟩
    obtain ⟨o', ho', hsame⟩ := hst.objects ho
    by_cases hclass : ∃ k, o.data = .classOf k
    · obtain ⟨k, hk⟩ := hclass
      obtain rfl := hsame.eq (by simp [hk])
      rw [shortName_class ho hk] at h
      cases h
      exact shortName_class ho' hk
    · have hother : ∀ k, o.data ≠ .classOf k := fun k hk => hclass ⟨k, hk⟩
      have hother' : ∀ k, o'.data ≠ .classOf k := by
        obtain rfl | ⟨x, c, -, rfl⟩ := hsame
        · exact hother
        · nofun
      rw [shortName_other ho hother] at h
      cases h
      exact shortName_other ho' hother'
  | kind k =>
    cases h
    rfl
  | _ =>
    cases h
    rfl

theorem typeName_leaves {name : String} (hv : s.form v = .other → s.HasThing v)
    (hst : s.Leaves t) (h : (typeName v).run s = .ok name s) : (typeName v).run t = .ok name t := by
  cases v with
  | object a =>
    have named {o o' : Object} (ho : s.objects[a]? = some o) (ho' : t.objects[a]? = some o')
        (hcls : o'.cls = o.cls) (hc : ∀ c, o.cls = .object c → c < s.objects.size) :
        (typeName (.object a)).run t = .ok name t := by
      unfold typeName at h ⊢
      rw [bind_run (of_run ho)] at h
      rw [bind_run (of_run ho'), hcls]
      exact shortName_leaves hc hst h
    obtain ⟨o, xs, ho, hcls, -⟩ | ⟨o, table, ho, hcls, -⟩ | hother := s.form_object a
    · obtain ⟨o', ho', hsame⟩ := hst.objects ho
      exact named ho ho' hsame.cls_eq (by simp [hcls])
    · obtain ⟨o', ho', hsame⟩ := hst.objects ho
      exact named ho ho' hsame.cls_eq (by simp [hcls])
    · obtain ⟨o, ho, -, hc⟩ := hv hother a rfl
      obtain ⟨o', ho', hsame⟩ := hst.objects ho
      exact named ho ho' hsame.cls_eq hc
  | _ =>
    cases h
    rfl

/-! ## Texts -/

/-- A document without the texts of things. -/
theorem asDocument_settles {e : Engine}
    (hthings : ∀ w, s.Reaches v w → s.form w = .other → s.HasThing w) :
    Settles P Expected (asDocument e v) s
      ((document? s (fun _ => none) maxDepth [] v).map Json.toText) :=
  document_settles admitsErrors_expected
    (fun w hw hother => ⟨hthings w hw hother, fun _ _ => refuse_settles admitsErrors_expected w⟩)
    (.refl s)

/-- A document with the texts of things. -/
theorem withQuotes_settles (ht : s.Leaves t)
    (hthings : ∀ w, s.Reaches v w → s.form w = .other → Quotable P s (quotes · · w) w) :
    Settles P Ordinary (withQuotes Run.machine v) t
      ((documentOf? s (quotes Run.maxDepth s.shown) maxDepth [] v).map Json.toText) := by
  refine document_settles admitsErrors_ordinary (fun w hw hother => ?_) ht
  have hw := hthings w hw hother
  refine ⟨hw.thing, fun u hu => ?_⟩
  have h := hw.settles Run.maxDepth u hu.toRetains
  rw [hu.shown] at h
  rw [Option.map_map]
  exact h.bind_pure

/-- The text of a value is that of its document, or else its quoted text or one that names its
type. -/
theorem text_settles {name : String} (hname : (typeName v).run s = .ok name s)
    (hthings : ∀ w, s.Reaches v w → s.form w = .other → Quotable P s (quotes · · w) w) :
    Settles P (fun _ _ => False) (text Run.machine v) s
      (some (((document? s (fun _ => none) maxDepth [] v).map Json.toText).getD
        (((documentOf? s (quotes Run.maxDepth s.shown) maxDepth [] v).map Json.toText).getD
          ((quote? s quotes Run.maxDepth s.shown v).getD ("<unrepresentable " ++ name ++ ">"))))) := by
  unfold text
  dsimp only
  refine attempt_or_settles
    (asDocument_settles fun w hw hother => (hthings w hw hother).thing) (fun _ _ => id)
    fun t ht => ?_
  refine attempt_or_settles (withQuotes_settles ht hthings) (fun _ _ => id) fun u hu => ?_
  have hsu := ht.trans hu
  have hquoted := quoted_settles (n := Run.maxDepth) hthings hsu.toRetains
  rw [hsu.shown] at hquoted
  refine attempt_or_settles hquoted (fun _ _ => id) fun u' hu' => ?_
  have hlast := typeName_leaves (fun h => (hthings v .refl h).thing) (hsu.trans hu') hname
  rw [← bind_assoc]
  exact .bind_of_run hlast .pure

/-- The text of a value that is a document is that of the document, which says what the value does;
any other value has its quoted text, or one that names its type if it has none. -/
theorem text_cases {name : String} (hname : (typeName v).run s = .ok name s)
    (hthings : ∀ w, s.Reaches v w → s.form w = .other → Quotable P s (quotes · · w) w) :
    ∃ shown, Settles P (fun _ _ => False) (text Run.machine v) s (some shown) ∧
      (Expressible s (quotes Run.maxDepth s.shown) v ∧ s.Nests maxDepth v →
        ∃ j, Json.read? shown = some j ∧ Denotes s (quotes Run.maxDepth s.shown) v j) ∧
      (¬ (Expressible s (quotes Run.maxDepth s.shown) v ∧ s.Nests maxDepth v) →
        shown = (quote? s quotes Run.maxDepth s.shown v).getD
          ("<unrepresentable " ++ name ++ ">")) := by
  have hdocument : (∃ j, documentOf? s (quotes Run.maxDepth s.shown) maxDepth [] v = some j) ↔
      s.Nests maxDepth v ∧ Expressible s (quotes Run.maxDepth s.shown) v := document?_iff
  refine ⟨_, text_settles hname hthings, fun h => ?_, fun h => ?_⟩
  · obtain ⟨j, hj⟩ := hdocument.mpr ⟨h.2, h.1⟩
    obtain ⟨hdenotes, hreadable⟩ := document?_spec hj
    refine ⟨j, ?_, hdenotes⟩
    rw [hj]
    cases hfirst : document? s (fun _ => none) maxDepth [] v with
    | none => exact hreadable.read_toText
    | some k =>
      have hk : documentOf? s (quotes Run.maxDepth s.shown) maxDepth [] v = some k :=
        document?_mono hfirst
      rw [hj] at hk
      cases hk
      exact hreadable.read_toText
  · have hno : documentOf? s (quotes Run.maxDepth s.shown) maxDepth [] v = none := by
      rw [← Option.not_isSome_iff_eq_none, Option.isSome_iff_exists]
      exact fun hsome => h (hdocument.mp hsome).symm
    have hfirst : document? s (fun _ => none) maxDepth [] v = none := by
      cases hfirst : document? s (fun _ => none) maxDepth [] v with
      | none => rfl
      | some k => exact absurd (hno.symm.trans (document?_mono hfirst)) nofun
    rw [hno, hfirst]
    rfl

/-- A store with a thing and a list that holds it twice. -/
def thingStore : State where
  objects := #[{ cls := .kind .dict, data := .dict {} }, { cls := .kind .dict, data := .dict {} },
    { cls := .kind (.thing "Thing"), data := .thing (some "<thing>") },
    { cls := .kind .list, data := .list #[.int 1, .object 2, .tuple [.object 2]] }]
  steps := 0

/-- Tuples inside one another, the innermost empty. -/
def tower : Nat → Value
  | 0 => .tuple []
  | n + 1 => .tuple [tower n]

theorem hasPart_tower {n : Nat} {w : Value} (h : s.HasPart (tower n) w) :
    ∃ k, n = k + 1 ∧ w = tower k := by
  cases n with
  | zero => cases h
  | succ n => exact ⟨n, rfl, List.mem_singleton.mp h⟩

theorem reaches_tower {n : Nat} {w : Value} (h : s.Reaches (tower n) w) : ∃ k, w = tower k := by
  induction h with
  | refl => exact ⟨n, rfl⟩
  | tail _ hw ih =>
    obtain ⟨k, rfl⟩ := ih
    obtain ⟨j, -, rfl⟩ := hasPart_tower hw
    exact ⟨j, rfl⟩

theorem nests_tower (n : Nat) : s.Nests (n + 1) (tower n) := by
  induction n with
  | zero => exact fun w hw => nomatch hw
  | succ n ih =>
    intro w hw
    obtain ⟨k, heq, rfl⟩ := hasPart_tower hw
    cases heq
    exact ih

theorem form_tower (n : Nat) : ∃ items, s.form (tower n) = .tuple items := by
  cases n <;> exact ⟨_, rfl⟩

theorem expressible_tower (quotes : Value → Option String) (n : Nat) :
    Expressible s quotes (tower n) where
  acyclic w hw := by
    obtain ⟨k, rfl⟩ := reaches_tower hw
    exact (nests_tower k).not_isCyclic
  fits w hw := by
    obtain ⟨k, rfl⟩ := reaches_tower hw
    obtain ⟨items, hitems⟩ := form_tower (s := s) k
    unfold Fits
    rw [hitems]
    trivial

theorem not_nests_tower {n k : Nat} (h : n ≤ k) : ¬ s.Nests n (tower k) := by
  induction n generalizing k with
  | zero => exact id
  | succ n ih =>
    obtain ⟨k, rfl⟩ := Nat.exists_eq_add_of_le' (Nat.lt_of_lt_of_le (Nat.succ_pos n) h)
    exact fun hnests => ih (Nat.le_of_succ_le_succ h) (hnests (tower k) (.head _))

theorem quote?_tower {n k : Nat} (h : n ≤ k) (shown : List Nat) :
    quote? s quotes n shown (tower k) = none := by
  induction n generalizing k with
  | zero => rfl
  | succ n ih =>
    obtain ⟨k, rfl⟩ := Nat.exists_eq_add_of_le' (Nat.lt_of_lt_of_le (Nat.succ_pos n) h)
    exact congrArg (Option.map _) (ih (Nat.le_of_succ_le_succ h))

/-- Whatever nests too deeply for a document and for its quoted text is named by its type. -/
theorem text_tower {n : Nat} (hn : maxDepth ≤ n) :
    ∃ t, (text Run.machine (tower n)).run s = .ok "<unrepresentable tuple>" t := by
  have hthings : ∀ w, s.Reaches (tower n) w → s.form w = .other →
      Quotable (fun _ => False) s (fun _ _ => none) w := by
    intro w hw hother
    obtain ⟨k, rfl⟩ := reaches_tower hw
    obtain ⟨items, hitems⟩ := form_tower (s := s) k
    rw [hitems] at hother
    cases hother
  have hname : (typeName (tower n)).run s = .ok "tuple" s := by
    cases n <;> rfl
  obtain ⟨shown, hsettles, -, hquoted⟩ := text_cases hname hthings
  have hshown := hquoted fun h => not_nests_tower hn h.2
  rw [quote?_tower (n := Run.maxDepth) hn] at hshown
  obtain ⟨a, t, hrun, -, heq⟩ | ⟨e, t, -, -, -, hfalse⟩ | ⟨stop, t, -, -, hfalse⟩ := hsettles.cases
  · cases heq
    rw [hshown] at hrun
    exact ⟨t, hrun⟩
  · exact hfalse.elim
  · exact hfalse.elim

end Exemplar.Serial
