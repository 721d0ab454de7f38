import Exemplar.Proofs.Serial.Documents
import Exemplar.Proofs.Worker

/-
  Quoting a value settles to its quoted text, whatever is quoted around it (`quoted_settles`). Things
  in the value have texts of their own (`Quotable`): making one answers or raises an exception of the
  usual kind, the same each time, and changes nothing that there is.
-/

namespace Exemplar.Serial

open Machine Exec
open Typing (of_run)

/-! ## Exceptions that may be met -/

/-- The value is an exception of the usual kind. -/
def Ordinary (x : Value) (t : State) : Prop := (isOrdinary x).run t = .ok true t

theorem isError_run {t : State} {a : Nat} {o : Object} {k : Kind} (ho : t.objects[a]? = some o)
    (hcls : o.cls = .kind k) (cls : String) :
    (Typing.isError (.object a) cls).run t = .ok (k.extends? (.exception cls)) t := by
  unfold Typing.isError Typing.isA
  rw [bind_run (of_run ho), hcls]
  rfl

theorem anyM_isError_run {t : State} {a : Nat} {o : Object} {k : Kind}
    (ho : t.objects[a]? = some o) (hcls : o.cls = .kind k) (names : List String) :
    (names.anyM (Typing.isError (.object a))).run t =
      .ok (names.any fun cls => k.extends? (.exception cls)) t := by
  induction names with
  | nil => rfl
  | cons cls names ih =>
    unfold List.anyM
    rw [bind_run (isError_run ho hcls cls), List.any_cons]
    cases k.extends? (.exception cls) with
    | true => rfl
    | false => exact ih

theorem admits_ordinary {cls : String}
    (h : (Kind.exception cls).extends? (.exception "Exception") = true) : Admits Ordinary cls := by
  intro a t o ho hk
  rw [Ordinary, isOrdinary, isError_run ho hk, h]

theorem admitsErrors_ordinary : AdmitsErrors Ordinary := fun cls hcls =>
  admits_ordinary ((by decide : ∀ cls ∈ textErrors,
    (Kind.exception cls).extends? (.exception "Exception") = true) cls hcls)

/-- Exceptions that writing a document is to meet. -/
def Expected (x : Value) (t : State) : Prop := (isExpected x).run t = .ok true t

theorem admitsErrors_expected : AdmitsErrors Expected := by
  intro cls hcls a t o ho hk
  have hextends : ∀ cls ∈ textErrors, (["TypeError", "ValueError", "OverflowError",
      "RecursionError"].any fun name => (Kind.exception cls).extends? (.exception name)) = true := by
    decide
  rw [Expected, isExpected, anyM_isError_run ho hk, hextends cls hcls]

/-- A computation answers the same whatever containers their text is being made of, and leaves the
machine as it is. -/
def Reads {α : Type} (x : Exec α) : Prop :=
  ∀ s : State, ∃ a, ∀ l, x.run { s with shown := l } = .ok a { s with shown := l }

namespace Reads

variable {α β : Type} {x : Exec α} {f : α → Exec β}

theorem pure (a : α) : Reads (Pure.pure a : Exec α) := fun _ => ⟨a, fun _ => rfl⟩

theorem bind (hx : Reads x) (hf : ∀ a, Reads (f a)) : Reads (x >>= f) := by
  intro s
  obtain ⟨a, ha⟩ := hx s
  obtain ⟨b, hb⟩ := hf a s
  exact ⟨b, fun l => (bind_run (ha l)).trans (hb l)⟩

theorem dataAt (a : Nat) : Reads (dataAt a) :=
  fun s => ⟨(s.objects.getD a default).data, fun _ => rfl⟩

theorem of (v : Value) : Reads (Typing.of v) := by
  cases v with
  | object a => exact fun s => ⟨(s.objects.getD a default).cls, fun _ => rfl⟩
  | _ => exact pure _

theorem class? (t : Value) : Reads (Typing.class? t) := by
  cases t with
  | object a =>
    refine bind (dataAt a) fun d => ?_
    cases d <;> exact pure _
  | _ => exact pure _

theorem lineage (t : Value) : Reads (Typing.lineage t) := by
  cases t with
  | kind k => exact pure _
  | _ => exact bind (class? _) fun _ => pure _

theorem isError (v : Value) (cls : String) : Reads (Typing.isError v cls) := by
  unfold Typing.isError Typing.isA
  refine bind (of v) fun t => ?_
  split
  · exact pure _
  · unfold Typing.extends?
    split
    · exact pure _
    · split
      · exact pure _
      · exact bind (lineage _) fun _ => pure _

end Reads

theorem Ordinary.shown {x : Value} {t : State} (h : Ordinary x t) (l : List Nat) :
    Ordinary x { t with shown := l } := by
  obtain ⟨b, hb⟩ := Reads.isError x "Exception" t
  have hsame := h.symm.trans (hb t.shown)
  cases hsame
  exact hb l

/-! ## Quoted texts without the machine -/

/-- The text of a tuple, where `quote` gives those of its items. -/
def tupleText? (quote : Value → Option String) : List Value → Option String
  | [w] => (quote w).map fun t => "(" ++ t ++ ",)"
  | ws => (ws.mapM quote).map fun ts => "(" ++ ", ".intercalate ts ++ ")"

/-- The text of an entry, where `quote` gives those of its parts. -/
def entryText? (quote : Value → Option String) (e : Machine.Entry) : Option String := do
  return (← quote e.key) ++ ": " ++ (← quote e.value)

/-- The quoted text of a value that nests in fewer levels than a number. A container inside itself
is cut to dots: `shown` are those around the value. `things` gives the texts of things. -/
def quote? (s : State) (things : Nat → List Nat → Value → Option String) :
    Nat → List Nat → Value → Option String
  | 0, _, _ => none
  | n + 1, shown, v =>
    match s.form v with
    | .null => some "None"
    | .bool b => some (if b then "True" else "False")
    | .int k => if Decimal.isLong k then none else some (toString k)
    | .float x => some (Decimal.floatText x)
    | .str t => some (Text.quote t)
    | .tuple items => tupleText? (quote? s things n shown) items
    | .list a items =>
      if shown.contains a then some "[...]"
      else
        (items.mapM (quote? s things n (a :: shown))).map fun ts =>
          "[" ++ ", ".intercalate ts ++ "]"
    | .dict a entries =>
      if shown.contains a then some "\x7b...\x7d"
      else
        (entries.mapM (entryText? (quote? s things n (a :: shown)))).map fun ts =>
          "\x7b" ++ ", ".intercalate ts ++ "\x7d"
    | .other => things (n + 1) shown v

/-- A thing of which only the quoted text counts: making that text answers with a text or raises an
exception of the usual kind, as the depth that calls may nest to and the containers whose text is
being made say, and changes nothing that there is. `P` says how else that may stop. -/
structure Quotable (P : Stop → Prop) (s : State) (text? : Nat → List Nat → Option String)
    (v : Value) : Prop where
  thing : s.HasThing v
  settles : ∀ n t, s.Retains t →
    Settles P Ordinary ((Run.engine n).quoted v) t (text? n t.shown)

variable {P : Stop → Prop} {s t : State} {v : Value} {n : Nat}
  {things : Nat → List Nat → Value → Option String}

/-- The text of a container, cut to dots inside the container itself. -/
theorem shown_settles {a : Nat} {dots : String} {make : Exec String} {r : Option String}
    (h : Settles P Ordinary make { t with shown := a :: t.shown } r) :
    Settles P Ordinary (Show.within a dots make) t
      (if t.shown.contains a then some dots else r) := by
  have leaves {u : State} (hu : { t with shown := a :: t.shown }.Leaves u) :
      t.Leaves { u with shown := u.shown.erase a } :=
    ⟨⟨hu.objects, hu.cells⟩, by simp [hu.shown]⟩
  unfold Show.within
  refine .bind_of_run (x := get) rfl ?_
  split
  · exact .pure
  · obtain ⟨text, u, hrun, hu, rfl⟩ | ⟨e, u, hrun, hu, rfl, he⟩ | ⟨stop, u, hrun, hstop, hP⟩ :=
      h.cases
    · refine .of_run ?_ (leaves hu)
      exact (bind_run (x := modify _) rfl).trans (bind_run (tryCatch_ok hrun))
    · refine .of_raised ?_ (leaves hu) (he.shown _)
      exact (bind_run (x := modify _) rfl).trans
        (bind_eq_error.mpr (.inl (tryCatch_error hrun)))
    · refine .of_stop (t := { u with shown := u.shown.erase a }) ?_ hstop hP
      exact (bind_run (x := modify _) rfl).trans
        (bind_eq_error.mpr (.inl (tryCatch_error hrun)))

section

variable {e : Engine} {quote : Value → Option String}

/-- The texts of items between marks. -/
theorem listed_settles (left right : String) (ws : List Value)
    (h : ∀ w ∈ ws, ∀ u, t.Leaves u → Settles P Ordinary (e.quoted w) u (quote w)) :
    Settles P Ordinary (do return left ++ (← Show.listed e ws) ++ right) t
      ((ws.mapM quote).map fun ts => left ++ ", ".intercalate ts ++ right) := by
  have hlisted : Settles P Ordinary (Show.listed e ws) t
      ((ws.mapM quote).map (", ".intercalate ·)) := (Settles.mapM ws h).bind_pure
  have hmarked := hlisted.bind_pure (g := fun text => left ++ text ++ right)
  rwa [Option.map_map] at hmarked

theorem tupleText_settles (ws : List Value)
    (h : ∀ w ∈ ws, ∀ u, t.Leaves u → Settles P Ordinary (e.quoted w) u (quote w)) :
    Settles P Ordinary (Show.tupleText e ws) t (tupleText? quote ws) := by
  match ws, h with
  | [w], h => exact (h w (.head _) t (.refl t)).bind_pure (g := fun text => "(" ++ text ++ ",)")
  | [], h => exact listed_settles "(" ")" [] h
  | w :: w' :: ws, h => exact listed_settles "(" ")" (w :: w' :: ws) h

theorem entriesText_settles (table : Table) (h : ∀ x ∈ table.toList, ∀ u, t.Leaves u →
      Settles P Ordinary (e.quoted x.key) u (quote x.key) ∧
        Settles P Ordinary (e.quoted x.value) u (quote x.value)) :
    Settles P Ordinary (Show.entriesText e table) t
      ((table.toList.mapM (entryText? quote)).map fun ts =>
        "\x7b" ++ ", ".intercalate ts ++ "\x7d") := by
  have entry (x : Machine.Entry) (hx : x ∈ table.toList) (u : State) (hu : t.Leaves u) :
      Settles P Ordinary (do return (← e.quoted x.key) ++ ": " ++ (← e.quoted x.value)) u
        (entryText? quote x) :=
    (h x hx u hu).1.bind fun key u' _ hu' => (h x hx u' (hu.trans hu')).2.bind
      (g := fun text => some (key ++ ": " ++ text)) fun _ _ _ _ => .pure
  exact (Settles.mapM table.toList entry).bind_pure

/-- An object that is no instance of a declared class is quoted by what it holds. -/
theorem ofData_settles {a : Nat} {o : Object} {k : Kind} {r : Option String}
    (ho : t.objects[a]? = some o) (hcls : o.cls = .kind k)
    (hk : (Value.kind k).same (.kind .stub) = false)
    (h : Settles P Ordinary (Show.ofData e a o) t r) :
    Settles P Ordinary (Show.quoted e (.object a)) t r := by
  unfold Show.quoted
  refine .bind_of_run (object_run ho) ?_
  rw [hcls]
  refine .bind_of_run (object_run ho) ?_
  rwa [hcls, hk, if_neg Bool.false_ne_true]

end

/-- A thing of another making has the text that is known of it, if any. -/
theorem quotable_thing {a : Nat} {o : Object} {name : String} {text? : Option String}
    (ho : s.objects[a]? = some o) (hcls : o.cls = .kind (.thing name))
    (hdata : o.data = .thing text?) :
    Quotable P s (fun n _ => if n = 0 then none else text?) (.object a) where
  thing b hb := by
    cases hb
    exact ⟨o, ho, by simp [Object.IsThing, hdata], by simp [hcls]⟩
  settles n t ht := by
    cases n with
    | zero => exact .raise (admitsErrors_ordinary _ (by decide))
    | succ n =>
      refine ofData_settles (ht.object ho (by simp [hdata])) hcls rfl ?_
      rw [Show.ofData, hdata]
      cases text? with
      | none => exact .raise (admits_ordinary (by decide))
      | some text => exact .pure

/-- Quoting a value settles to its quoted text, or to none if there is none. By induction on the
depth that calls may nest to. -/
theorem quoted_settles
    (hthings : ∀ w, s.Reaches v w → s.form w = .other → Quotable P s (things · · w) w)
    (ht : s.Retains t) :
    Settles P Ordinary ((Run.engine n).quoted v) t (quote? s things n t.shown v) := by
  induction n generalizing v t with
  | zero => exact .raise (admitsErrors_ordinary _ (by decide))
  | succ n ih =>
    have part (w : Value) (hw : s.HasPart v w) (u u' : State) (hu : s.Retains u) (hu' : u.Leaves u') :
        Settles P Ordinary ((Run.engine n).quoted w) u' (quote? s things n u.shown w) := by
      rw [← hu'.shown]
      exact ih (fun x hx => hthings x (.head hw hx)) (hu.trans hu'.toRetains)
    have inside (a : Nat) : s.Retains { t with shown := a :: t.shown } := ⟨ht.objects, ht.cells⟩
    show Settles P Ordinary (Show.quoted (Run.engine n) v) t _
    unfold quote?
    cases v with
    | none | float | str => exact .pure
    | bool b => exact .pure
    | int k => exact intText_settles admitsErrors_ordinary k
    | tuple items => exact tupleText_settles items fun w hw u hu => part w hw t u ht hu
    | object a =>
      obtain ⟨o, xs, ho, hcls, hdata, hv⟩ | ⟨o, table, ho, hcls, hdata, hv⟩ | hv := s.form_object a
      · rw [hv]
        refine ofData_settles (ht.object ho (by simp [hdata])) hcls (by decide) ?_
        rw [Show.ofData, hdata]
        refine shown_settles (listed_settles "[" "]" xs.toList fun w hw u hu => ?_)
        refine part w ?_ _ u (inside a) hu
        rwa [State.HasPart, hv]
      · rw [hv]
        refine ofData_settles (ht.object ho (by simp [hdata])) hcls (by decide) ?_
        rw [Show.ofData, hdata]
        refine shown_settles (entriesText_settles table fun x hx u hu => ?_)
        obtain ⟨hkey, hvalue⟩ := State.entry_parts hv hx
        exact ⟨part x.key hkey _ u (inside a) hu, part x.value hvalue _ u (inside a) hu⟩
      · rw [hv]
        exact (hthings _ .refl hv).settles (n + 1) t ht
    | _ => exact (hthings _ .refl rfl).settles (n + 1) t ht

end Exemplar.Serial
