import Exemplar.Proofs.Serial.Settles
import Exemplar.Proofs.Serial.Values
import Exemplar.Sandbox.Worker

/-
  Writing a document settles to what `document?` says of the value (`document_settles`), whichever
  way things are written: an exception that is raised on the way means that there is no document.
  The machine changes nothing that a value is made of, so the parts of a value are found as they were
  before those in front of them were written.
-/

namespace Exemplar.Serial

open Machine Exec
open Typing (of_run unboxed_run)

/-! ## Texts of containers -/

theorem toText_arr (js : List Json) :
    (Json.arr js).toText = "[" ++ ", ".intercalate (js.map Json.toText) ++ "]" := by
  have items : String.ofList (Json.writeItems false js) = ", ".intercalate (js.map Json.toText) := by
    induction js with
    | nil => rfl
    | cons j js ih =>
      cases js with
      | nil =>
        rw [Json.writeItems, List.map_singleton, String.intercalate_singleton]
        rfl
      | cons k ks =>
        rw [Json.writeItems_cons, List.map_cons, List.map_cons, String.intercalate_cons_cons,
          ← List.map_cons, ← ih, ← String.toList_inj]
        simp [Json.toText]
  rw [← items, ← String.toList_inj]
  simp [Json.toText, Json.write]

/-- The text of a field. -/
def fieldText (p : String × Json) : String := writeText p.1 ++ ": " ++ p.2.toText

theorem toText_obj (fs : List (String × Json)) :
    (Json.obj fs).toText = "\x7b" ++ ", ".intercalate (fs.map fieldText) ++ "\x7d" := by
  have fields : String.ofList (Json.writeFields false fs) = ", ".intercalate (fs.map fieldText) := by
    induction fs with
    | nil => rfl
    | cons p fs ih =>
      cases fs with
      | nil =>
        rw [Json.writeFields, List.map_singleton, String.intercalate_singleton, ← String.toList_inj]
        simp [fieldText, writeText, Json.toText]
      | cons q qs =>
        rw [List.map_cons, List.map_cons, String.intercalate_cons_cons,
          ← List.map_cons, ← ih, ← String.toList_inj]
        simp [Json.toText, fieldText, writeText, Json.writeFields]
  rw [← fields, ← String.toList_inj]
  simp [Json.toText, Json.write]

variable {s t : State} {v w : Value} {n : Nat} {path : List Nat} {P : Stop → Prop}
  {B : Value → State → Prop}

theorem writeFloat_plainFloat (x : Binary64) :
    Json.writeFloat (plainFloat x) = Json.writeFloat x := by
  unfold plainFloat
  split
  · rename_i h
    rw [Json.writeFloat, Json.writeFloat, if_pos h, if_pos (by decide +kernel)]
  · rfl

/-! ## Keys -/

theorem intText_settles (hB : AdmitsErrors B) (k : Int) : Settles P B (Show.intText k) t
    (if Decimal.isLong k then none else some (toString k)) := by
  unfold Show.intText
  split
  · exact .raise (hB _ (by decide))
  · exact .pure

/-- A part has a name as a key, or it is refused. -/
theorem keyText_settles (hB : AdmitsErrors B) (hw : (Typing.unboxed w).run t = .ok w t) :
    Settles P B (keyText w) t (keyName? w) := by
  unfold keyText
  refine .bind_of_run hw ?_
  have refused (x : Value) : Settles (α := String) P B (do
      Exec.typeError ("keys must be str, int, float, bool or None, not " ++ (← Typing.word x))) t
      none := .bind_looks Typing.looks_word fun _ => .raise (hB _ (by decide))
  cases w with
  | str | bool | none | float => exact .pure
  | int k => exact intText_settles hB k
  | _ => exact refused _

/-! ## Things -/

theorem isThing_of_same {o o' : Object} (h : o.IsThing) (hsame : o.Same o') : o'.IsThing := by
  obtain rfl | ⟨x, c, -, rfl⟩ := hsame
  · exact h
  · trivial

/-- A thing is one in later states too. -/
theorem thing_at {a : Nat} (h : s.HasThing (.object a)) (ht : s.Leaves t) :
    ∃ o, t.objects[a]? = some o ∧ o.IsThing := by
  obtain ⟨o, ho, hthing, -⟩ := h a rfl
  obtain ⟨o', ho', hsame⟩ := ht.objects ho
  exact ⟨o', ho', isThing_of_same hthing hsame⟩

/-- What a value is made of is no value in an instance of a class. -/
theorem unboxed_part (ht : s.Leaves t) (h : s.form w = .other → s.HasThing w) :
    (Typing.unboxed w).run t = .ok w t := by
  cases w with
  | object a =>
    obtain ⟨o, xs, ho, -, hdata, -⟩ | ⟨o, table, ho, -, hdata, -⟩ | hv := s.form_object a
    · exact unboxed_run (ht.object ho (by simp [hdata])) (by simp [hdata])
    · exact unboxed_run (ht.object ho (by simp [hdata])) (by simp [hdata])
    · obtain ⟨o, ho, hthing⟩ := thing_at (h hv) ht
      exact unboxed_run ho hthing.ne_boxed
  | _ => rfl

/-! ## Documents -/

/-- The entries of a dictionary that is no instance of a declared class. -/
theorem entriesOf_run {a : Nat} {o : Object} {k : Kind} {e : Engine} {table : Table}
    (ho : t.objects[a]? = some o) (hcls : o.cls = .kind k) :
    (entriesOf e (.object a) table).run t =
      .ok (table.toList.map fun x => (x.key, x.value)) t := by
  unfold entriesOf
  rw [bind_run (of_run ho), hcls]
  rfl

/-- A container is not inside itself. -/
theorem within_settles {a : Nat} {make : List Nat → Exec String} {r : Option Json}
    (hB : AdmitsErrors B) (h : Settles P B (make (a :: path)) t (r.map Json.toText)) :
    Settles P B (within path a make) t
      ((if path.contains a then none else r).map Json.toText) := by
  unfold within
  split
  · exact .raise (hB _ (by decide))
  · exact h

section

variable {write : Value → Exec String} {document : Value → Option Json}

theorem array_settles (ws : List Value) (h : ∀ w ∈ ws, ∀ u, t.Leaves u →
      Settles P B (write w) u ((document w).map Json.toText)) :
    Settles P B (do
      let texts ← ws.mapM write
      pure ("[" ++ ", ".intercalate texts ++ "]")) t
      (((ws.mapM document).map .arr).map Json.toText) := by
  have hitems := Settles.mapM ws h
  rw [mapM_map_some] at hitems
  simpa [Function.comp_def, toText_arr] using
    hitems.bind_pure (g := fun texts => "[" ++ ", ".intercalate texts ++ "]")

theorem field_settles (hB : AdmitsErrors B) {x : Machine.Entry}
    (hkey : (Typing.unboxed x.key).run t = .ok x.key t) (hvalue : ∀ u, t.Leaves u →
      Settles P B (write x.value) u ((document x.value).map Json.toText)) :
    Settles P B (do
      let name ← keyText x.key
      return writeText name ++ ": " ++ (← write x.value)) t
      ((field? document x).map fieldText) := by
  have h := (keyText_settles (P := P) hB hkey).bind fun name u _ hu =>
    (hvalue u hu).bind_pure (g := (writeText name ++ ": " ++ ·))
  unfold field? fieldText
  cases hk : keyName? x.key <;> cases hj : document x.value <;> simpa [hk, hj] using h

theorem object_settles (hB : AdmitsErrors B) (xs : List Machine.Entry)
    (h : ∀ x ∈ xs, ∀ u, t.Leaves u → (Typing.unboxed x.key).run u = .ok x.key u ∧
      Settles P B (write x.value) u ((document x.value).map Json.toText)) :
    Settles P B (do
      let texts ← xs.mapM fun x => do
        let name ← keyText x.key
        return writeText name ++ ": " ++ (← write x.value)
      pure ("\x7b" ++ ", ".intercalate texts ++ "\x7d")) t
      (((xs.mapM (field? document)).map .obj).map Json.toText) := by
  have hfields := Settles.mapM xs fun x hx u hu =>
    show Settles P B _ u ((field? document x).map fieldText) from field_settles hB (h x hx u hu).1
      fun u' hu' => (h x hx u' (hu.trans hu')).2
  rw [mapM_map_some] at hfields
  simpa [Function.comp_def, toText_obj] using
    hfields.bind_pure (g := fun texts => "\x7b" ++ ", ".intercalate texts ++ "\x7d")

end

/-- Writing a document settles to its text, or to none if there is no document. By induction on the
levels. -/
theorem document_settles {e : Engine} {other : Value → Exec String} {other? : Value → Option Json}
    (hB : AdmitsErrors B) (hother : ∀ w, s.Reaches v w → s.form w = .other →
      s.HasThing w ∧ ∀ t, s.Leaves t → Settles P B (other w) t ((other? w).map Json.toText))
    (ht : s.Leaves t) : Settles P B (document e other n path v) t
      ((document? s other? n path v).map Json.toText) := by
  induction n generalizing path v t with
  | zero => exact .raise (hB _ (by decide))
  | succ n ih =>
    have part (path : List Nat) (w : Value) (hw : s.HasPart v w) (u : State) (hu : t.Leaves u) :
        Settles P B (document e other n path w) u ((document? s other? n path w).map Json.toText) :=
      ih (fun x hx => hother x (.head hw hx)) (ht.trans hu)
    have key (w : Value) (hw : s.HasPart v w) (u : State) (hu : t.Leaves u) :
        (Typing.unboxed w).run u = .ok w u :=
      unboxed_part (ht.trans hu) fun h => (hother w (.single hw) h).1
    unfold document document?
    cases v with
    | none => exact .bind_of_run rfl (.bind_of_run rfl .pure)
    | bool b =>
      refine .bind_of_run rfl (.bind_of_run rfl ?_)
      cases b <;> exact .pure
    | int k =>
      refine .bind_of_run rfl (.bind_of_run rfl ?_)
      have h := intText_settles (P := P) (t := t) hB k
      cases hk : Decimal.isLong k <;> simpa [hk, State.form, Json.toText, Json.write] using h
    | float x =>
      refine .bind_of_run rfl (.bind_of_run rfl ?_)
      simp only [State.form, Option.map_some, Json.toText, Json.write, writeFloat_plainFloat]
      exact .pure
    | str x => exact .bind_of_run rfl (.bind_of_run rfl .pure)
    | tuple items => exact .bind_of_run rfl (.bind_of_run rfl (array_settles items (part path)))
    | object a =>
      obtain ⟨o, xs, ho, -, hdata, hv⟩ | ⟨o, table, ho, hcls, hdata, hv⟩ | hv := s.form_object a
      · have hot := ht.object ho (by simp [hdata])
        refine .bind_of_run (unboxed_run hot (by simp [hdata])) ?_
        refine .bind_of_run (data?_run hot) ?_
        rw [hdata, hv]
        refine within_settles hB (array_settles xs.toList fun w hw => part (a :: path) w ?_)
        rwa [State.HasPart, hv]
      · have hot := ht.object ho (by simp [hdata])
        refine .bind_of_run (unboxed_run hot (by simp [hdata])) ?_
        refine .bind_of_run (data?_run hot) ?_
        rw [hdata, hv]
        refine within_settles hB (.bind_of_run (entriesOf_run hot hcls) ?_)
        rw [List.mapM_map]
        refine object_settles hB table.toList fun x hx u hu => ?_
        obtain ⟨hkey, hvalue⟩ := State.entry_parts hv hx
        exact ⟨key x.key hkey u hu, part (a :: path) x.value hvalue u hu⟩
      · obtain ⟨hthing, hsettles⟩ := hother (.object a) .refl hv
        obtain ⟨o, ho, hdata⟩ := thing_at hthing ht
        refine .bind_of_run (unboxed_run ho hdata.ne_boxed) ?_
        refine .bind_of_run (data?_run ho) ?_
        rw [hv]
        unfold Object.IsThing at hdata
        cases hd : o.data with
        | list _ | dict _ => simp [hd] at hdata
        | _ => exact hsettles t ht
    | _ => exact .bind_of_run rfl (.bind_of_run rfl ((hother _ .refl rfl).2 t ht))

end Exemplar.Serial
