import Exemplar.Proofs.Hint
import Exemplar.Proofs.Json.Documents
import Exemplar.Proofs.Literal.Printed

/-
  Texts that tell things apart. The text of a thing tells it from others if it is the text of none
  of them, whatever stands behind it, and so shows where it ends itself (`Tells`). Texts with a
  separator between them tell lists apart if each of them tells its item (`Tells.joined`).

  The texts of scalars. Each is scanned as one lexeme in front of what ends an item, behind a minus
  sign for a number below zero: a word, a number, which is an integer or a double, or a text, whose
  quotes keep commas and brackets inside. The sign and the lexeme belong to one scalar only, so
  that 1, 1.0, True and '1' are all told apart (`Scalar.tells_quoted`).
-/

namespace Exemplar

section Tells

variable {α : Type} {ok : α → Prop} {behind closing : List Char → Prop} {text : α → List Char}
  {sep : List Char}

/-- In front of what may stand behind it the text of `a` is that of no other thing. -/
def Tells (ok : α → Prop) (behind : List Char → Prop) (text : α → List Char) (a : α) : Prop :=
  ∀ b, ok b → ∀ x y, behind x → behind y → text a ++ x = text b ++ y → a = b ∧ x = y

theorem intercalate_cons_eq (sep cs : List Char) (texts : List (List Char)) :
    sep.intercalate (cs :: texts) = cs ++ texts.flatMap (sep ++ ·) := by
  induction texts generalizing cs with
  | nil => rw [List.intercalate_singleton, List.flatMap_nil, List.append_nil]
  | cons ds texts ih =>
    rw [List.intercalate_cons_cons, ih, List.flatMap_cons, List.append_assoc, List.append_assoc]

/-- What stands behind an item of a list: a separator and more items, or what closes the list. -/
theorem behind_rest (hsep : ∀ x, behind (sep ++ x)) (hclosing : ∀ x, closing x → behind x)
    (as : List α) {x : List Char} (hx : closing x) :
    behind (as.flatMap (fun a => sep ++ text a) ++ x) := by
  cases as with
  | nil => exact hclosing x hx
  | cons a as =>
    rw [List.flatMap_cons, List.append_assoc, List.append_assoc]
    exact hsep _

/-- A separator stands in front of each item. -/
theorem Tells.rest (hsep : ∀ x, behind (sep ++ x)) (hclosing : ∀ x, closing x → behind x)
    (hend : ∀ x, ¬closing (sep ++ x)) {as : List α} (has : ∀ a ∈ as, Tells ok behind text a) :
    Tells (fun bs => ∀ b ∈ bs, ok b) closing
      (fun bs => bs.flatMap fun b => sep ++ text b) as := by
  induction as with
  | nil =>
    intro bs _ x y hx _ h
    cases bs with
    | nil => exact ⟨rfl, h⟩
    | cons b bs =>
      have hx' : x = sep ++ (text b ++ (bs.flatMap (fun b => sep ++ text b) ++ y)) := by
        simpa [List.append_assoc] using h
      exact absurd (hx' ▸ hx) (hend _)
  | cons a as ih =>
    obtain ⟨ha, has⟩ := List.forall_mem_cons.mp has
    intro bs hbs x y hx hy h
    cases bs with
    | nil =>
      have hy' : sep ++ (text a ++ (as.flatMap (fun a => sep ++ text a) ++ x)) = y := by
        simpa [List.append_assoc] using h
      exact absurd (hy' ▸ hy) (hend _)
    | cons b bs =>
      obtain ⟨hb, hrest⟩ := List.forall_mem_cons.mp hbs
      simp only [List.flatMap_cons, List.append_assoc] at h
      have items := List.append_cancel_left h
      obtain ⟨rfl, rests⟩ := ha b hb _ _ (behind_rest hsep hclosing as hx)
        (behind_rest hsep hclosing bs hy) items
      obtain ⟨rfl, hxy⟩ := ih has bs hrest x y hx hy rests
      exact ⟨rfl, hxy⟩

/-- The separator may stand behind each item. What closes the list begins with neither a separator
nor an item, so that the end of the list shows. -/
theorem Tells.joined (hsep : ∀ x, behind (sep ++ x)) (hclosing : ∀ x, closing x → behind x)
    (hend : ∀ x, ¬closing (sep ++ x)) (hfront : ∀ a, ok a → ∀ x, ¬closing (text a ++ x))
    {as : List α} (has : ∀ a ∈ as, ok a ∧ Tells ok behind text a) :
    Tells (fun bs => ∀ b ∈ bs, ok b) closing (fun bs => sep.intercalate (bs.map text)) as := by
  intro bs hbs x y hx hy h
  cases as with
  | nil =>
    cases bs with
    | nil => exact ⟨rfl, h⟩
    | cons b bs =>
      dsimp only at h
      rw [List.map_cons, intercalate_cons_eq, List.append_assoc] at h
      have hx' : x = text b ++ _ := h
      exact absurd (hx' ▸ hx) (hfront b (hbs b (.head _)) _)
  | cons a as =>
    obtain ⟨⟨ha, hta⟩, has⟩ := List.forall_mem_cons.mp has
    cases bs with
    | nil =>
      dsimp only at h
      rw [List.map_cons, intercalate_cons_eq, List.append_assoc] at h
      have hy' : text a ++ _ = y := h
      exact absurd (hy' ▸ hy) (hfront a ha _)
    | cons b bs =>
      obtain ⟨hb, hrest⟩ := List.forall_mem_cons.mp hbs
      dsimp only at h
      rw [List.map_cons, List.map_cons, intercalate_cons_eq, intercalate_cons_eq,
        List.append_assoc, List.append_assoc, List.flatMap_map, List.flatMap_map] at h
      obtain ⟨rfl, rests⟩ := hta b hb _ _ (behind_rest hsep hclosing as hx)
        (behind_rest hsep hclosing bs hy) h
      obtain ⟨rfl, hxy⟩ := Tells.rest hsep hclosing hend (fun c hc => (has c hc).2) bs hrest x y hx
        hy rests
      exact ⟨rfl, hxy⟩

end Tells

/-! ## Scalars -/

namespace Scalar

open Syntax

/-- The scalar is not the double that is no number, and it can be written. -/
structure Told (v : Scalar) : Prop where
  proper : v.Proper
  short : v.isLong = false

/-- Whether the scalar is written with a minus sign. -/
def isNegative : Scalar → Bool
  | .int n => decide (n < 0)
  | .float x => x.negative
  | _ => false

/-- What the text of the scalar is scanned as, behind its sign. -/
def lexeme : Scalar → Lexeme
  | .none => .word "None"
  | .bool b => .word (if b then "True" else "False")
  | .int n => .number (Number.int n).size
  | .float x => if x.isInfinite then .word "inf" else .number (Number.float x).size
  | .str s => .text { body := s.toList.flatMap (Text.quoteChar (Text.quoteFor s.toList)) }

/-- The text is scanned as the lexeme in front of what ends an item; it begins with no sign and no
bracket. -/
structure Shows (cs : List Char) (x : Lexeme) : Prop where
  scans : ∀ rest, Behind endsItem rest → Scans cs x rest
  front : ∃ c r, cs = c :: r ∧ c ≠ '-' ∧ c ≠ ']'

theorem shows_word {w : String} (hw : IsWord w.toList) : Shows w.toList (.word w) := by
  refine ⟨fun rest hr => ?_, ?_⟩
  · have scans := scans_word hw (hr.imp fun c hc =>
      (Bool.and_eq_true_iff.mp (endsNumber_of_endsItem hc)).1)
    rwa [String.ofList_toList] at scans
  · obtain ⟨c, r, hcs, hc⟩ := hw.start
    refine ⟨c, r, hcs, ?_, ?_⟩ <;> rintro rfl <;> cases hc

theorem shows_number {n : Number} (h : n.Writable) : Shows n.sizeText (.number n.size) := by
  obtain ⟨scans, whole, rest, htext, hw⟩ := Literal.scans_sizeText h
  refine ⟨fun rest hr => scans rest (hr.imp fun c hc => endsNumber_of_endsItem hc), ?_⟩
  obtain ⟨d, r, rfl, hd⟩ := hw.exists_cons
  refine ⟨d, r ++ rest, htext, ?_, ?_⟩ <;> rintro rfl <;> cases hd

theorem shows_text {q : Char} (hq : q = '\'' ∨ q = '"') (cs : List Char) :
    Shows (q :: cs.flatMap (Text.quoteChar q) ++ [q])
      (.text { body := cs.flatMap (Text.quoteChar q) }) := by
  refine ⟨fun rest hr => scans_text hq cs (hr.imp fun c hc =>
    (Bool.and_eq_true_iff.mp (endsNumber_of_endsItem hc)).1), q, _, rfl, ?_, ?_⟩
  · rcases hq with rfl | rfl <;> decide
  · rcases hq with rfl | rfl <;> decide

/-- A double that is a number is written with its sign and its size, or as infinite. -/
theorem floatText_eq {x : Binary64} (hx : x.isNaN = false) : (Decimal.floatText x).toList =
    (if x.negative then ['-'] else []) ++
      if x.isInfinite then ['i', 'n', 'f'] else (Number.float x).sizeText := by
  cases hi : x.isInfinite with
  | true =>
    unfold Decimal.floatText
    simp [hx, hi]
  | false =>
    have source : Syntax.floatSource x = Decimal.floatText x := by simp [Syntax.floatSource, hx, hi]
    have text := Decimal.floatSource_eq hx
    rw [source] at text
    exact text

/-- The text of a scalar is its sign and a text that is scanned as its lexeme. -/
theorem quoted_shows {v : Scalar} (h : v.Told) : ∃ cs, Shows cs v.lexeme ∧
    v.quoted.toList = (if v.isNegative then ['-'] else []) ++ cs := by
  cases v with
  | none => exact ⟨_, shows_word (w := "None") (by decide), rfl⟩
  | bool b =>
    cases b with
    | false => exact ⟨_, shows_word (w := "False") (by decide), rfl⟩
    | true => exact ⟨_, shows_word (w := "True") (by decide), rfl⟩
  | int n =>
    refine ⟨_, shows_number (n := .int n) h.short, ?_⟩
    have text := Json.intText_eq n
    simp only [isNegative, decide_eq_true_eq]
    exact text
  | float x =>
    have text := floatText_eq (x := x) h.proper
    simp only [lexeme]
    cases hi : x.isInfinite with
    | true =>
      rw [hi, if_pos rfl] at text
      exact ⟨_, shows_word (w := "inf") (by decide), text⟩
    | false =>
      rw [hi, if_neg Bool.false_ne_true] at text
      exact ⟨_, shows_number (n := .float x) h.proper, text⟩
  | str s =>
    refine ⟨_, shows_text (quoteFor_quote s.toList) s.toList, ?_⟩
    exact String.toList_ofList

/-- No text of a scalar begins with a bracket. -/
theorem front {v : Scalar} (h : v.Told) : ∃ c r, v.quoted.toList = c :: r ∧ c ≠ ']' := by
  obtain ⟨cs, hcs, htext⟩ := quoted_shows h
  obtain ⟨c, r, rfl, -, hc⟩ := hcs.front
  cases hn : v.isNegative with
  | true =>
    rw [hn, if_pos rfl] at htext
    exact ⟨'-', c :: r, htext, by decide⟩
  | false =>
    rw [hn, if_neg Bool.false_ne_true] at htext
    exact ⟨c, r, htext, hc⟩

/-! ### The scalar of a lexeme -/

/-- The scalar that a sign and a lexeme belong to. -/
def ofLexeme (negative : Bool) : Lexeme → Scalar
  | .word "True" => .bool true
  | .word "False" => .bool false
  | .word "inf" => .float (if negative then (Binary64.infinity false).neg else .infinity false)
  | .number (.int n) => .int (if negative then -n else n)
  | .number (.float x) => .float (if negative then x.neg else x)
  | .text q => .str (String.ofList ((unescape q.body).toOption.getD []))
  | _ => .none

theorem signed_size (x : Binary64) :
    (if x.negative then (if x.negative then x.neg else x).neg
      else if x.negative then x.neg else x) = x := by
  cases x.negative with
  | false => rfl
  | true => exact Decimal.neg_neg x

/-- The size of an infinite double. -/
theorem size_infinite {x : Binary64} (hx : x.isInfinite = true) :
    (if x.negative then x.neg else x) = .infinity false := by
  have infinite : ∀ y : Binary64, y.isInfinite = true → y.negative = false →
      y = .infinity false := by
    intro y hy hn
    unfold Binary64.isInfinite at hy
    rw [Bool.and_eq_true, beq_iff_eq, beq_iff_eq] at hy
    exact Decimal.eq_of_fields hn (by decide +kernel) (hy.1.trans (by decide +kernel))
      (hy.2.trans (by decide +kernel))
  cases hn : x.negative with
  | false => exact infinite x hx hn
  | true =>
    refine infinite x.neg ((Decimal.isInfinite_neg x).trans hx) ?_
    rw [Decimal.negative_neg, hn, Bool.not_true]

/-- The scalar can be told from its sign and its lexeme. -/
theorem ofLexeme_lexeme (v : Scalar) : ofLexeme v.isNegative v.lexeme = v := by
  cases v with
  | none => rfl
  | bool b => cases b <;> rfl
  | int n =>
    have signed : (if decide (n < 0) then -(n.natAbs : Int) else n.natAbs) = n := by
      simp only [decide_eq_true_eq]
      split <;> omega
    exact congrArg Scalar.int signed
  | float x =>
    have signed := signed_size x
    simp only [lexeme]
    cases hi : x.isInfinite with
    | true =>
      rw [size_infinite hi] at signed
      exact congrArg Scalar.float signed
    | false => exact congrArg Scalar.float signed
  | str s =>
    have body := unescape_quote (quoteFor_quote s.toList) s.toList
    show Scalar.str (String.ofList ((unescape _).toOption.getD [])) = .str s
    rw [body]
    exact congrArg Scalar.str String.ofList_toList

/-- Scalars are told apart in front of what ends an item. -/
theorem tells_quoted {v : Scalar} (hv : v.Told) :
    Tells Told (Behind endsItem) (fun w => w.quoted.toList) v := by
  obtain ⟨cs, hcs, htext⟩ := quoted_shows hv
  intro w hw x y hx hy h
  obtain ⟨ds, hds, htext'⟩ := quoted_shows hw
  dsimp only at h
  rw [htext, htext', List.append_assoc, List.append_assoc] at h
  have same : v.isNegative = w.isNegative ∧ cs ++ x = ds ++ y := by
    obtain ⟨c, r, rfl, hc, -⟩ := hcs.front
    obtain ⟨d, s, rfl, hd, -⟩ := hds.front
    cases hvn : v.isNegative <;> cases hwn : w.isNegative <;> rw [hvn, hwn] at h
    · exact ⟨rfl, h⟩
    · exact absurd (List.cons.inj h).1 hc
    · exact absurd (List.cons.inj h).1.symm hd
    · exact ⟨rfl, (List.cons.inj h).2⟩
  have scan := (hcs.scans x hx).scan default
  rw [same.2, (hds.scans y hy).scan default] at scan
  obtain ⟨hlexeme, htaken⟩ := Prod.mk.inj (Except.ok.inj scan)
  refine ⟨?_, (Prod.mk.inj htaken).2.symm⟩
  rw [← ofLexeme_lexeme v, ← ofLexeme_lexeme w, same.1, hlexeme]

end Scalar

end Exemplar
