import Exemplar.Proofs.Parser.Reads
import Mathlib.Data.List.Forall2

/-
  Brackets and calls. An item is an expression that can stand between commas (`Item`); lists,
  tuples, dictionaries and calls of items are read as the trees of their items, whatever the items
  are.
-/

namespace Exemplar.Syntax.Parser

variable {ts rest : List Token} {t : Token}

/-! ## Items between separators -/

/-- The signs that stand behind an item of a bracket. -/
def separators : List String := [",", ")", "]", "\x7d", ":"]

theorem ends_of_separator {x : Lexeme} {s : String} (hx : x = .op s) (hs : s ∈ separators)
    (k : Strength) : Ends k x := by
  intro j _
  unfold separators at hs
  simp only [List.mem_cons, List.not_mem_nil, or_false] at hs
  rcases hs with rfl | rfl | rfl | rfl | rfl <;> subst hx <;> cases j <;> rfl

/-- Whether lexemes begin with a sign that gives a value to the name in front of it. -/
def givesValue (ls : List Lexeme) : Bool := ls.head?.any [.op ":=", .op "="].contains

/-- Lexemes that no item begins with. -/
def barred : List Lexeme :=
  [.op "]", .op ")", .op "\x7d", .op "*", .op "**", .word "yield", .op ":=", .op "="]

/-- Whether lexemes can stand for an item: they close no bracket, spread nothing and name
nothing. -/
def starts : List Lexeme → Bool
  | [] => false
  | x :: ls => !barred.contains x && !givesValue ls

/-- The lexemes are an item of a bracket that is read as a tree. -/
structure Item (ls : List Lexeme) (u : Nat → Tree) : Prop where
  reads : Reads .test ls u
  starts : starts ls = true

namespace Item

variable {ls : List Lexeme} {u : Nat → Tree} (h : Item ls u) {l n : Nat} {s : String}
include h

theorem exists_cons : ∃ x ms, ls = x :: ms := by
  cases ls with
  | nil => cases h.starts
  | cons x ms => exact ⟨x, ms, rfl⟩

theorem front_ne (hts : Spells l ts ls) {x : Lexeme} (hx : x ∈ barred) :
    front (ts ++ rest) ≠ x := by
  obtain ⟨y, ms, rfl⟩ := h.exists_cons
  obtain ⟨t, us, rfl, hy, -, -⟩ := hts.of_cons
  have hs := (Bool.and_eq_true_iff.mp h.starts).1
  intro hf
  have : y = x := hy.symm.trans hf
  rw [this, List.contains_iff_mem.mpr hx] at hs
  cases hs

theorem not_givesValue (ms : List Lexeme) : givesValue (ls ++ ms) = false := by
  obtain ⟨x, ms, rfl⟩ := h.exists_cons
  have hx := (Bool.and_eq_true_iff.mp h.starts).1
  refine Bool.eq_false_iff.mpr fun hc => ?_
  have hmem : x ∈ barred :=
    (by decide : ∀ y ∈ [Lexeme.op ":=", .op "="], y ∈ barred) x (List.contains_iff_mem.mp hc)
  rw [List.contains_iff_mem.mpr hmem] at hx
  cases hx

theorem second_ne (hts : Spells l ts ls) (hend : front rest = .op s) (hs : s ∈ separators)
    {x : String} (hx : x ∈ [":=", "="]) : second (ts ++ rest) ≠ .op x := by
  obtain ⟨y, ms, rfl⟩ := h.exists_cons
  obtain ⟨t, us, rfl, hy, -, hus⟩ := hts.of_cons
  have hn := (Bool.and_eq_true_iff.mp h.starts).2
  cases ms with
  | nil =>
    obtain rfl := List.length_eq_zero_iff.mp hus.length
    have : second ([t] ++ rest) = front rest := by cases rest <;> rfl
    rw [this, hend]
    rintro ⟨⟩
    exact (by decide : ∀ s ∈ separators, s ∉ [":=", "="]) s hs hx
  | cons z ms =>
    obtain ⟨w, vs, rfl, hz, -, -⟩ := hus.of_cons
    intro hw
    have hz : z = .op x := hz.symm.trans hw
    have hc : [Lexeme.op ":=", .op "="].contains z = true :=
      List.contains_iff_mem.mpr (hz ▸ List.mem_map_of_mem (f := Lexeme.op) hx)
    have hn : (!([Lexeme.op ":=", .op "="].contains z)) = true := hn
    rw [hc] at hn
    cases hn

theorem named : Reads .named ls u := by
  obtain ⟨y, ms, rfl⟩ := h.exists_cons
  refine h.reads.named_of_test (List.cons_ne_nil _ _) ?_
  cases ms with
  | nil => rfl
  | cons z ms =>
    have hn := (Bool.and_eq_true_iff.mp h.starts).2
    refine beq_false_of_ne fun hz => ?_
    rw [hz] at hn
    cases hn

theorem test_runs (hts : Spells l ts ls) (hend : front rest = .op s) (hs : s ∈ separators)
    (hn : 20 * ls.length ≤ n) : Runs (expr n .test) (ts ++ rest) (u l) rest :=
  h.reads l n ts rest hts (ends_of_separator hend hs .test) (by omega)

theorem starOr_runs (hts : Spells l ts ls) (hend : front rest = .op s) (hs : s ∈ separators)
    (hn : 20 * ls.length ≤ n) : Runs (starOr (expr n) .named) (ts ++ rest) (u l) rest :=
  (atSign_no (h.front_ne hts (by decide))).bind
    (h.named l n ts rest hts (ends_of_separator hend hs .named) (by omega))

end Item

theorem atClause_no {s : String} (h : front ts = .op s) : Runs atClause ts false ts := by
  have hw : front ts ≠ .word "for" := by rw [h]; exact nofun
  refine (atWord_no hw).bind ((peek_runs ts).bind ((peekSecond_runs ts).bind ?_))
  rw [h]
  exact .pure


/-! ## Lists of items -/

/-- Each of several stretches with a comma before it. -/
def commas (items : List (List Lexeme)) : List Lexeme := items.flatMap (.op "," :: ·)

/-- Several stretches with commas between them. -/
def separatedBy : List (List Lexeme) → List Lexeme
  | [] => []
  | x :: xs => x ++ commas xs

theorem length_commas_cons (x : List Lexeme) (items : List (List Lexeme)) :
    (commas (x :: items)).length = (separatedBy (x :: items)).length + 1 :=
  rfl

theorem front_commas_of {seps : List String} (hcomma : "," ∈ seps) {l : Nat}
    {items : List (List Lexeme)} (hts : Spells l ts (commas items)) {s : String}
    (hend : front rest = .op s) (hs : s ∈ seps) : ∃ s ∈ seps, front (ts ++ rest) = .op s := by
  cases items with
  | nil =>
    obtain rfl := List.length_eq_zero_iff.mp hts.length
    exact ⟨s, hs, hend⟩
  | cons x xs =>
    obtain ⟨t, us, rfl, hx, -, -⟩ := hts.of_cons
    exact ⟨",", hcomma, hx⟩

theorem front_commas {l : Nat} {items : List (List Lexeme)} (hts : Spells l ts (commas items))
    {s : String} (hend : front rest = .op s) (hs : s ∈ separators) :
    ∃ s ∈ separators, front (ts ++ rest) = .op s :=
  front_commas_of (by decide) hts hend hs

/-- What reads a stretch of a kind, with steps enough for it, reads one after another with a comma
before each; it need only read in front of some separators. -/
theorem stretches_follow {seps : List String} (hcomma : "," ∈ seps) {α : Type} {p : Parser α}
    {l n : Nat} {R : List Lexeme → (Nat → α) → Prop}
    (hp : ∀ {ls u ts rest s}, R ls u → Spells l ts ls → front rest = .op s → s ∈ seps →
      20 * ls.length ≤ n → Runs p (ts ++ rest) (u l) rest)
    {s : String} (hend : front rest = .op s) (hs : s ∈ seps) (hc : s ≠ ",")
    {items : List (List Lexeme)} {us : List (Nat → α)} (h : List.Forall₂ R items us) :
    ∀ ts, Spells l ts (commas items) → 20 * (commas items).length ≤ n →
      Following (sign ",") p (ts ++ rest) (us.map (· l)) rest := by
  induction h with
  | nil =>
    intro ts hts _
    obtain rfl := List.length_eq_zero_iff.mp hts.length
    refine .none (sign_fails ?_)
    rw [List.nil_append, hend]
    exact fun hcomma => hc (Lexeme.op.inj hcomma)
  | @cons ls u items us hu _ ih =>
    intro ts hts hn
    obtain ⟨t, ts, rfl, hx, -, hts⟩ := hts.of_cons
    obtain ⟨vs, ws, rfl, hvs, hws⟩ := hts.of_append
    obtain ⟨s', hs', hf⟩ := front_commas_of hcomma hws hend hs
    simp only [commas, List.flatMap_cons, List.length_append, List.length_cons] at hn
    rw [List.cons_append, List.append_assoc]
    refine .some (sign_runs hx) (hp hu hvs hf hs' (by omega)) ?_ (ih ws hws ?_)
    · simp only [List.length_cons, List.length_append]
      omega
    · unfold commas
      omega

/-- So it reads all of them as one list. -/
theorem stretches_run {seps : List String} (hcomma : "," ∈ seps) {α : Type} {p : Parser α}
    {l n : Nat} {R : List Lexeme → (Nat → α) → Prop}
    (hp : ∀ {ls u ts rest s}, R ls u → Spells l ts ls → front rest = .op s → s ∈ seps →
      20 * ls.length ≤ n → Runs p (ts ++ rest) (u l) rest)
    {s : String} (hend : front rest = .op s) (hs : s ∈ seps) (hc : s ≠ ",") {x : List Lexeme}
    {u : Nat → α} {items : List (List Lexeme)} {us : List (Nat → α)}
    (h : List.Forall₂ R (x :: items) (u :: us)) (hts : Spells l ts (separatedBy (x :: items)))
    (hn : 20 * (separatedBy (x :: items)).length ≤ n) :
    Runs (commaList p) (ts ++ rest) ((u :: us).map (· l), false) rest := by
  obtain ⟨hx, h⟩ := List.forall₂_cons.mp h
  obtain ⟨vs, ws, rfl, hvs, hws⟩ := Spells.of_append hts
  simp only [separatedBy, List.length_append] at hn
  obtain ⟨s', hs', hf⟩ := front_commas_of hcomma hws hend hs
  have first : Runs p (vs ++ (ws ++ rest)) (u l) (ws ++ rest) := hp hx hvs hf hs' (by omega)
  rw [List.append_assoc]
  refine commaList_runs first
    (stretches_follow hcomma hp hend hs hc h ws hws (by omega)) ?_
  rw [hend]
  exact fun hcomma => hc (Lexeme.op.inj hcomma)

theorem items_run {l n : Nat} {s : String} (hend : front rest = .op s) (hs : s ∈ separators)
    (hc : s ≠ ",") {x : List Lexeme} {u : Nat → Tree} {items : List (List Lexeme)}
    {us : List (Nat → Tree)} (h : List.Forall₂ Item (x :: items) (u :: us))
    (hts : Spells l ts (separatedBy (x :: items)))
    (hn : 20 * (separatedBy (x :: items)).length ≤ n) :
    Runs (commaList (starOr (expr n) .named)) (ts ++ rest) ((u :: us).map (· l), false) rest :=
  stretches_run (by decide) (fun h => h.starOr_runs) hend hs hc h hts hn

theorem front_ne_of_first {l : Nat} {x : List Lexeme} {items : List (List Lexeme)} {y : Lexeme}
    (hts : Spells l ts (separatedBy (x :: items)))
    (h : ∀ vs rest, Spells l vs x → front (vs ++ rest) ≠ y) : front (ts ++ rest) ≠ y := by
  obtain ⟨vs, ws, rfl, hvs, -⟩ := Spells.of_append hts
  rw [List.append_assoc]
  exact h vs _ hvs

/-! ## Brackets -/

section Brackets

variable {l n : Nat} {items : List (List Lexeme)} {us : List (Nat → Tree)}

/-- The tokens of a bracket: its sign, what is inside and the closing sign. -/
theorem spells_bracket {x y : Lexeme} {ls : List Lexeme} (h : Spells l ts (x :: ls ++ [y])) :
    ∃ t us c, ts = t :: us ++ [c] ∧ t.lexeme = x ∧ t.start.line = l ∧ Spells l us ls ∧
      c.lexeme = y := by
  obtain ⟨t, vs, rfl, hx, hl, hvs⟩ := h.of_cons
  obtain ⟨us, ws, rfl, hus, hws⟩ := hvs.of_append
  obtain ⟨c, zs, rfl, hc, -, hzs⟩ := hws.of_cons
  obtain rfl := List.length_eq_zero_iff.mp hzs.length
  exact ⟨t, us, c, rfl, hx, hl, hus, hc⟩

theorem bracket_runs {c : Token} (hc : c.lexeme = .op "]") (h : List.Forall₂ Item items us)
    (hts : Spells l ts (separatedBy items)) (hn : 20 * (separatedBy items).length ≤ n) :
    Runs (bracket (expr n) l) (ts ++ c :: rest) (.mk l (.list (us.map (· l)))) rest := by
  have hend : front (c :: rest) = .op "]" := hc
  cases h with
  | nil =>
    obtain rfl := List.length_eq_zero_iff.mp hts.length
    exact (skipSign_yes hc).bind .pure
  | @cons x u items us hx h =>
    obtain ⟨vs, ws, rfl, hvs, hws⟩ := Spells.of_append hts
    simp only [separatedBy, List.length_append] at hn
    obtain ⟨s, hs, hf⟩ := front_commas hws hend (by decide)
    rw [List.append_assoc]
    refine (skipSign_no (hx.front_ne hvs (by decide))).bind
      ((atSign_no (hx.front_ne hvs (by decide))).bind
        ((hx.starOr_runs hvs hf hs (by omega)).bind ((atClause_no hf).bind ?_)))
    cases h with
    | nil =>
      obtain rfl := List.length_eq_zero_iff.mp hws.length
      exact (skipSign_yes hc).bind .pure
    | @cons y v items us hy h =>
      obtain ⟨t, zs, rfl, ht, -, hzs⟩ := hws.of_cons
      rw [length_commas_cons] at hn
      have hcomma : front (t :: zs ++ c :: rest) = .op "," := ht
      have hne : front (zs ++ c :: rest) ≠ .op "]" :=
        front_ne_of_first hzs fun _ _ hys => hy.front_ne hys (by decide)
      have all := items_run (n := n) hend (by decide) (by decide) (.cons hy h) hzs (by omega)
      exact (skipSign_no (by rw [hcomma]; decide)).bind ((sign_runs ht).bind
        ((skipSign_no hne).bind (all.bind ((sign_runs hc).bind .pure))))

theorem reads_list (h : List.Forall₂ Item items us) :
    Reads .atom (.op "[" :: separatedBy items ++ [.op "]"])
      (fun l => .mk l (.list (us.map (· l)))) := by
  refine .of_atom nofun fun l n ts rest hts _ hn => ?_
  obtain ⟨t, vs, c, rfl, ht, rfl, hvs, hc⟩ := spells_bracket hts
  simp only [List.length_cons, List.length_append] at hn
  rw [List.cons_append, List.cons_append, List.append_assoc]
  exact atom_bracket ht (bracket_runs hc h hvs (by omega))

/-- Stretches between the parentheses of a tuple: one keeps a comma behind it. -/
def tupled : List (List Lexeme) → List Lexeme
  | [x] => x ++ [.op ","]
  | xs => separatedBy xs

/-- A parenthesis up to its first comma. -/
theorem parenthesis_opens {x : List Lexeme} {u : Nat → Tree} {vs ws : List Token} {t : Token}
    {a : Tree} (hx : Item x u) (hvs : Spells l vs x) (ht : t.lexeme = .op ",")
    (hn : 20 * x.length ≤ n) (hr : Runs (do
      if ← skipSign ")" then return .mk l (.tuple [u l])
      let (rest, _) ← commaList (starOr (expr n) .named)
      sign ")"
      return .mk l (.tuple (u l :: rest))) ws a rest) :
    Runs (parenthesis (expr n) l) (vs ++ t :: ws) a rest := by
  have hf : front (t :: ws) = .op "," := ht
  refine (skipSign_no (hx.front_ne hvs (by decide))).bind
    ((atWord_no (hx.front_ne hvs (by decide))).bind
      ((atSign_no (hx.front_ne hvs (by decide))).bind ?_))
  refine (hx.starOr_runs hvs hf (by decide) hn).bind ((atClause_no hf).bind ?_)
  exact (skipSign_no (by rw [hf]; decide)).bind ((sign_runs ht).bind hr)

theorem parenthesis_runs {c : Token} (hc : c.lexeme = .op ")") (h : List.Forall₂ Item items us)
    (hts : Spells l ts (tupled items)) (hn : 20 * (tupled items).length ≤ n) :
    Runs (parenthesis (expr n) l) (ts ++ c :: rest) (.mk l (.tuple (us.map (· l)))) rest := by
  have hend : front (c :: rest) = .op ")" := hc
  cases h with
  | nil =>
    obtain rfl := List.length_eq_zero_iff.mp hts.length
    exact (skipSign_yes hc).bind .pure
  | @cons x u items us hx h =>
    cases h with
    | nil =>
      obtain ⟨vs, ws, rfl, hvs, hws⟩ := Spells.of_append hts
      obtain ⟨t, zs, rfl, ht, -, hzs⟩ := hws.of_cons
      obtain rfl := List.length_eq_zero_iff.mp hzs.length
      simp only [tupled, List.length_append] at hn
      rw [List.append_assoc]
      exact parenthesis_opens hx hvs ht (by omega) ((skipSign_yes hc).bind .pure)
    | @cons y v items us hy h =>
      obtain ⟨vs, zs, rfl, hvs, hzs⟩ :=
        Spells.of_append (hts : Spells l ts (x ++ commas (y :: items)))
      obtain ⟨t, zs, rfl, ht, -, hzs⟩ := hzs.of_cons
      have hn : 20 * (x ++ commas (y :: items)).length ≤ n := hn
      rw [List.length_append, length_commas_cons] at hn
      have hne : front (zs ++ c :: rest) ≠ .op ")" :=
        front_ne_of_first hzs fun _ _ hys => hy.front_ne hys (by decide)
      have all := items_run (n := n) hend (by decide) (by decide) (.cons hy h) hzs (by omega)
      rw [List.append_assoc, List.cons_append]
      exact parenthesis_opens hx hvs ht (by omega)
        ((skipSign_no hne).bind (all.bind ((sign_runs hc).bind .pure)))

theorem reads_tuple (h : List.Forall₂ Item items us) :
    Reads .atom (.op "(" :: tupled items ++ [.op ")"])
      (fun l => .mk l (.tuple (us.map (· l)))) := by
  refine .of_atom nofun fun l n ts rest hts _ hn => ?_
  obtain ⟨t, vs, c, rfl, ht, rfl, hvs, hc⟩ := spells_bracket hts
  simp only [List.length_cons, List.length_append] at hn
  rw [List.cons_append, List.cons_append, List.append_assoc]
  exact atom_parenthesis ht (parenthesis_runs hc h hvs (by omega))

/-! ## Braces -/

/-- The lexemes are a key and a value that are read as trees. -/
def EntryReads (ls : List Lexeme) (u : Nat → Option Tree × Tree) : Prop :=
  ∃ ks vs k v, ls = ks ++ .op ":" :: vs ∧ Item ks k ∧ Item vs v ∧ u = fun l => (some (k l), v l)

theorem entry_runs {ls : List Lexeme} {u : Nat → Option Tree × Tree} {s : String}
    (h : EntryReads ls u) (hts : Spells l ts ls) (hend : front rest = .op s) (hs : s ∈ separators)
    (hn : 20 * ls.length ≤ n) : Runs (entry (expr n)) (ts ++ rest) (u l) rest := by
  obtain ⟨ks, vs, k, v, rfl, hk, hv, rfl⟩ := h
  obtain ⟨as, bs, rfl, has, hbs⟩ := hts.of_append
  obtain ⟨t, bs, rfl, ht, -, hbs⟩ := hbs.of_cons
  simp only [List.length_append, List.length_cons] at hn
  have colon : front (t :: (bs ++ rest)) = .op ":" := ht
  rw [List.append_assoc]
  refine (skipSign_no (hk.front_ne has (by decide))).bind
    ((hk.test_runs has colon (by decide) (by omega)).bind ((sign_runs ht).bind ?_))
  exact (hv.test_runs hbs hend hs (by omega)).bind .pure

theorem entry_front_ne {ls : List Lexeme} {u : Nat → Option Tree × Tree} (h : EntryReads ls u)
    (hts : Spells l ts ls) : front (ts ++ rest) ≠ .op "\x7d" := by
  obtain ⟨ks, vs, k, v, rfl, hk, -, rfl⟩ := h
  obtain ⟨as, bs, rfl, has, -⟩ := hts.of_append
  rw [List.append_assoc]
  exact hk.front_ne has (by decide)

theorem atNamed_item {ls : List Lexeme} {u : Nat → Tree} {s : String} (h : Item ls u)
    (hts : Spells l ts ls) (hend : front rest = .op s) (hs : s ∈ separators) :
    Runs atNamed (ts ++ rest) false (ts ++ rest) :=
  atNamed_no (h.second_ne hts hend hs (by simp))

theorem brace_runs {c : Token} {es : List (Nat → Option Tree × Tree)} (hc : c.lexeme = .op "\x7d")
    (h : List.Forall₂ EntryReads items es)
    (hts : Spells l ts (separatedBy items)) (hn : 20 * (separatedBy items).length ≤ n) :
    Runs (brace (expr n) l) (ts ++ c :: rest) (.mk l (.dict (es.map (· l)))) rest := by
  have hend : front (c :: rest) = .op "\x7d" := hc
  cases h with
  | nil =>
    obtain rfl := List.length_eq_zero_iff.mp hts.length
    exact (skipSign_yes hc).bind .pure
  | @cons x u items es hx h =>
    obtain ⟨xs, ws, rfl, hxs, hws⟩ := Spells.of_append hts
    simp only [separatedBy, List.length_append] at hn
    obtain ⟨s, hs, hf⟩ := front_commas hws hend (by decide)
    obtain ⟨ks, vs, k, v, rfl, hk, hv, rfl⟩ := hx
    obtain ⟨as, bs, rfl, has, hbs⟩ := hxs.of_append
    obtain ⟨t, bs, rfl, ht, -, hbs⟩ := hbs.of_cons
    simp only [List.length_append, List.length_cons] at hn
    have colon : front (t :: (bs ++ (ws ++ c :: rest))) = .op ":" := ht
    rw [List.append_assoc, List.append_assoc]
    refine (skipSign_no (hk.front_ne has (by decide))).bind
      ((atSign_no (hk.front_ne has (by decide))).bind
        ((atSign_no (hk.front_ne has (by decide))).bind
          ((atNamed_item hk has colon (by decide)).bind
            ((hk.test_runs has colon (by decide) (by omega)).bind
              ((skipSign_yes ht).bind ((hv.test_runs hbs hf hs (by omega)).bind ?_))))))
    refine (atClause_no hf).bind ?_
    cases h with
    | nil =>
      obtain rfl := List.length_eq_zero_iff.mp hws.length
      exact (skipSign_yes hc).bind .pure
    | @cons y v items es hy h =>
      obtain ⟨t, zs, rfl, ht, -, hzs⟩ := hws.of_cons
      rw [length_commas_cons] at hn
      have hcomma : front (t :: zs ++ c :: rest) = .op "," := ht
      have hne : front (zs ++ c :: rest) ≠ .op "\x7d" :=
        front_ne_of_first hzs fun _ _ hys => entry_front_ne hy hys
      have all := stretches_run (n := n) (by decide) entry_runs hend (by decide) (by decide)
        (.cons hy h) hzs (by omega)
      exact (skipSign_no (by rw [hcomma]; decide)).bind ((sign_runs ht).bind
        ((skipSign_no hne).bind (all.bind ((sign_runs hc).bind .pure))))

theorem reads_dict {es : List (Nat → Option Tree × Tree)} (h : List.Forall₂ EntryReads items es) :
    Reads .atom (.op "\x7b" :: separatedBy items ++ [.op "\x7d"])
      (fun l => .mk l (.dict (es.map (· l)))) := by
  refine .of_atom nofun fun l n ts rest hts _ hn => ?_
  obtain ⟨t, vs, c, rfl, ht, rfl, hvs, hc⟩ := spells_bracket hts
  simp only [List.length_cons, List.length_append] at hn
  rw [List.cons_append, List.cons_append, List.append_assoc]
  exact atom_brace ht (brace_runs hc h hvs (by omega))

/-! ## Calls -/

/-- The lexemes are one more argument after those of a state. -/
inductive Argument (l : Nat) (s : ArgumentState) : List Lexeme → ArgumentState → Prop
  | place {ls : List Lexeme} {u : Nat → Tree} (h : Item ls u) (hs : s.phase = .positional) :
      Argument l s ls { s with args := u l :: s.args }
  | named {ls : List Lexeme} {u : Nat → Tree} {name : String} (hn : name ∉ keywords)
      (h : Item ls u) : Argument l s (.word name :: .op "=" :: ls)
        { s with keywords := .mk (some name) (u l) l :: s.keywords
                 phase := if s.phase == .positional then .named else s.phase }

/-- The stretches are more arguments after those of a state. -/
inductive Arguments (l : Nat) : ArgumentState → List (List Lexeme) → ArgumentState → Prop
  | done (s : ArgumentState) : Arguments l s [] s
  | more {s s' s'' : ArgumentState} {ls : List Lexeme} {items : List (List Lexeme)}
      (h : Argument l s ls s') (hr : Arguments l s' items s'') : Arguments l s (ls :: items) s''

theorem argumentStep_runs {s s' : ArgumentState} {ls : List Lexeme} {o : String}
    (h : Argument l s ls s') (hts : Spells l ts ls) (hend : front rest = .op o)
    (ho : o ∈ separators) (hn : 20 * ls.length ≤ n) :
    Runs (argumentStep (expr n) s) (ts ++ rest) s' rest := by
  obtain ⟨k, hk⟩ := line_runs_some (ts ++ rest)
  cases h with
  | place h hs =>
    have hsec := beq_false_of_ne (h.second_ne hts hend ho (x := "=") (by simp))
    refine hk.bind ((atSign_no (h.front_ne hts (by decide))).bind
      ((skipSign_no (h.front_ne hts (by decide))).bind ((peekSecond_runs _).bind ?_)))
    rw [hsec]
    have positional : Runs (require (s.phase == .positional)) (ts ++ rest) () (ts ++ rest) := by
      rw [hs]
      exact require_true
    exact positional.bind
      ((h.named l n ts rest hts (ends_of_separator hend ho .named) (by omega)).bind .pure)
  | @named ls u name hname h =>
    obtain ⟨t, ts, rfl, ht, hl, hts⟩ := hts.of_cons
    obtain ⟨e, ts, rfl, he, -, hts⟩ := hts.of_cons
    simp only [List.length_cons] at hn
    have hstar : ∀ s, front (t :: e :: ts ++ rest) ≠ .op s := fun s h =>
      absurd (ht.symm.trans h) nofun
    have hsec : (second (t :: e :: ts ++ rest) == .op "=") = true := by
      show (e.lexeme == .op "=") = true
      rw [he]
      rfl
    refine (line_runs t (e :: ts ++ rest)).bind ((atSign_no (hstar _)).bind
      ((skipSign_no (hstar _)).bind ((peekSecond_runs _).bind ?_)))
    rw [hsec, hl]
    exact (name_runs ht hname).bind ((sign_runs he).bind
      ((h.test_runs hts hend ho (by omega)).bind .pure))

theorem arguments_rounds {c : Token} (hc : c.lexeme = .op ")") {s s' : ArgumentState}
    (h : Arguments l s items s') (hn : 20 * (commas items).length ≤ n) :
    ∀ ts, Spells l ts (commas items) →
      Rounds (fun s => maybe do sign ","; argumentStep (expr n) s) (ts ++ c :: rest) s s'
        (c :: rest) := by
  have hend : front (c :: rest) = .op ")" := hc
  induction h with
  | done s =>
    intro ts hts
    obtain rfl := List.length_eq_zero_iff.mp hts.length
    refine .done (maybe_none (Fails.bind (sign_fails ?_)))
    rw [List.nil_append, hend]
    decide
  | @more s s' s'' ls items h _ ih =>
    intro ts hts
    obtain ⟨t, us, rfl, ht, -, hus⟩ := hts.of_cons
    obtain ⟨vs, ws, rfl, hvs, hws⟩ := hus.of_append
    simp only [commas, List.flatMap_cons, List.length_append, List.length_cons] at hn ih
    obtain ⟨o, ho, hf⟩ := front_commas hws hend (by decide)
    rw [List.cons_append, List.append_assoc]
    refine .more (maybe_some ((sign_runs ht).bind (argumentStep_runs h hvs hf ho (by omega)))) ?_
      (ih (by omega) ws hws)
    simp only [List.length_cons, List.length_append]
    omega

theorem callArguments_runs {c : Token} (hc : c.lexeme = .op ")") {s : ArgumentState}
    (h : Arguments l {} items s) (hts : Spells l ts (separatedBy items))
    (hn : 20 * (separatedBy items).length ≤ n) :
    Runs (callArguments (expr n) l) (ts ++ c :: rest) (s.args.reverse, s.keywords.reverse)
      rest := by
  have hend : front (c :: rest) = .op ")" := hc
  cases h with
  | done =>
    obtain rfl := List.length_eq_zero_iff.mp hts.length
    exact (skipSign_yes hc).bind .pure
  | @more _ s' _ ls items h hr =>
    obtain ⟨xs, ws, rfl, hxs, hws⟩ := Spells.of_append hts
    simp only [separatedBy, List.length_append] at hn
    obtain ⟨o, ho, hf⟩ := front_commas hws hend (by decide)
    have hne : front (xs ++ (ws ++ c :: rest)) ≠ .op ")" := by
      cases h with
      | place h _ => exact h.front_ne hxs (by decide)
      | named _ _ =>
        obtain ⟨t, us, rfl, ht, -, -⟩ := hxs.of_cons
        exact fun h => absurd (ht.symm.trans h) nofun
    have rounds : Rounds _ (ws ++ c :: rest) s' s (c :: rest) :=
      arguments_rounds (n := n) hc hr (by omega) ws hws
    have all := rounds.loop
    rw [List.append_assoc]
    refine (skipSign_no hne).bind ((argumentStep_runs h hxs hf ho (by omega)).bind
      ((atClause_no hf).bind ?_))
    refine all.bind ((discard_runs (skipSign_no ?_)).bind ((sign_runs hc).bind .pure))
    rw [hend]
    decide

/-- The lexemes are a name and a value for it that is read as a tree. -/
def KeywordReads (ls : List Lexeme) (k : String × (Nat → Tree)) : Prop :=
  k.1 ∉ keywords ∧ ∃ ms, ls = .word k.1 :: .op "=" :: ms ∧ Item ms k.2

/-- The argument by name that a name and a tree make. -/
def keywordOf (l : Nat) (k : String × (Nat → Tree)) : TreeKeyword := .mk (some k.1) (k.2 l) l

theorem arguments_named {ks : List (String × (Nat → Tree))}
    (h : List.Forall₂ KeywordReads items ks) :
    ∀ s : ArgumentState, ∃ phase, Arguments l s items
      { s with keywords := (ks.map (keywordOf l)).reverse ++ s.keywords, phase := phase } := by
  induction h with
  | nil => exact fun s => ⟨s.phase, .done s⟩
  | @cons ls k items ks hk _ ih =>
    obtain ⟨name, u⟩ := k
    obtain ⟨hn, ms, rfl, hi⟩ := hk
    intro s
    obtain ⟨phase, h⟩ := ih { s with
      keywords := .mk (some name) (u l) l :: s.keywords
      phase := if s.phase == .positional then .named else s.phase }
    refine ⟨phase, .more (.named hn hi) ?_⟩
    rw [List.map_cons, List.reverse_cons, List.append_assoc]
    exact h

theorem arguments_placed {named : List (List Lexeme)} {ks : List (String × (Nat → Tree))}
    (h : List.Forall₂ Item items us) (hk : List.Forall₂ KeywordReads named ks) :
    ∀ s : ArgumentState, s.phase = .positional → ∃ phase, Arguments l s (items ++ named)
      { args := (us.map (· l)).reverse ++ s.args
        keywords := (ks.map (keywordOf l)).reverse ++ s.keywords, phase := phase } := by
  induction h with
  | nil => exact fun s _ => arguments_named hk s
  | @cons ls u items us hi _ ih =>
    intro s hs
    obtain ⟨phase, h⟩ := ih { s with args := u l :: s.args } hs
    refine ⟨phase, .more (.place hi hs) ?_⟩
    rw [List.map_cons, List.reverse_cons, List.append_assoc]
    exact h

/-- A call of a name with arguments by place and then by name. -/
theorem reads_call {name : String} (hn : name ∉ keywords) {named : List (List Lexeme)}
    {ks : List (String × (Nat → Tree))} (h : List.Forall₂ Item items us)
    (hk : List.Forall₂ KeywordReads named ks) :
    Reads .atom (.word name :: .op "(" :: separatedBy (items ++ named) ++ [.op ")"])
      (fun l => .mk l (.call (.mk l (.name name)) (us.map (· l)) (ks.map (keywordOf l)))) := by
  intro l n ts rest hts hend hm
  obtain ⟨t, ts, rfl, ht, rfl, hts⟩ := hts.of_cons
  obtain ⟨o, vs, c, rfl, ho, hl, hvs, hc⟩ := spells_bracket hts
  simp only [List.length_cons, List.length_append] at hm
  obtain ⟨m, rfl⟩ : ∃ m, n = m + 1 := ⟨n - 1, by change _ ≤ n + 17 at hm; omega⟩
  obtain ⟨phase, all⟩ := arguments_placed (l := t.start.line) h hk {} rfl
  have args : Runs _ (vs ++ c :: rest) _ rest :=
    callArguments_runs (n := m) hc all hvs (by change _ ≤ m + 1 + 17 at hm; omega)
  simp only [List.append_nil, List.reverse_reverse] at args
  have peeked : Runs peek (o :: (vs ++ c :: rest)) (.op "(") (o :: (vs ++ c :: rest)) :=
    ho ▸ peek_runs _
  have called : Runs (trailer (expr m) (.mk t.start.line (.name name))) (o :: (vs ++ c :: rest))
      (.mk t.start.line (.call (.mk t.start.line (.name name)) (us.map (· t.start.line))
        (ks.map (keywordOf t.start.line)))) rest := by
    refine (line_runs o (vs ++ c :: rest)).bind (peeked.bind ((sign_runs ho).bind ?_))
    rw [hl]
    exact args.bind .pure
  rw [List.cons_append, List.cons_append, List.cons_append, List.append_assoc]
  refine chain_runs_once (atom_word ht (wordAtom_name ht hn)) called ?_
    (trailer_fails (hend .atom (Nat.le_refl _)))
  simp only [List.length_cons, List.length_append]
  omega

end Brackets

end Exemplar.Syntax.Parser
