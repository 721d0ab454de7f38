import Exemplar.Proofs.Lexer.Sound
import Exemplar.Syntax.Parser.Basic
import Exemplar.Syntax.Parser.Expr

/-
  What parsers yield. `Yields T p Q` says that `p` takes sound tokens from the front only and reads
  nothing but values with a property off them; the combinators of parsers carry such properties from
  the parts to the whole. Sound tokens have room only for texts of which `T` holds.

  Texts that stand side by side. The one text that they make is shorter than the room that they take
  among the tokens (`texts_form`): undoing escapes makes none longer, and each has a quote besides.
-/

namespace Exemplar.Syntax

/-- A word that is no keyword. -/
structure IsName (n : String) : Prop where
  word : IsWord n.toList
  plain : n ∉ keywords

instance (n : String) : Decidable (IsName n) :=
  decidable_of_iff (IsWord n.toList ∧ n ∉ keywords)
    ⟨fun h => ⟨h.1, h.2⟩, fun h => ⟨h.word, h.plain⟩⟩

namespace Parser

variable {α β : Type}

/-- The lexemes of all tokens are sound, and `T` holds of the texts that they have room for. -/
structure SoundTokens (T : String → Prop) (ts : List Token) : Prop where
  lexeme : ∀ t ∈ ts, t.lexeme.Sound
  text : ∀ s : String, s.length < room ts → T s

variable {T : String → Prop}

theorem SoundTokens.tail {t : Token} {ts : List Token} (h : SoundTokens T (t :: ts)) :
    SoundTokens T ts := by
  refine ⟨(List.forall_mem_cons.mp h.lexeme).2, fun s hs => h.text s ?_⟩
  rw [room_cons]
  exact Nat.lt_of_lt_of_le hs (Nat.le_add_left _ _)

theorem SoundTokens.suffix {ts rest : List Token} (h : SoundTokens T ts) (hrest : rest <:+ ts) :
    SoundTokens T rest := by
  obtain ⟨own, rfl⟩ := hrest
  induction own with
  | nil => exact h
  | cons t own ih => exact ih h.tail

/-- The parser reads only values with a property off sound tokens, and takes them from the front. -/
structure Yields (T : String → Prop) (p : Parser α) (Q : α → Prop) : Prop where
  run : ∀ ts a rest, SoundTokens T ts → p ts = some (a, rest) → Q a ∧ rest <:+ ts

variable {p : Parser α} {P Q : α → Prop} {R : β → Prop}

theorem Yields.sound (hp : Yields T p Q) (ts : List Token) (a : α) (rest : List Token)
    (hts : SoundTokens T ts) (hrun : p ts = some (a, rest)) : Q a ∧ SoundTokens T rest := by
  obtain ⟨ha, hrest⟩ := hp.run ts a rest hts hrun
  exact ⟨ha, hts.suffix hrest⟩

theorem Yields.mono (hp : Yields T p P) (h : ∀ a, P a → Q a) : Yields T p Q := by
  refine ⟨fun ts a rest hts hrun => ?_⟩
  obtain ⟨ha, hrest⟩ := hp.run ts a rest hts hrun
  exact ⟨h a ha, hrest⟩

/-- Any value. -/
theorem Yields.any (hp : Yields T p P) : Yields T p fun _ => True := hp.mono fun _ _ => trivial

theorem Yields.pure {a : α} (h : Q a) : Yields T (Pure.pure a) Q := by
  refine ⟨fun ts b rest hts hrun => ?_⟩
  cases hrun
  exact ⟨h, List.suffix_rfl⟩

theorem Yields.bind {f : α → Parser β} (hp : Yields T p P) (hf : ∀ a, P a → Yields T (f a) R) :
    Yields T (p >>= f) R := by
  refine ⟨fun ts b rest hts hrun => ?_⟩
  change (p ts).bind (fun r => f r.1 r.2) = some (b, rest) at hrun
  obtain ⟨⟨a, r⟩, ha, hb⟩ := Option.bind_eq_some_iff.mp hrun
  obtain ⟨hPa, hr⟩ := hp.run ts a r hts ha
  obtain ⟨hRb, hrest⟩ := (hf a hPa).run r b rest (hts.suffix hr) hb
  exact ⟨hRb, hrest.trans hr⟩

theorem Yields.map {f : α → β} (hp : Yields T p P) (hf : ∀ a, P a → R (f a)) :
    Yields T (f <$> p) R := by
  refine ⟨fun ts b rest hts hrun => ?_⟩
  change (p ts).bind (fun r => some (f r.1, r.2)) = some (b, rest) at hrun
  obtain ⟨⟨a, r⟩, ha, hb⟩ := Option.bind_eq_some_iff.mp hrun
  cases hb
  obtain ⟨hPa, hr⟩ := hp.run ts a r hts ha
  exact ⟨hf a hPa, hr⟩

theorem Yields.orElse {q : Parser α} (hp : Yields T p Q) (hq : Yields T q Q) :
    Yields T (p <|> q) Q := by
  refine ⟨fun ts a rest hts hrun => ?_⟩
  change (p ts).orElse (fun _ => q ts) = some (a, rest) at hrun
  cases h : p ts with
  | none =>
    rw [h] at hrun
    exact hq.run ts a rest hts hrun
  | some r =>
    rw [h] at hrun
    cases hrun
    exact hp.run ts a rest hts h

theorem Yields.failure : Yields T (failure : Parser α) Q := ⟨nofun⟩

theorem Yields.ite {c : Prop} [Decidable c] {q : Parser α} (hp : Yields T p Q) (hq : Yields T q Q) :
    Yields T (if c then p else q) Q := by
  split
  · exact hp
  · exact hq

/-! ## One token -/

theorem peek_yields : Yields T peek Lexeme.Sound := by
  refine ⟨fun ts a rest hts hrun => ?_⟩
  cases ts with
  | nil =>
    cases hrun
    exact ⟨trivial, List.suffix_rfl⟩
  | cons t ts =>
    cases hrun
    exact ⟨hts.lexeme t List.mem_cons_self, List.suffix_rfl⟩

theorem peekSecond_yields : Yields T peekSecond fun _ => True := by
  refine ⟨fun ts a rest hts hrun => ?_⟩
  rcases ts with _ | ⟨t, _ | ⟨u, ts⟩⟩ <;> cases hrun <;>
    exact ⟨trivial, List.suffix_rfl⟩

theorem line_yields : Yields T line fun _ => True := by
  refine ⟨fun ts a rest hts hrun => ?_⟩
  cases ts <;> cases hrun <;> exact ⟨trivial, List.suffix_rfl⟩

theorem take_yields {f : Lexeme → Option α} (h : ∀ x a, x.Sound → f x = some a → Q a) :
    Yields T (take f) Q := by
  refine ⟨fun ts a rest hts hrun => ?_⟩
  cases ts with
  | nil => cases hrun
  | cons t ts =>
    change (f t.lexeme).map (fun a => (a, ts)) = some (a, rest) at hrun
    obtain ⟨b, hb, heq⟩ := Option.map_eq_some_iff.mp hrun
    cases heq
    exact ⟨h t.lexeme a (hts.lexeme t List.mem_cons_self) hb, List.suffix_cons t _⟩

theorem take_any {f : Lexeme → Option α} : Yields T (take f) fun _ => True :=
  take_yields fun _ _ _ _ => trivial

theorem sign_yields {s : String} : Yields T (sign s) fun _ => True := take_any

theorem word_yields {w : String} : Yields T (word w) fun _ => True := take_any

theorem mark_yields {m : Lexeme} : Yields T (mark m) fun _ => True := take_any

theorem name_yields : Yields T name IsName := by
  refine take_yields fun x n hx hn => ?_
  split at hn
  · rename_i w
    split at hn
    · cases hn
    · rename_i hw
      cases hn
      exact ⟨hx, fun hmem => hw (List.contains_iff_mem.mpr hmem)⟩
  · cases hn

theorem atSign_yields {s : String} : Yields T (atSign s) fun _ => True :=
  .bind peek_yields fun _ _ => .pure trivial

theorem atWord_yields {w : String} : Yields T (atWord w) fun _ => True :=
  .bind peek_yields fun _ _ => .pure trivial

theorem skipSign_yields {s : String} : Yields T (skipSign s) fun _ => True :=
  .orElse (.bind sign_yields fun _ _ => .pure trivial) (.pure trivial)

theorem skipWord_yields {w : String} : Yields T (skipWord w) fun _ => True :=
  .orElse (.bind word_yields fun _ _ => .pure trivial) (.pure trivial)

theorem require_yields {b : Bool} : Yields T (require b) fun _ => True :=
  .ite (.pure trivial) .failure

theorem discard_yields (hp : Yields T p P) : Yields T (discard p) fun _ => True :=
  hp.map fun _ _ => trivial

theorem ofOption_yields {o : Option α} (h : ∀ a ∈ o, Q a) : Yields T (ofOption o) Q := by
  refine ⟨fun ts a rest hts hrun => ?_⟩
  change o.map (fun a => (a, ts)) = some (a, rest) at hrun
  obtain ⟨b, hb, heq⟩ := Option.map_eq_some_iff.mp hrun
  cases heq
  exact ⟨h a hb, List.suffix_rfl⟩

theorem maybe_yields (hp : Yields T p Q) : Yields T (maybe p) fun o => ∀ a ∈ o, Q a :=
  .orElse (hp.map fun _ ha _ hb => Option.some.inj hb ▸ ha) (.pure nofun)

/-- What is read if it can be: nothing off the same tokens, or what the parser reads. -/
theorem maybe_cases {o : Option α} {ts rest : List Token} (h : maybe p ts = some (o, rest)) :
    (o = none ∧ rest = ts) ∨ ∃ a, o = some a ∧ p ts = some (a, rest) := by
  change ((p ts).bind fun r => some (some r.1, r.2)).orElse (fun _ => some (none, ts)) =
    some (o, rest) at h
  cases hp : p ts with
  | none =>
    rw [hp] at h
    cases h
    exact .inl ⟨rfl, rfl⟩
  | some r =>
    rw [hp] at h
    cases h
    exact .inr ⟨r.1, rfl, rfl⟩

/-! ## Loops -/

section Invariants

variable {I : α → List Token → Prop} {step : α → Parser (Option α)} {a b : α}
  {ts rest : List Token}

/-- What every round of a loop keeps up of its state and the tokens left holds at its end. -/
theorem repeatUpTo_invariant
    (h : ∀ a ts o rest, I a ts → step a ts = some (o, rest) → I (o.getD a) rest) (n : Nat) :
    ∀ {a ts}, I a ts → repeatUpTo step n a ts = some (b, rest) → I b rest := by
  induction n with
  | zero =>
    rintro a ts ha ⟨⟩
    exact ha
  | succ n ih =>
    intro a ts ha hrun
    obtain ⟨⟨o, r⟩, ho, hrun⟩ := Option.bind_eq_some_iff.mp hrun
    have hr := h a ts o r ha ho
    cases o with
    | none =>
      cases hrun
      exact hr
    | some c => exact ih hr hrun

theorem loop_invariant
    (h : ∀ a ts o rest, I a ts → step a ts = some (o, rest) → I (o.getD a) rest)
    (ha : I a ts) (hrun : loop step a ts = some (b, rest)) : I b rest := by
  obtain ⟨⟨o, r⟩, ho, hrun⟩ := Option.bind_eq_some_iff.mp hrun
  have hr := h a ts o r ha ho
  cases o with
  | none =>
    cases hrun
    exact hr
  | some c => exact repeatUpTo_invariant h r.length hr hrun

/-- What every item keeps up of those before it, the last first, and the tokens left. -/
theorem many_invariant {J : List α → List Token → Prop}
    (h : ∀ done ts a rest, J done ts → p ts = some (a, rest) → J (a :: done) rest)
    {as : List α} (hts : J [] ts) (hrun : many p ts = some (as, rest)) : J as.reverse rest := by
  obtain ⟨⟨done, r⟩, hdone, heq⟩ := Option.bind_eq_some_iff.mp hrun
  cases heq
  rw [List.reverse_reverse]
  refine loop_invariant (fun done ts o rest hd ho => ?_) hts hdone
  obtain ⟨rfl, rfl⟩ | ⟨b, rfl, hb⟩ := maybe_cases ho
  · exact hd
  · obtain ⟨⟨a, r⟩, ha, heq⟩ := Option.bind_eq_some_iff.mp hb
    cases heq
    exact h done ts a rest hd ha

end Invariants

theorem loop_yields {step : α → Parser (Option α)}
    (h : ∀ a, Q a → Yields T (step a) fun o => ∀ b ∈ o, Q b) {a : α} (ha : Q a) :
    Yields T (loop step a) Q := by
  refine ⟨fun ts b rest hts hrun => ?_⟩
  refine loop_invariant (I := fun a r => Q a ∧ r <:+ ts) (fun a r o rest hI ho => ?_)
    ⟨ha, List.suffix_rfl⟩ hrun
  obtain ⟨hb, hrest⟩ := (h a hI.1).run r o rest (hts.suffix hI.2) ho
  cases o with
  | none => exact ⟨hI.1, hrest.trans hI.2⟩
  | some b => exact ⟨hb b rfl, hrest.trans hI.2⟩

/-- A loop of a step that fails where it ends. -/
theorem loop_maybe_yields {step : α → Parser α} (h : ∀ a, Q a → Yields T (step a) Q) {a : α}
    (ha : Q a) : Yields T (loop (fun a => maybe (step a)) a) Q :=
  loop_yields (fun a ha => maybe_yields (h a ha)) ha

/-- Every item has a property. -/
def Each (Q : α → Prop) (as : List α) : Prop := ∀ a ∈ as, Q a

theorem Each.reverse {as : List α} (h : Each Q as) : Each Q as.reverse :=
  fun a ha => h a (List.mem_reverse.mp ha)

theorem Each.cons {a : α} {as : List α} (ha : Q a) (has : Each Q as) : Each Q (a :: as) :=
  List.forall_mem_cons.mpr ⟨ha, has⟩

theorem many_yields (hp : Yields T p Q) : Yields T (many p) (Each Q) := by
  have rounds : Yields T (loop (fun done => maybe ((· :: done) <$> p)) []) (Each Q) :=
    loop_maybe_yields (fun _ hdone => hp.map fun _ ha => .cons ha hdone) nofun
  exact rounds.map fun _ h => h.reverse

theorem separated_yields {sep : Parser Unit} (hs : Yields T sep fun _ => True) (hp : Yields T p Q) :
    Yields T (separated sep p) (Each Q) := by
  refine .bind hp fun first hfirst => ?_
  have rounds : Yields T (loop (fun done => maybe do sep; return (← p) :: done) [first]) (Each Q) :=
    loop_maybe_yields (fun _ hdone => .bind hs fun _ _ =>
      .bind hp fun _ ha => .pure (.cons ha hdone)) (.cons hfirst nofun)
  exact rounds.map fun _ h => h.reverse

theorem commaList_yields (hp : Yields T p Q) : Yields T (commaList p) fun r => Each Q r.1 :=
  .bind (separated_yields sign_yields hp) fun _ h => .bind skipSign_yields fun _ _ => .pure h

theorem chain_yields {first : Parser α} {step : α → Parser α} (hf : Yields T first Q)
    (hs : ∀ a, Q a → Yields T (step a) Q) : Yields T (chain first step) Q :=
  .bind hf fun _ ha => loop_maybe_yields hs ha

theorem withTokens_yields (hp : Yields T p Q) : Yields T (withTokens p) fun r => Q r.1 := by
  refine ⟨fun ts a rest hts hrun => ?_⟩
  change (p ts).bind (fun r => some ((r.1, _), r.2)) = some (a, rest) at hrun
  obtain ⟨⟨b, r⟩, hb, heq⟩ := Option.bind_eq_some_iff.mp hrun
  cases heq
  exact hp.run ts b r hts hb

end Parser

/-! ## Texts -/

/-! ## Stretches -/

theorem plainText_append (ps qs : List Piece) :
    plainText (ps ++ qs) = plainText ps ++ plainText qs := by
  induction ps with
  | nil => rfl
  | cons p ps ih =>
    cases p with
    | text cs =>
      rw [List.cons_append, plainText, plainText, ih, List.append_assoc]
    | field e => exact ih

variable {line : Nat} {marked : Bool} {parse : Nat → List Char → Option Tree}

theorem Quotation.pieces_length {q : Quotation} {ps : List Piece} (hq : q.formatted = false)
    (h : q.pieces line marked parse = some ps) : (plainText ps).length ≤ q.body.length := by
  unfold Quotation.pieces at h
  rw [hq] at h
  obtain ⟨cs, hcs, rfl⟩ := Option.map_eq_some_iff.mp h
  cases htext : textOf q.raw q.body with
  | error e =>
    rw [htext] at hcs
    cases hcs
  | ok out =>
    rw [htext] at hcs
    cases hcs
    rw [plainText, plainText, List.append_nil]
    exact textOf_length htext

/-- How much of a source quotations take: their bodies, each with a quote. -/
def quoted : List (Nat × Quotation) → Nat
  | [] => 0
  | q :: qs => q.2.body.length + 1 + quoted qs

@[simp] theorem quoted_nil : quoted [] = 0 := rfl

@[simp] theorem quoted_cons (q : Nat × Quotation) (qs : List (Nat × Quotation)) :
    quoted (q :: qs) = q.2.body.length + 1 + quoted qs := rfl

@[simp] theorem quoted_append (qs rs : List (Nat × Quotation)) :
    quoted (qs ++ rs) = quoted qs + quoted rs := by
  induction qs with
  | nil => rw [List.nil_append, quoted_nil, Nat.zero_add]
  | cons q qs ih =>
    rw [List.cons_append, quoted_cons, quoted_cons, ih]
    omega

theorem quoted_reverse (qs : List (Nat × Quotation)) : quoted qs.reverse = quoted qs := by
  induction qs with
  | nil => rfl
  | cons q qs ih =>
    rw [List.reverse_cons, quoted_append, ih, quoted_cons, quoted_cons, quoted_nil]
    omega

theorem mapM_pieces_length {f : Nat → Nat → List Char → Option Tree} :
    ∀ {qs : List (Nat × Quotation)} {ps : List (List Piece)},
      (∀ q ∈ qs, q.2.formatted = false) →
      qs.mapM (fun q => q.2.pieces line marked (f q.1)) = some ps →
      (plainText ps.flatten).length + qs.length ≤ quoted qs := by
  intro qs
  induction qs with
  | nil =>
    rintro ps - ⟨⟩
    exact Nat.le_refl _
  | cons q qs ih =>
    intro ps hqs h
    obtain ⟨hq, hqs⟩ := List.forall_mem_cons.mp hqs
    rw [List.mapM_cons] at h
    obtain ⟨p, hp, h⟩ := Option.bind_eq_some_iff.mp h
    obtain ⟨ps, hps, h⟩ := Option.bind_eq_some_iff.mp h
    cases h
    have hfirst := Quotation.pieces_length hq hp
    have hrest := ih hqs hps
    rw [List.flatten_cons, plainText_append, List.length_append, quoted_cons, List.length_cons]
    omega

/-- What texts make that take so much of a source: bytes, a formatted text or a shorter text. -/
inductive Quotes (n : Nat) : Form → Prop
  | bytes (bs : List UInt8) : Quotes n (.const (.bytes bs))
  | joined (ts : List Tree) : Quotes n (.joined ts)
  | text {s : String} {marked : Bool} (h : s.length < n) : Quotes n (.const (.str s marked))

theorem concatenate_form {q : Nat × Quotation} {qs : List (Nat × Quotation)} {t : Tree}
    (h : concatenate parse (q :: qs) = some t) :
    ∃ l f, t = .mk l f ∧ Quotes (quoted (q :: qs)) f := by
  unfold concatenate at h
  dsimp only at h
  split at h
  · split at h
    · obtain ⟨bs, -, heq⟩ := Option.bind_eq_some_iff.mp h
      cases heq
      exact ⟨_, _, rfl, .bytes _⟩
    · cases h
  · obtain ⟨ps, hps, heq⟩ := Option.bind_eq_some_iff.mp h
    split at heq
    · cases heq
      exact ⟨_, _, rfl, .joined _⟩
    · rename_i hplain
      cases heq
      refine ⟨_, _, rfl, .text ?_⟩
      have hplain := List.any_eq_false.mp (eq_false_of_ne_true hplain)
      have hlen := mapM_pieces_length (f := fun line lines => parse (line + lines))
        (fun q hq => eq_false_of_ne_true (hplain q hq)) hps
      rw [String.length_ofList]
      rw [List.length_cons] at hlen
      omega

/-! ## Tokens -/

namespace Parser

variable {self : Self} {ts rest : List Token}

theorem quotation_room {q : Nat × Quotation} (h : quotation ts = some (q, rest)) :
    room ts = q.2.body.length + 1 + room rest := by
  cases ts with
  | nil => cases h
  | cons t ts =>
    obtain ⟨x, p, e⟩ := t
    cases x with
    | text body =>
      cases h
      exact room_cons ..
    | _ => cases h

theorem quotations_room {qs : List (Nat × Quotation)} (h : many quotation ts = some (qs, rest)) :
    room ts = quoted qs + room rest := by
  have kept := many_invariant (J := fun done r => room ts = quoted done + room r)
    (fun done ts q rest hd hq => by
      rw [quoted_cons, hd, quotation_room hq]
      omega) (by rw [quoted_nil, Nat.zero_add]) h
  rwa [quoted_reverse] at kept

/-- Texts side by side make bytes, a formatted text or a text that is shorter than their room. -/
theorem texts_form {t : Tree} (h : texts self ts = some (t, rest)) :
    ∃ l f, t = .mk l f ∧ Quotes (room ts) f := by
  obtain ⟨⟨q, r⟩, hq, h⟩ := Option.bind_eq_some_iff.mp h
  obtain ⟨⟨qs, r'⟩, hqs, h⟩ := Option.bind_eq_some_iff.mp h
  obtain ⟨u, hu, heq⟩ := Option.map_eq_some_iff.mp h
  cases heq
  obtain ⟨l, f, rfl, hf⟩ := concatenate_form hu
  refine ⟨l, f, rfl, ?_⟩
  cases hf with
  | bytes bs => exact .bytes bs
  | joined ts => exact .joined ts
  | text hlen =>
    refine .text ?_
    rw [quotation_room hq, quotations_room hqs]
    rw [quoted_cons] at hlen
    omega

end Parser

end Exemplar.Syntax
