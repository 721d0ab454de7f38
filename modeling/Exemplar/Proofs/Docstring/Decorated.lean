import Exemplar.Proofs.Docstring.Plain

/-
  Decorated types. Documentation marks the names in a type up (`Mark`) and appends notes to it
  (`Note`). What the clean-up makes of that is the plain type, but for two things: the domain of a
  role with a domain stays with its colon (`Stretch.residue`), and a note `optional` stays where
  another note follows it and no note on a default stands in front of it (`leftover`). Types with
  `or` between them are read as the same types with bars.
-/

namespace Exemplar.Docstring

open Exemplar.Text Exemplar.Syntax Exemplar.Syntax.Snippet

/-! ## Mark-up -/

/-- A role, or the domain of one. -/
structure RoleWord where
  chars : List Char
  ne : chars ≠ []
  word : ∀ c ∈ chars, isWordChar c = true

/-- How a stretch of a type is marked up. -/
inductive Mark
  | bare
  | ticks
  | role (w : RoleWord)
  | domainRole (d w : RoleWord)

/-- A stretch of a type, such as a dotted name, and its mark-up. -/
structure Stretch where
  mark : Mark
  text : List Char
  ne : text ≠ []

namespace Stretch

/-- A stretch as it is written, with its marks. -/
def written (s : Stretch) : List Char :=
  match s.mark with
  | .bare => s.text
  | .ticks => '`' :: (s.text ++ ['`'])
  | .role w => ':' :: (w.chars ++ ':' :: '`' :: (s.text ++ ['`']))
  | .domainRole d w => ':' :: (d.chars ++ ':' :: (w.chars ++ ':' :: '`' :: (s.text ++ ['`'])))

/-- What is left of a stretch: a domain stays in front of it. -/
def residue (s : Stretch) : List Char :=
  match s.mark with
  | .domainRole d _ => ':' :: (d.chars ++ s.text)
  | _ => s.text

end Stretch

/-- A note behind a type. -/
inductive Note
  | optional
  | default (value : List Char)

def Note.text : Note → List Char
  | .optional => ", optional".toList
  | .default value => ", default ".toList ++ value

/-- The notes that are not dropped. -/
def leftover : List Note → List Note
  | .optional :: n :: ns => .optional :: leftover (n :: ns)
  | _ => []

/-- The text of a type on one line, without marks, notes `optional` and blanks around it. -/
structure PlainText (cs : List Char) : Prop where
  ne : cs ≠ []
  trimmed : Trimmed cs
  unmarked : ∀ c ∈ cs, c ≠ ':' ∧ c ≠ '`' ∧ c ≠ '\n'
  noteFree : NoteFree cs

/-! ## Without roles and backticks -/

variable {cs r : List Char} {s : Stretch} {ss : List Stretch} {ns : List Note}

theorem RoleWord.unmarked (w : RoleWord) : ∀ c ∈ w.chars, c ≠ ':' ∧ c ≠ '`' ∧ c ≠ '\n' := by
  intro c hc
  refine ⟨?_, ?_, ?_⟩ <;> rintro rfl <;> exact absurd (w.word _ hc) (by decide)

theorem takeRole?_of_role (w : RoleWord) (hcs : '`' ∉ cs) :
    takeRole? (':' :: (w.chars ++ ':' :: '`' :: (cs ++ '`' :: r))) = some (cs, r) :=
  takeRole?_eq_some.2 ⟨w.chars, rfl, w.ne, w.word, hcs⟩

/-- A domain in front of a role is no role. -/
theorem takeRole?_of_domain (d w : RoleWord) :
    takeRole? (':' :: (d.chars ++ ':' :: (w.chars ++ r))) = none := by
  refine Option.eq_none_iff_forall_ne_some.2 fun ⟨name, rest⟩ hr => ?_
  obtain ⟨v, heq, -, hv, -⟩ := takeRole?_eq_some.1 hr
  have hrest := (List.cons.inj heq).2
  have run (a b : List Char) (ha : ∀ c ∈ a, isWordChar c = true) :
      (a ++ ':' :: b).takeWhile isWordChar = a := takeWhile_run ha (by rintro c ⟨⟩; decide)
  have hdv : d.chars = v := by rw [← run d.chars (w.chars ++ r) d.word, hrest, run v _ hv]
  subst hdv
  obtain ⟨c, t, ht⟩ := List.exists_cons_of_ne_nil w.ne
  have hc := w.word c (ht ▸ .head t)
  rw [ht] at hrest
  obtain rfl : c = '`' := (List.cons.inj (List.cons.inj (List.append_cancel_left hrest)).2).1
  exact absurd hc (by decide)

theorem unmark_role (w : RoleWord) (hcs : ∀ c ∈ cs, c ≠ ':' ∧ c ≠ '`') (r : List Char) :
    unmark (':' :: (w.chars ++ ':' :: '`' :: (cs ++ '`' :: r))) = cs ++ unmark r := by
  have hrole := takeRole?_of_role (r := r) w fun hc => (hcs _ hc).2 rfl
  rw [unmark, dropRoles_of_role hrole, List.filter_append, List.filter_eq_self.2 fun c hc => by
    simpa using (hcs c hc).2]
  rfl

theorem unmark_cons {c : Char} (h : takeRole? (c :: r) = none) (hc : c ≠ '`') :
    unmark (c :: r) = c :: unmark r := by
  rw [unmark, dropRoles_cons h, List.filter_cons_of_pos (by simpa using hc)]
  rfl

theorem unmark_tick (r : List Char) : unmark ('`' :: r) = unmark r := by
  have hrole : takeRole? ('`' :: r) = none := rfl
  rw [unmark, dropRoles_cons hrole, List.filter_cons_of_neg (by decide)]
  rfl

theorem unmark_written (h : ∀ c ∈ s.text, c ≠ ':' ∧ c ≠ '`') (r : List Char) :
    unmark (s.written ++ r) = s.residue ++ unmark r := by
  obtain ⟨mark, cs, hne⟩ := s
  cases mark with
  | bare => exact unmark_append h r
  | ticks =>
    have : unmark ('`' :: (cs ++ '`' :: r)) = cs ++ unmark r := by
      rw [unmark_tick, unmark_append h, unmark_tick]
    simpa [Stretch.written, Stretch.residue] using this
  | role w => simpa [Stretch.written, Stretch.residue] using unmark_role w h r
  | domainRole d w =>
    have := takeRole?_of_domain d w (r := ':' :: '`' :: (cs ++ '`' :: r))
    have : unmark (':' :: (d.chars ++ ':' :: (w.chars ++ ':' :: '`' :: (cs ++ '`' :: r)))) =
        ':' :: (d.chars ++ (cs ++ unmark r)) := by
      rw [unmark_cons this (by decide), unmark_append fun c hc => ⟨(d.unmarked c hc).1,
        (d.unmarked c hc).2.1⟩, unmark_role w h]
    simpa [Stretch.written, Stretch.residue] using this

theorem unmark_flatMap_written (h : ∀ c ∈ ss.flatMap Stretch.text, c ≠ ':' ∧ c ≠ '`')
    (r : List Char) :
    unmark (ss.flatMap Stretch.written ++ r) = ss.flatMap Stretch.residue ++ unmark r := by
  induction ss with
  | nil => rfl
  | cons s ss ih =>
    rw [List.flatMap_cons, List.forall_mem_append] at h
    rw [List.flatMap_cons, List.flatMap_cons, List.append_assoc, unmark_written h.1, ih h.2,
      List.append_assoc]

/-! ## What is left of marks -/

theorem head?_residue (ss : List Stretch) : ∀ c ∈ (ss.flatMap Stretch.residue).head?,
    c = ':' ∨ c ∈ (ss.flatMap Stretch.text).head? := by
  cases ss with
  | nil => nofun
  | cons s ss =>
    obtain ⟨mark, cs, hne⟩ := s
    obtain ⟨d, t, rfl⟩ := List.exists_cons_of_ne_nil hne
    rintro c hc
    cases mark with
    | domainRole =>
      cases hc
      exact .inl rfl
    | bare | ticks | role =>
      cases hc
      exact .inr rfl

theorem getLast?_residue (ss : List Stretch) :
    (ss.flatMap Stretch.residue).getLast? = (ss.flatMap Stretch.text).getLast? := by
  have one (s : Stretch) : s.residue.getLast? = s.text.getLast? := by
    obtain ⟨mark, cs, hne⟩ := s
    cases mark with
    | domainRole d w =>
      obtain ⟨c, t, rfl⟩ := List.exists_cons_of_ne_nil hne
      exact List.getLast?_append_cons (':' :: d.chars) c t
    | bare | ticks | role => rfl
  induction ss with
  | nil => rfl
  | cons s ss ih => rw [List.flatMap_cons, List.flatMap_cons, List.getLast?_append,
      List.getLast?_append, ih, one]

theorem residue_eq_text (h : ∀ s ∈ ss, ∀ d w, s.mark ≠ .domainRole d w) :
    ss.flatMap Stretch.residue = ss.flatMap Stretch.text := by
  refine List.flatMap_congr fun s hs => ?_
  unfold Stretch.residue
  split
  case h_1 d w hmark => exact absurd hmark (h s hs d w)
  case h_2 => rfl

/-- A domain leaves its colon. -/
theorem ne_domainRole (h : ':' ∉ ss.flatMap Stretch.residue) :
    ∀ s ∈ ss, ∀ d w, s.mark ≠ .domainRole d w := by
  intro s hs d w hmark
  have hmem : ':' ∈ s.residue := by
    rw [Stretch.residue, hmark]
    exact .head _
  exact h (List.mem_flatMap.2 ⟨s, hs, hmem⟩)

/-- What stands behind a comma and has no domain in it is text. -/
theorem exists_text_of_residue {x y : List Char} (hy : ':' ∉ y)
    (heq : ss.flatMap Stretch.residue = x ++ ',' :: y) :
    ∃ x', ss.flatMap Stretch.text = x' ++ ',' :: y := by
  induction ss generalizing x with
  | nil => simp at heq
  | cons s ss ih =>
    rw [List.flatMap_cons] at heq ⊢
    obtain ⟨k, hk, rfl⟩ | ⟨k, rfl, hk⟩ := append_eq_append_cons heq
    · rw [List.mem_append, not_or] at hy
      obtain ⟨x', hx'⟩ : ∃ x', s.text = x' ++ ',' :: k := by
        obtain ⟨mark, cs, hne⟩ := s
        cases mark with
        | bare | ticks | role => exact ⟨x, hk⟩
        | domainRole d w =>
          obtain ⟨l, hl, -⟩ | ⟨l, -, hl⟩ :=
            append_eq_append_cons (a := ':' :: d.chars) (b := cs) hk
          · have hmem : ',' ∈ ':' :: d.chars := hl ▸ by simp
            rcases List.mem_cons.1 hmem with hc | hc
            · cases hc
            · exact absurd (d.word _ hc) (by decide)
          · exact ⟨l, hl⟩
      exact ⟨x', by rw [hx', residue_eq_text (ne_domainRole hy.2)]; simp⟩
    · obtain ⟨x', hx'⟩ := ih hk
      exact ⟨s.text ++ x', by rw [hx', List.append_assoc]⟩

/-- The front of a text in front of notes. -/
structure Front (cs : List Char) : Prop where
  ne : cs ≠ []
  head : ∀ c ∈ cs.head?, isBlank c = false
  line : '\n' ∉ cs

theorem PlainText.front (h : PlainText (ss.flatMap Stretch.text)) :
    Front (ss.flatMap Stretch.residue) := by
  refine ⟨fun hnil => ?_, fun c hc => ?_, fun hmem => ?_⟩
  · have := getLast?_residue ss
    rw [hnil] at this
    exact h.ne (List.getLast?_eq_none_iff.1 this.symm)
  · rcases head?_residue ss c hc with rfl | hc
    · decide
    · exact h.trimmed.head c hc
  · obtain ⟨s, hs, hmem⟩ := List.mem_flatMap.1 hmem
    have htext : '\n' ∉ s.text := fun hmem =>
      (h.unmarked _ (List.mem_flatMap.2 ⟨s, hs, hmem⟩)).2.2 rfl
    obtain ⟨mark, cs, hne⟩ := s
    cases mark with
    | bare | ticks | role => exact htext hmem
    | domainRole d w =>
      rcases List.mem_cons.1 hmem with hc | hmem
      · cases hc
      · rcases List.mem_append.1 hmem with hmem | hmem
        · exact (d.unmarked _ hmem).2.2 rfl
        · exact htext hmem

theorem PlainText.noteFree_residue (h : PlainText (ss.flatMap Stretch.text)) :
    NoteFree (ss.flatMap Stretch.residue) := by
  intro x y heq
  by_contra hsome
  -- A colon would stand behind the word and is no blank.
  have hy : ':' ∉ y := fun hmem => by
    refine hsome ?_
    unfold optionalNote
    cases hf : afterFolded? "optional" (trimLeft y) with
    | none => rfl
    | some rest =>
      have hrest := mem_of_afterFolded? hf (mem_trimLeft_of_mem hmem (by decide)) (by decide)
      exact if_neg fun hall => absurd (List.all_eq_true.1 hall _ hrest) (by decide)
  obtain ⟨x', hx'⟩ := exists_text_of_residue hy heq
  exact hsome (h.noteFree x' y hx')

/-! ## Notes -/

variable {a b : List Char}

theorem Front.trim_append (h : Front a) : trim (a ++ b) = trimRight (a ++ b) := by
  obtain ⟨c, t, rfl⟩ := List.exists_cons_of_ne_nil h.ne
  rw [trim, trimLeft_of_head?]
  rintro d ⟨⟩
  exact h.head _ rfl

theorem parts_comma (h : a.head? = some ',') : Parts "optional" a ∧ Parts "default" a := by
  obtain ⟨r, rfl⟩ := List.head?_eq_some_iff.1 h
  exact ⟨.of_head (by decide) (by decide) (by decide) r,
    .of_head (by decide) (by decide) (by decide) r⟩

/-- The clean-up of notes. -/
def dropNotes (cs : List Char) : List Char := dropNote defaultNote (dropNote optionalNote cs)

theorem dropNotes_optional (a : List Char) :
    dropNotes (a ++ ", optional".toList) = dropNote defaultNote a := by
  have hlast : dropNote optionalNote ", optional".toList = [] := by decide
  have happend := dropNote_optional_append (b := ", optional".toList) (parts_comma rfl).1
    (List.mem_cons_self ..) (by decide) a
  rw [dropNotes, happend, hlast, List.append_nil]

theorem dropNote_optional_subset (cs : List Char) : dropNote optionalNote cs ⊆ cs := by
  induction cs with
  | nil => exact List.Subset.refl _
  | cons c cs ih =>
    rw [dropNote]
    split
    case isTrue =>
      split
      case h_1 rest hrest =>
        have hnil : rest = [] := by
          unfold optionalNote at hrest
          simp only [Option.bind_eq_bind, Option.bind_eq_some_iff] at hrest
          obtain ⟨t, -, ht⟩ := hrest
          split at ht
          · exact (Option.some.inj ht).symm
          · cases ht
        rw [hnil]
        exact List.nil_subset _
      case h_2 => exact List.cons_subset_cons c ih
    case isFalse => exact List.cons_subset_cons c ih

/-- A note on a default is dropped with all behind it. -/
theorem dropNotes_default (hline : '\n' ∉ a ++ b) :
    dropNotes (a ++ (", default".toList ++ b)) = dropNote defaultNote a := by
  have hoptional : dropNote optionalNote (", default".toList ++ b) =
      ", default".toList ++ dropNote optionalNote b := rfl
  have happend := dropNote_optional_append (b := ", default".toList ++ b) (parts_comma rfl).1
    (List.mem_cons_self ..) (by decide) a
  rw [List.mem_append, not_or] at hline
  have hb : '\n' ∉ dropNote optionalNote b := fun hmem =>
    hline.2 (dropNote_optional_subset b hmem)
  have hnote : '\n' ∉ ", default".toList ++ dropNote optionalNote b := by
    rw [List.mem_append, not_or]
    exact ⟨by decide, hb⟩
  have hline' : '\n' ∉ a ++ (", default".toList ++ dropNote optionalNote b) := by
    rw [List.mem_append, not_or]
    exact ⟨hline.1, hnote⟩
  rw [dropNotes, happend, hoptional, dropNote_default_append (parts_comma rfl).2 hline']
  split
  case isTrue => rfl
  case isFalse hdefault =>
    have hnil : dropNote defaultNote (", default".toList ++ dropNote optionalNote b) = [] := by
      have hspace : '\n' ∉ " default".toList ++ dropNote optionalNote b := fun hmem =>
        hnote (.tail ',' hmem)
      refine (dropNote_default_cons (c := ',') hspace).trans (if_pos ⟨rfl, ?_⟩)
      exact Option.isSome_iff_exists.2 ⟨dropNote optionalNote b, rfl⟩
    rw [hnil, List.append_nil, dropNote_default_of_not hdefault]

theorem Front.append (h : Front a) (hb : '\n' ∉ b) : Front (a ++ b) := by
  obtain ⟨c, t, rfl⟩ := List.exists_cons_of_ne_nil h.ne
  exact ⟨List.cons_ne_nil _ _, h.head, fun hmem => (List.mem_append.1 hmem).elim h.line hb⟩

theorem not_mem_notes (h : ∀ v, Note.default v ∈ ns → '\n' ∉ v) :
    '\n' ∉ ns.flatMap Note.text := by
  intro hmem
  obtain ⟨n, hn, hmem⟩ := List.mem_flatMap.1 hmem
  cases n with
  | optional => exact absurd hmem (by decide)
  | default v =>
    rcases List.mem_append.1 hmem with hmem | hmem
    · exact absurd hmem (by decide)
    · exact h v hn hmem

/-- The word `optional` at the end is dropped. -/
theorem dropNotes_trim_optional (hfront : Front a) :
    dropNotes (trim (a ++ unmark ([Note.optional].flatMap Note.text))) =
      dropNote defaultNote a := by
  have hunmark : unmark ([Note.optional].flatMap Note.text) = ", optional".toList := by decide
  have hend : (a ++ ", optional".toList).getLast? = some 'l' := by
    rw [List.getLast?_append]
    rfl
  rw [hunmark, hfront.trim_append, trimRight_of_getLast?, dropNotes_optional]
  rw [hend]
  rintro c ⟨⟩
  decide

/-- A default is dropped with all notes behind it. -/
theorem dropNotes_trim_default (hfront : Front a) {v : List Char}
    (h : '\n' ∉ (Note.default v :: ns).flatMap Note.text) :
    dropNotes (trim (a ++ unmark ((Note.default v :: ns).flatMap Note.text))) =
      dropNote defaultNote a := by
  have htext : (Note.default v :: ns).flatMap Note.text =
      ", default".toList ++ ' ' :: (v ++ ns.flatMap Note.text) := rfl
  rw [htext, List.mem_append, not_or] at h
  have hunmark : unmark ((Note.default v :: ns).flatMap Note.text) =
      ", default".toList ++ unmark (' ' :: (v ++ ns.flatMap Note.text)) :=
    unmark_append (a := ", default".toList) (List.all_iff_forall_prop.1 (by decide)) _
  have hrest : '\n' ∉ trimRight (unmark (' ' :: (v ++ ns.flatMap Note.text))) := fun hmem =>
    h.2 (unmark_subset _ ((trimRight_isPrefix _).subset hmem))
  have hend : (a ++ ", default".toList).getLast? = some 't' := by
    rw [List.getLast?_append]
    rfl
  rw [hunmark, hfront.trim_append, ← List.append_assoc, trimRight_append_of_getLast?,
    List.append_assoc, dropNotes_default]
  · rw [List.mem_append, not_or]
    exact ⟨hfront.line, hrest⟩
  · rw [hend]
    rintro c ⟨⟩
    decide

/-- The notes behind a text, without their marks and the blanks at their end, are dropped but for
the leftover ones. -/
theorem dropNotes_trim (hfront : Front a) (hne : ns ≠ [])
    (h : ∀ v, Note.default v ∈ ns → '\n' ∉ v) :
    dropNotes (trim (a ++ unmark (ns.flatMap Note.text))) =
      dropNote defaultNote (a ++ (leftover ns).flatMap Note.text) := by
  induction ns using leftover.induct generalizing a with
  | case1 n ns ih =>
    have hnext := ih (hfront.append (b := ", optional".toList) (by decide)) (List.cons_ne_nil _ _)
      fun v hv => h v (.tail _ hv)
    have hunmark : unmark ((Note.optional :: n :: ns).flatMap Note.text) =
        ", optional".toList ++ unmark ((n :: ns).flatMap Note.text) :=
      unmark_append (a := ", optional".toList) (List.all_iff_forall_prop.1 (by decide)) _
    have hleft : (leftover (.optional :: n :: ns)).flatMap Note.text =
        ", optional".toList ++ (leftover (n :: ns)).flatMap Note.text := rfl
    rw [hunmark, hleft, ← List.append_assoc, hnext, List.append_assoc]
  | case2 ns hlast =>
    have hleft : leftover ns = [] := by
      unfold leftover
      split
      · exact absurd rfl (hlast _ _)
      · rfl
    rw [hleft, List.flatMap_nil, List.append_nil]
    match ns with
    | [] => exact absurd rfl hne
    | .optional :: n :: ns => exact absurd rfl (hlast n ns)
    | [.optional] => exact dropNotes_trim_optional hfront
    | .default v :: ns => exact dropNotes_trim_default hfront (not_mem_notes h)

/-! ## Decorated types -/

/-- A decorated type is cleaned up as what is left of its marks and notes. -/
theorem cleanType_decorated (ss : List Stretch) (ns : List Note)
    (h : PlainText (ss.flatMap Stretch.text)) (hns : ∀ v, Note.default v ∈ ns → '\n' ∉ v) :
    cleanType (ss.flatMap Stretch.written ++ ns.flatMap Note.text) =
      trim (barsForOr (dropNote defaultNote
        (ss.flatMap Stretch.residue ++ (leftover ns).flatMap Note.text))) := by
  have hmarks : ∀ c ∈ ss.flatMap Stretch.text, c ≠ ':' ∧ c ≠ '`' := fun c hc =>
    ⟨(h.unmarked c hc).1, (h.unmarked c hc).2.1⟩
  rw [cleanType_eq, unmark_flatMap_written hmarks]
  change trim (barsForOr (dropNotes _)) = _
  by_cases hne : ns = []
  · subst hne
    have hunmark : unmark (([] : List Note).flatMap Note.text) = [] := rfl
    have htrimmed : Trimmed (ss.flatMap Stretch.residue) := by
      refine ⟨h.front.head, ?_⟩
      rw [getLast?_residue]
      exact h.trimmed.last
    rw [hunmark, List.append_nil, htrimmed.trim, dropNotes,
      dropNote_optional_of_noteFree h.noteFree_residue]
    simp [leftover]
  · rw [dropNotes_trim h.front hne hns]

theorem PlainText.cleanType (h : PlainText cs) :
    cleanType cs = trim (barsForOr (dropNote defaultNote cs)) := by
  have := cleanType_decorated [⟨.bare, cs, h.ne⟩] [] (by simpa using h) nofun
  simpa [Stretch.written, Stretch.residue, leftover] using this

/-! ## The word or between types -/

/-- A type without the word `or`. -/
structure PlainOperand (cs : List Char) : Prop extends PlainText cs where
  plain : ¬ SaysOr cs

/-- The texts of type expressions are such types. -/
theorem PlainType.plainOperand {e : Expr} (h : PlainType e) : PlainOperand (print e).toList := by
  obtain ⟨ps, t, hps, hcs, -⟩ := h.prints.weak Strength.test.level (by decide)
  obtain ⟨p, qs, rfl, hp⟩ := hps.exists_cons
  have ho := hps.orderly
  have hprint : (print e).toList = layOut (p :: qs) := by rw [print, String.toList_ofList, hcs]
  rw [hprint]
  refine ⟨⟨?_, ho.trimmed hp, fun c hc => ⟨?_, ?_, ?_⟩, (hps.sheltered rfl).noteFree⟩,
    ho.not_saysOr⟩
  · obtain ⟨c, r, hcr, -⟩ := ho.begins hp
    rw [hcr]
    exact List.cons_ne_nil c r
  all_goals
    rintro rfl
    exact ho.not_mem (by decide) (by decide) hc

variable {t : List Char} {ts : List (List Char)}

theorem PlainOperand.barsForOr_append (h : PlainOperand t) (hb : ∀ c ∈ b.head?, c = ' ') :
    barsForOr (t ++ b) = t ++ barsForOr b :=
  barsForOr_append_of_not h.plain h.trimmed.last hb

/-- What stands between the types of a union. -/
def unionSigns : List String := [" or ", " | "]

/-- What stands between types parts them. -/
structure Between (cs : List Char) : Prop where
  optional : Parts "optional" cs
  default : Parts "default" cs
  head : cs.head? = some ' '
  ink : ∃ c ∈ cs, isBlank c = false

theorem between_of_sign {sep : String} (h : sep ∈ unionSigns) (j : List Char) :
    Between (sep.toList ++ j) := by
  simp only [unionSigns, List.mem_cons, List.not_mem_nil, or_false] at h
  rcases h with rfl | rfl
  · exact ⟨⟨by rintro c ⟨⟩; decide, rfl⟩, ⟨by rintro c ⟨⟩; decide, rfl⟩, rfl, 'o',
      List.mem_append_left j (by decide), by decide⟩
  · exact ⟨⟨by rintro c ⟨⟩; decide, rfl⟩, ⟨by rintro c ⟨⟩; decide, rfl⟩, rfl, '|',
      List.mem_append_left j (by decide), by decide⟩

theorem sign_unmarked {sep : String} (h : sep ∈ unionSigns) :
    ∀ c ∈ sep.toList, c ≠ ':' ∧ c ≠ '`' ∧ c ≠ '\n' ∧ c ≠ ',' := by
  simp only [unionSigns, List.mem_cons, List.not_mem_nil, or_false] at h
  rcases h with rfl | rfl <;> exact List.all_iff_forall_prop.1 (by decide)

/-- Types with a sign between them are the text of a type. -/
theorem PlainText.union {sep : String} {j : List Char} (h : PlainText t) (hj : PlainText j)
    (hsep : sep ∈ unionSigns) : PlainText (t ++ (sep.toList ++ j)) := by
  have hsign := sign_unmarked hsep
  refine ⟨fun hnil => h.ne (List.append_eq_nil_iff.1 hnil).1, ⟨?_, ?_⟩, ?_, fun x y heq => ?_⟩
  · obtain ⟨c, r, rfl⟩ := List.exists_cons_of_ne_nil h.ne
    exact h.trimmed.head
  · obtain ⟨d, u, rfl⟩ := List.exists_cons_of_ne_nil hj.ne
    rw [← List.append_assoc, List.getLast?_append_cons]
    exact hj.trimmed.last
  · rw [List.forall_mem_append, List.forall_mem_append]
    exact ⟨h.unmarked, fun c hc => ⟨(hsign c hc).1, (hsign c hc).2.1, (hsign c hc).2.2.1⟩,
      hj.unmarked⟩
  · obtain ⟨k, -, rfl⟩ | ⟨k, -, hk⟩ := append_eq_append_cons heq
    · have hbetween := between_of_sign hsep j
      obtain ⟨c, hc, hblank⟩ := hbetween.ink
      exact optionalNote_append hbetween.optional hc hblank k
    · obtain ⟨l, hl, -⟩ | ⟨l, -, hl⟩ := append_eq_append_cons hk
      · exact absurd rfl (hsign ',' (by simp [hl])).2.2.2
      · exact hj.noteFree l y hl

theorem barsForOr_sign {sep : String} (hsep : sep ∈ unionSigns) {j : List Char}
    (hhead : ∀ c ∈ j.head?, isBlank c = false) (h : orBehind? j = none) :
    barsForOr (sep.toList ++ j) = " | ".toList ++ barsForOr j := by
  simp only [unionSigns, List.mem_cons, List.not_mem_nil, or_false] at hsep
  rcases hsep with rfl | rfl
  · have hor : orBehind? ("or ".toList ++ j) = some j :=
      orBehind?_eq_some.2 ⟨[], ' ', j, rfl, nofun, by decide, (trimLeft_of_head? hhead).symm⟩
    have := barsForOr_cons (c := ' ') (b := "or ".toList ++ j)
    rw [hor] at this
    exact this
  · have hbar : orBehind? ('|' :: ' ' :: j) = none := rfl
    have hcons := barsForOr_cons (c := ' ') (b := '|' :: ' ' :: j)
    have hblank := barsForOr_cons (c := ' ') (b := j)
    rw [hbar] at hcons
    rw [h] at hblank
    exact hcons.trans (congrArg (' ' :: ·) ((barsForOr_cons (c := '|')).trans
      (congrArg ('|' :: ·) hblank)))

/-- A type without the word `or`, and more behind it. -/
theorem barsForOr_dropNote_union {sep : String} {j : List Char} (h : PlainOperand t)
    (hj : PlainText j) (hor : orBehind? j = none) (hsep : sep ∈ unionSigns) :
    barsForOr (dropNote defaultNote (t ++ (sep.toList ++ j))) =
      if SaysDefault t then barsForOr (dropNote defaultNote t)
      else t ++ (" | ".toList ++ barsForOr (dropNote defaultNote j)) := by
  have hline {cs : List Char} (h : PlainText cs) : '\n' ∉ cs := fun hmem =>
    (h.unmarked _ hmem).2.2 rfl
  rw [dropNote_default_append (between_of_sign hsep j).default
    (hline (h.toPlainText.union hj hsep))]
  split
  case isTrue => rfl
  case isFalse =>
    have hpre := dropNote_default_isPrefix (hline hj)
    have hsign : dropNote defaultNote (sep.toList ++ j) = sep.toList ++ dropNote defaultNote j :=
      dropNote_append fun x y heq => absurd rfl (sign_unmarked hsep ',' (by simp [heq])).2.2.2
    have hhead : ∀ c ∈ (dropNote defaultNote j).head?, isBlank c = false := fun c hc => by
      obtain ⟨r, hr⟩ := List.head?_eq_some_iff.1 hc
      obtain ⟨s, hs⟩ := hpre
      exact hj.trimmed.head c (by rw [← hs, hr]; rfl)
    have hblank : ∀ c ∈ (sep.toList ++ dropNote defaultNote j).head?, c = ' ' := by
      rw [(between_of_sign hsep _).head]
      rintro c ⟨⟩
      rfl
    rw [hsign, h.barsForOr_append hblank,
      barsForOr_sign hsep hhead (orBehind?_eq_none_of_isPrefix hpre hor)]

/-- Types with a sign between them are the text of a type, which does not begin with the word
`or`. -/
theorem plainText_join {sep : String} (hsep : sep ∈ unionSigns) (hne : ts ≠ [])
    (h : ∀ t ∈ ts, PlainOperand t) :
    PlainText (joinWith sep ts) ∧ orBehind? (joinWith sep ts) = none := by
  induction ts with
  | nil => exact absurd rfl hne
  | cons t ts ih =>
    obtain ⟨ht, hts⟩ := List.forall_mem_cons.1 h
    have front (b : List Char) (hb : ∀ c ∈ b.head?, c = ' ') : orBehind? (t ++ b) = none :=
      orBehind?_eq_none_of_not (x := []) ht.plain (by simp) ht.ne ht.trimmed.last hb
    cases ts with
    | nil => exact ⟨ht.toPlainText, by simpa [joinWith] using front [] (by simp)⟩
    | cons u ts =>
      have hjoin : joinWith sep (t :: u :: ts) = t ++ (sep.toList ++ joinWith sep (u :: ts)) :=
        List.append_assoc ..
      obtain ⟨hj, -⟩ := ih (List.cons_ne_nil u ts) hts
      rw [hjoin]
      refine ⟨ht.toPlainText.union hj hsep, front _ ?_⟩
      rw [(between_of_sign hsep _).head]
      rintro c ⟨⟩
      rfl

theorem barsForOr_join {sep : String} (hsep : sep ∈ unionSigns) (h : ∀ t ∈ ts, PlainOperand t) :
    barsForOr (dropNote defaultNote (joinWith sep ts)) =
      barsForOr (dropNote defaultNote (joinWith " | " ts)) := by
  induction ts with
  | nil => rfl
  | cons t ts ih =>
    obtain ⟨ht, hts⟩ := List.forall_mem_cons.1 h
    cases ts with
    | nil => rfl
    | cons u ts =>
      have hjoin (sep : String) :
          joinWith sep (t :: u :: ts) = t ++ (sep.toList ++ joinWith sep (u :: ts)) :=
        List.append_assoc ..
      have hbar : " | " ∈ unionSigns := by decide
      obtain ⟨hj, hor⟩ := plainText_join hsep (List.cons_ne_nil u ts) hts
      obtain ⟨hj', hor'⟩ := plainText_join hbar (List.cons_ne_nil u ts) hts
      rw [hjoin, hjoin, barsForOr_dropNote_union ht hj hor hsep,
        barsForOr_dropNote_union ht hj' hor' hbar, ih hts]

/-- Types are read the same with `or` and with bars between them. -/
theorem cleanType_join (h : ∀ t ∈ ts, PlainOperand t) :
    cleanType (joinWith " or " ts) = cleanType (joinWith " | " ts) := by
  by_cases hne : ts = []
  · rw [hne]
    rfl
  · have (sep : String) (hsep : sep ∈ unionSigns) :
        cleanType (joinWith sep ts) = trim (barsForOr (dropNote defaultNote (joinWith sep ts))) :=
      (plainText_join hsep hne h).1.cleanType
    rw [this " or " (by decide), this " | " (by decide), barsForOr_join (by decide) h]

theorem readType_congr {a b : List Char} (h : cleanType a = cleanType b) :
    readType (String.ofList a) = readType (String.ofList b) := by
  unfold readType
  rw [String.toList_ofList, String.toList_ofList, h]

/-- Decorated types. What is left of the marks and notes is cleaned up further as the type is; where
no role has a domain and no note is left, it is read as the plain type. Types with the word `or`
between them are read as the same types with bars. -/
theorem readType_decorated (ss : List Stretch) (ns : List Note) (ts : List (List Char))
    (h : PlainText (ss.flatMap Stretch.text)) (hns : ∀ v, Note.default v ∈ ns → '\n' ∉ v)
    (hts : ∀ t ∈ ts, PlainOperand t) :
    cleanType (ss.flatMap Stretch.written ++ ns.flatMap Note.text) =
        trim (barsForOr (dropNote defaultNote
          (ss.flatMap Stretch.residue ++ (leftover ns).flatMap Note.text))) ∧
      ((∀ s ∈ ss, ∀ d w, s.mark ≠ .domainRole d w) → leftover ns = [] →
        readType (String.ofList (ss.flatMap Stretch.written ++ ns.flatMap Note.text)) =
          readType (String.ofList (ss.flatMap Stretch.text))) ∧
      readType (String.ofList (joinWith " or " ts)) =
        readType (String.ofList (joinWith " | " ts)) := by
  have hclean := cleanType_decorated ss ns h hns
  refine ⟨hclean, fun hdomain hleft => readType_congr ?_, readType_congr (cleanType_join hts)⟩
  rw [hclean, residue_eq_text hdomain, hleft, h.cleanType]
  simp

/-- A number in a role with a domain and with notes; a number with a role and notes; a number or
nothing. -/
theorem readType_decorated_int :
    cleanType ":py:class:`int`, optional, default 3".toList = ":pyint, optional".toList ∧
      readType ":class:`int`, default 3, optional" = readType "int" ∧
      readType "int or None" = readType "int | None" := by
  have int : PlainOperand "int".toList := by
    have : PlainType (.name "int") := .name (by decide)
    simpa [print, printAt, text] using this.plainOperand
  have none : PlainOperand "None".toList := PlainType.none.plainOperand
  let cls : RoleWord := ⟨"class".toList, by decide, List.all_eq_true.mp (by decide)⟩
  let py : RoleWord := ⟨"py".toList, by decide, List.all_eq_true.mp (by decide)⟩
  have roled := readType_decorated [⟨.role cls, "int".toList, by decide⟩]
    [.default "3".toList, .optional] ["int".toList, "None".toList] int.toPlainText (by simp) (by
      simpa using ⟨int, none⟩)
  have domained := readType_decorated
    [⟨.domainRole py cls, "int".toList, by decide⟩]
    [.optional, .default "3".toList] [] int.toPlainText (by simp) (by simp)
  exact ⟨domained.1.trans (by decide), roled.2.1 (by simp) rfl, roled.2.2⟩

end Exemplar.Docstring
