import Exemplar.Proofs.Callables
import Exemplar.Proofs.Lexer.Laid
import Exemplar.Proofs.Parser.Rows

/-
  Where statements stand. The tokens of a source stand in its characters, and its statements in its
  tokens; so its statements stand in its characters one behind the other (`Placed`). A declaration
  starts where its own front is written, be it a word or a name in parentheses or not, and stops
  behind it (`parseFile_placed`).

  Where the callables of a file stand in its text. The statements of an accepted text stand in it
  one behind the other, so the callables span stretches of it that do not overlap, each from the
  front of its declaration on, and the index of lines leads from an anchor back to the line of the
  declaration and the characters before it (`callables_placed`). The text may end its lines in any
  way, hold any characters and put several statements on a line.
-/

namespace Exemplar

open Syntax Syntax.Parser

namespace Syntax

/-- The characters are a name, in parentheses or not. -/
inductive Target (n : String) : List Char → Prop
  | name : Target n n.toList
  | group {g t g' : List Char} (hg : Gap g) (ht : Target n t) (hg' : Gap g') :
    Target n ('(' :: g ++ t ++ g' ++ [')'])

end Syntax

/-- The characters of what stands at the front. -/
def Front.Written : Front → List Char → Prop
  | .function isAsync, cs => cs = (functionWord isAsync).toList
  | .target n, cs => Target n cs

namespace Syntax.Parser

variable {p : Place} {cs gap taken rest : List Char} {t : Token} {ts us own : List Token}

/-! ## The last place of some tokens -/

/-- Where the last token stops that is no mark of layout; another place if there is none. -/
def lastStop (q : Place) (ts : List Token) : Place :=
  (ts.filter (!·.lexeme.isLayout)).getLast?.elim q (·.stop)

theorem lastStop_mark (q : Place) (ht : t.lexeme.isLayout = true) :
    lastStop q (t :: ts) = lastStop q ts := by
  unfold lastStop
  rw [List.filter_cons_of_neg (by rw [ht]; decide)]

theorem lastStop_solid (q : Place) (ht : t.lexeme.isLayout = false) :
    lastStop q (t :: ts) = lastStop t.stop ts := by
  unfold lastStop
  rw [List.filter_cons_of_pos (by rw [ht]; rfl), List.getLast?_cons]
  cases (ts.filter (!·.lexeme.isLayout)).getLast? <;> rfl

theorem lastStop_append (q : Place) (ts us : List Token) :
    lastStop q (ts ++ us) = lastStop (lastStop q ts) us := by
  induction ts generalizing q with
  | nil => rfl
  | cons t ts ih =>
    cases ht : t.lexeme.isLayout with
    | true => rw [List.cons_append, lastStop_mark q ht, lastStop_mark q ht, ih]
    | false => rw [List.cons_append, lastStop_solid q ht, lastStop_solid q ht, ih]

/-! ## Tokens in a text -/

/-- Tokens take a stretch of a text behind a gap, and others stand in the rest. -/
structure Stretch (p : Place) (cs : List Char) (own ts : List Token) (gap taken rest : List Char) :
    Prop where
  text : cs = gap ++ (taken ++ rest)
  fill : Gap gap
  starts : ∃ t more, own = t :: more ∧ t.lexeme.isLayout = false ∧ t.start = p.afterAll gap
  stops : ∀ q, lastStop q own = (p.afterAll gap).afterAll taken
  rest : Laid ((p.afterAll gap).afterAll taken) rest ts

/-- One token that is no mark of layout. -/
theorem Stretch.single (ht : t.lexeme.isLayout = false) (h : Laid p cs (t :: ts)) :
    ∃ gap taken rest, Stretch p cs [t] ts gap taken rest ∧ taken ≠ [] ∧
      CharsOf t.lexeme taken := by
  cases h with
  | mark hmark => rw [ht] at hmark; cases hmark
  | token hcs hgap hc hx hstart hstop h =>
    rw [hstart] at hstop
    rw [hstop] at h
    exact ⟨_, _, _, ⟨hcs, hgap, ⟨t, [], rfl, ht, hstart⟩, fun q => (lastStop_solid q ht).trans hstop,
      h⟩, List.cons_ne_nil _ _, hx⟩

/-- Some tokens stand in the front of the text, and the others in what is left. -/
theorem laid_pass (own : List Token) (h : Laid p cs (own ++ ts)) : ∃ taken rest, cs = taken ++ rest ∧
    lastStop p own = p.afterAll taken ∧ Laid (p.afterAll taken) rest ts := by
  induction own generalizing p cs with
  | nil => exact ⟨[], cs, rfl, rfl, h⟩
  | cons t own ih =>
    cases ht : t.lexeme.isLayout with
    | true =>
      rw [lastStop_mark p ht]
      cases h with
      | mark _ h => exact ih h
      | token _ _ _ hx => rw [hx.solid] at ht; cases ht
    | false =>
      obtain ⟨gap, taken, rest, hone, -⟩ := Stretch.single ht h
      obtain ⟨more, rest, rfl, hstop, hrest⟩ := ih hone.rest
      refine ⟨gap ++ taken ++ more, rest, ?_, ?_, ?_⟩
      · rw [hone.text]
        simp only [List.append_assoc]
      · have hlast : t.stop = _ := (lastStop_solid p ht).symm.trans (hone.stops p)
        rw [lastStop_solid p ht, Place.afterAll_append, Place.afterAll_append, ← hstop, hlast]
      · rw [Place.afterAll_append, Place.afterAll_append]
        exact hrest

/-- Two stretches with a gap between them. -/
theorem Stretch.append {gap' taken' rest' : List Char} (h : Stretch p cs own (us ++ ts) gap taken rest)
    (h' : Stretch ((p.afterAll gap).afterAll taken) rest us ts gap' taken' rest') :
    Stretch p cs (own ++ us) ts gap (taken ++ gap' ++ taken') rest' := by
  refine ⟨?_, h.fill, ?_, fun q => ?_, ?_⟩
  · rw [h.text, h'.text]
    simp only [List.append_assoc]
  · obtain ⟨t, r, rfl, ht⟩ := h.starts
    exact ⟨t, r ++ us, rfl, ht⟩
  · rw [lastStop_append, h'.stops, Place.afterAll_append, Place.afterAll_append]
  · rw [Place.afterAll_append, Place.afterAll_append]
    exact h'.rest

/-- More tokens go with those in front. -/
theorem Stretch.extend (h : Stretch p cs own (us ++ ts) gap taken rest) :
    ∃ more rest', Stretch p cs (own ++ us) ts gap (taken ++ more) rest' := by
  obtain ⟨more, rest', rfl, hstop, hrest⟩ := laid_pass us h.rest
  refine ⟨more, rest', ?_, h.fill, ?_, fun q => ?_, ?_⟩
  · rw [h.text, List.append_assoc]
  · obtain ⟨t, r, rfl, ht⟩ := h.starts
    exact ⟨t, r ++ us, rfl, ht⟩
  · rw [lastStop_append, h.stops q, hstop, ← Place.afterAll_append]
  · rw [Place.afterAll_append]
    exact hrest

/-- The last of the characters is no line end. -/
def EndsSolid (cs : List Char) : Prop := ∃ r c, cs = r ++ [c] ∧ c ≠ '\n'

theorem endsSolid_of_not_mem (hne : cs ≠ []) (h : '\n' ∉ cs) : EndsSolid cs :=
  ⟨cs.dropLast, cs.getLast hne, (List.dropLast_concat_getLast hne).symm,
    fun heq => h (heq ▸ List.getLast_mem hne)⟩

theorem stretch_word {w : String} (ht : t.lexeme = .word w) (h : Laid p cs (t :: ts)) :
    ∃ gap rest, Stretch p cs [t] ts gap w.toList rest ∧ EndsSolid w.toList := by
  obtain ⟨gap, taken, rest, hone, hne, hx⟩ := Stretch.single (by rw [ht]; rfl) h
  obtain ⟨rfl, hline⟩ := hx.word w ht
  exact ⟨gap, rest, hone, endsSolid_of_not_mem hne hline⟩

theorem stretch_sign {s : String} (ht : t.lexeme = .op s) (h : Laid p cs (t :: ts)) :
    ∃ gap rest, Stretch p cs [t] ts gap s.toList rest := by
  obtain ⟨gap, taken, rest, hone, -, hx⟩ := Stretch.single (by rw [ht]; rfl) h
  obtain rfl := hx.op s ht
  exact ⟨gap, rest, hone⟩

/-- A name in parentheses or not is written as one. -/
theorem stretch_grouped {n : String} (hown : Grouped n own) (h : Laid p cs (own ++ ts)) :
    ∃ gap taken rest, Stretch p cs own ts gap taken rest ∧ Target n taken ∧ EndsSolid taken := by
  induction hown generalizing p cs ts with
  | name ht =>
    obtain ⟨gap, rest, hone, hend⟩ := stretch_word ht h
    exact ⟨gap, n.toList, rest, hone, .name, hend⟩
  | @group o c own ho hts hc ih =>
    rw [List.cons_append] at h
    obtain ⟨gap, rest, hopen⟩ := stretch_sign ho h
    have hrest := hopen.rest
    rw [List.append_assoc] at hrest
    obtain ⟨gap', taken, rest', hinner, htarget, -⟩ := ih hrest
    obtain ⟨gap'', rest'', hclose⟩ := stretch_sign hc hinner.rest
    have whole := hopen.append (hinner.append hclose)
    have hchars : "(".toList ++ gap' ++ (taken ++ gap'' ++ ")".toList) =
        '(' :: gap' ++ taken ++ gap'' ++ [')'] := by simp
    rw [hchars] at whole
    exact ⟨gap, _, rest'', whole, .group hinner.fill htarget hclose.fill, _, _, rfl, by decide⟩

/-- What stands at the front of a statement is written there. -/
theorem stretch_front {f : Front} (hown : f.Spelled own) (h : Laid p cs (own ++ ts)) :
    ∃ gap taken rest, Stretch p cs own ts gap taken rest ∧ f.Written taken ∧ EndsSolid taken := by
  cases f with
  | function isAsync =>
    obtain ⟨t, rfl, ht⟩ := hown
    obtain ⟨gap, rest, hone, hend⟩ := stretch_word ht h
    exact ⟨gap, _, rest, hone, rfl, hend⟩
  | target n => exact stretch_grouped hown h

/-! ## Statements in a text -/

/-- The statements stand in a text that begins at a place, and what is declared stands at the front
of its statement. -/
inductive Placed : Place → List Char → List Stmt → Prop
  | done {p : Place} {cs : List Char} : Placed p cs []
  | other {p : Place} {taken rest : List Char} {s : Stmt} {ss : List Stmt}
      (hs : s.action.front? = none) (h : Placed (p.afterAll taken) rest ss) :
      Placed p (taken ++ rest) (s :: ss)
  | declared {p : Place} {gap front more rest : List Char} {s : Stmt} {ss : List Stmt} {f : Front}
      (hf : s.action.front? = some f) (hw : f.Written front) (hend : EndsSolid front)
      (hstart : s.start = p.afterAll gap) (hstop : s.stop = s.start.afterAll (front ++ more))
      (h : Placed s.stop rest ss) : Placed p (gap ++ (front ++ more ++ rest)) (s :: ss)

theorem Placed.behind {g : List Char} {ss : List Stmt} (h : Placed (p.afterAll g) cs ss) :
    Placed p (g ++ cs) ss := by
  cases h with
  | done => exact .done
  | other hs h =>
    rw [← Place.afterAll_append] at h
    rw [← List.append_assoc]
    exact .other hs h
  | declared hf hw hend hstart hstop h =>
    rw [← Place.afterAll_append] at hstart
    rw [← List.append_assoc]
    exact .declared hf hw hend hstart hstop h

theorem placed_of_rows {ss : List Stmt} (hrows : Rows own ss) (h : Laid p cs (own ++ ts)) :
    Placed p cs ss := by
  induction hrows generalizing p cs with
  | nil => exact .done
  | skip t _ ih =>
    obtain ⟨taken, rest, rfl, -, hrest⟩ := laid_pass [t] h
    exact .behind (ih hrest)
  | @row own us s ss hs _ ih =>
    rw [List.append_assoc] at h
    cases hf : s.action.front? with
    | none =>
      obtain ⟨taken, rest, rfl, -, hrest⟩ := laid_pass own h
      exact .other hf (ih hrest)
    | some f =>
      obtain ⟨front, more, rfl, hspelled⟩ := hs.opens f hf
      rw [List.append_assoc] at h
      obtain ⟨gap, taken, rest, hfront, hw, hend⟩ := stretch_front hspelled h
      obtain ⟨more', rest', hwhole⟩ := hfront.extend
      have hstart : s.start = p.afterAll gap := by
        obtain ⟨t, r, heq, ht, hplace⟩ := hwhole.starts
        rw [hs.start, heq, ← hplace]
        unfold extent
        rw [List.filter_cons_of_pos (by rw [ht]; rfl)]
        rfl
      have hstop : s.stop = s.start.afterAll (taken ++ more') := by
        rw [hs.stop, hstart, ← hwhole.stops default]
        rfl
      rw [hwhole.text]
      refine .declared hf hw hend hstart hstop (ih ?_)
      rw [hstop, hstart]
      exact hwhole.rest

end Syntax.Parser

namespace Syntax

open Exemplar.Syntax.Parser

/-- The statements of a source stand in it. -/
theorem parseFile_placed {cs : List Char} {body : List Stmt} (h : parseFile? cs = some body) :
    Placed ⟨1, 0⟩ cs body := by
  obtain ⟨own, rest, htokens, hrows⟩ := parseFile_rows h
  exact placed_of_rows hrows (lex_laid htokens)

end Syntax

end Exemplar

namespace Exemplar

/-! ## Callables -/

open Syntax Syntax.Parser

/-- What stands at the front is written at the front of a text, up to how its lines end. -/
def Front.Stands : Front → List Char → Prop
  | .function isAsync, text => (functionWord isAsync).toList <+: text
  | .target n, text => ∃ target rest, text = target ++ rest ∧ Target n (Text.unifyLineEnds target)

namespace Text

theorem endLine_prefix (cs : List Char) : endLine cs <+: cs ++ ['\n'] := by
  unfold endLine
  split
  · exact List.prefix_append cs ['\n']
  · exact List.prefix_rfl

/-- A line end behind a text is no part of what ends with another character. -/
theorem prefix_of_endsSolid {cs ds u : List Char} (hds : EndsSolid ds)
    (h : cs ++ ds <+: u ++ ['\n']) : cs ++ ds <+: u := by
  obtain ⟨r, c, rfl, hc⟩ := hds
  obtain heq | hpre := List.prefix_concat_iff.mp h
  · rw [← List.append_assoc] at heq
    exact absurd (List.cons.inj (List.append_inj' heq rfl).2).1 hc
  · exact hpre

theorem rawLength_append (text a b : List Char) :
    rawLength text a.length ≤ rawLength text (a ++ b).length := by
  rw [List.length_append]
  exact rawLength_mono (Nat.le_add_right ..)

/-- What the front of a unified text was made of. -/
theorem unified_front {text front r : List Char} (h : unifyLineEnds text = front ++ r) :
    ∃ raw rest, text = raw ++ rest ∧ unifyLineEnds raw = front := by
  refine ⟨text.take (rawLength text front.length), text.drop (rawLength text front.length),
    (List.take_append_drop ..).symm, ?_⟩
  rw [unifyLineEnds_take, h, List.take_left]

end Text

theorem Front.stands_of_written {f : Front} {front text r : List Char} (hw : f.Written front)
    (h : Text.unifyLineEnds text = front ++ r) : f.Stands text := by
  obtain ⟨raw, rest, rfl, hraw⟩ := Text.unified_front h
  cases f with
  | function isAsync =>
    obtain rfl : front = (functionWord isAsync).toList := hw
    have hline : '\n' ∉ Text.unifyLineEnds raw := by
      rw [hraw]
      cases isAsync <;> decide
    rw [Text.unifyLineEnds_of_not_mem hline] at hraw
    exact ⟨rest, by rw [hraw]⟩
  | target n => exact ⟨raw, rest, rfl, by rw [hraw]; exact hw⟩

namespace Callables

/-- A stretch of a text is where a statement declares something: it begins with the front of the
declaration, on the line of the statement and behind the characters before it on that line. -/
structure Spot (text : List Char) (s : Stmt) (anchor stop : Nat) : Prop where
  nonempty : anchor < stop
  inside : stop ≤ text.length
  front : ∃ f ∈ s.action.front?, f.Stands (text.drop anchor)
  line : s.start.line = Text.lineEnds (text.take anchor) + 1
  position : (LineIndex.ofText text).position anchor =
    (s.start.line, Text.sinceLineEnd (text.take anchor) + 1)

/-- A declaration whose statement stands behind some characters of a text. -/
theorem spot_of_written {text before front more : List Char} {s : Stmt} {f : Front}
    (hpre : before ++ (front ++ more) <+: Text.unifyLineEnds text ++ ['\n'])
    (hf : s.action.front? = some f) (hw : f.Written front) (hend : EndsSolid front)
    (hstart : s.start = (⟨1, 0⟩ : Place).afterAll before)
    (hstop : s.stop = (⟨1, 0⟩ : Place).afterAll (before ++ (front ++ more))) :
    Spot text s (Text.rawLength text before.length)
      (Text.rawLength text (before ++ (front ++ more)).length) := by
  have hfront : before ++ front <+: Text.unifyLineEnds text := by
    refine Text.prefix_of_endsSolid hend (List.IsPrefix.trans ?_ hpre)
    rw [← List.append_assoc]
    exact List.prefix_append _ more
  have hne : 0 < front.length := by
    obtain ⟨r, c, rfl, -⟩ := hend
    simp
  have hlt : before.length < (Text.unifyLineEnds text).length := by
    have hle := hfront.length_le
    rw [List.length_append] at hle
    omega
  have hline : s.start.line =
      Text.lineEnds (text.take (Text.rawLength text before.length)) + 1 := by
    have hbefore : (Text.unifyLineEnds text).take before.length = before :=
      (List.prefix_iff_eq_take.mp ((List.prefix_append ..).trans hfront)).symm
    unfold Text.lineEnds
    rw [Text.unifyLineEnds_take, hbefore, hstart, Place.afterAll_line, Nat.add_comm]
  refine ⟨Text.rawLength_lt ?_ hlt, Text.rawLength_le .., ⟨f, hf, ?_⟩, hline, ?_⟩
  · simp only [List.length_append]
    omega
  · obtain ⟨r, hr⟩ := hfront
    refine Front.stands_of_written (r := r) hw ?_
    rw [Text.unifyLineEnds_drop, ← hr, List.append_assoc, List.drop_left]
  · rw [LineIndex.position_rawLength hlt, ← hline]

/-- A declaration spans the characters that its statement stands in. -/
theorem span_of_written {text before taken : List Char} {s : Stmt} {d : Declared}
    (hpre : before ++ taken <+: Text.unifyLineEnds text ++ ['\n'])
    (hstart : s.start = (⟨1, 0⟩ : Place).afterAll before)
    (hstop : s.stop = (⟨1, 0⟩ : Place).afterAll (before ++ taken))
    (hd : declared? (.ofText text) s = some d) :
    d.anchor = Text.rawLength text before.length ∧
      d.stop = Text.rawLength text (before ++ taken).length := by
  obtain ⟨hanchor, hend⟩ := span_of_declared hd
  rw [hanchor, hend, ← LineIndex.offsetOf_prefix hpre, ← hstop,
    ← LineIndex.offsetOf_prefix ((List.prefix_append ..).trans hpre), ← hstart]
  exact ⟨rfl, rfl⟩

theorem front_of_declared {lines : LineIndex} {s : Stmt} {d : Declared}
    (h : declared? lines s = some d) : s.action.front? ≠ none := by
  intro hf
  unfold declared? at h
  split at h
  · rename_i heq
    rw [heq] at hf
    cases hf
  · rename_i heq
    rw [heq] at hf
    cases hf
  · rename_i heq
    rw [heq] at hf
    cases hf
  · cases h

/-- From a place of a text on, the declarations of statements follow each other, and each stands
where its statement declares it. -/
structure SpotsFrom (text : List Char) (place : Nat) (ss : List Stmt) : Prop where
  spots : ∀ s ∈ ss, ∀ d, declared? (.ofText text) s = some d →
    place ≤ d.anchor ∧ Spot text s d.anchor d.stop
  pairs : (ss.filterMap (declared? (.ofText text))).Pairwise (·.stop ≤ ·.anchor)

/-- A statement in front of others declares nothing, or what ends before them. -/
theorem SpotsFrom.cons {text : List Char} {place behind : Nat} {s : Stmt} {ss : List Stmt}
    (hss : SpotsFrom text behind ss) (hle : place ≤ behind)
    (h : ∀ d, declared? (.ofText text) s = some d →
      place ≤ d.anchor ∧ d.stop ≤ behind ∧ Spot text s d.anchor d.stop) :
    SpotsFrom text place (s :: ss) := by
  refine ⟨List.forall_mem_cons.mpr ⟨fun d hd => ?_, fun s hs d hd => ?_⟩, ?_⟩
  · obtain ⟨hplace, -, spot⟩ := h d hd
    exact ⟨hplace, spot⟩
  · obtain ⟨hplace, spot⟩ := hss.spots s hs d hd
    exact ⟨Nat.le_trans hle hplace, spot⟩
  · cases hd : declared? (.ofText text) s with
    | none =>
      rw [List.filterMap_cons_none hd]
      exact hss.pairs
    | some d =>
      rw [List.filterMap_cons_some hd]
      refine List.pairwise_cons.mpr ⟨fun e he => ?_, hss.pairs⟩
      obtain ⟨s', hs', he⟩ := List.mem_filterMap.mp he
      obtain ⟨-, hstop, -⟩ := h d hd
      exact Nat.le_trans hstop (hss.spots s' hs' e he).1

/-- The declarations of statements that stand behind some characters of a text. -/
theorem spots_of_placed {text before cs : List Char} {ss : List Stmt}
    (h : Placed ((⟨1, 0⟩ : Place).afterAll before) cs ss)
    (hpre : before ++ cs <+: Text.unifyLineEnds text ++ ['\n']) :
    SpotsFrom text (Text.rawLength text before.length) ss := by
  generalize hp : (⟨1, 0⟩ : Place).afterAll before = p at h
  induction h generalizing before with
  | done => exact ⟨nofun, .nil⟩
  | @other p taken rest s ss hs _ ih =>
    have hafter : (⟨1, 0⟩ : Place).afterAll (before ++ taken) = p.afterAll taken := by
      rw [Place.afterAll_append, hp]
    rw [← List.append_assoc] at hpre
    exact (ih hpre hafter).cons (Text.rawLength_append ..) fun d hd =>
      absurd hs (front_of_declared hd)
  | @declared p gap front more rest s ss f hf hw hend hstart hstop _ ih =>
    have hfirst : s.start = (⟨1, 0⟩ : Place).afterAll (before ++ gap) := by
      rw [hstart, Place.afterAll_append, hp]
    have hlast : s.stop = (⟨1, 0⟩ : Place).afterAll (before ++ gap ++ (front ++ more)) := by
      rw [hstop, hfirst, Place.afterAll_append _ (before ++ gap)]
    rw [← List.append_assoc, ← List.append_assoc] at hpre
    have hwritten := (List.prefix_append _ rest).trans hpre
    have spot := spot_of_written hwritten hf hw hend hfirst hlast
    refine (ih hpre hlast.symm).cons ?_ fun d hd => ?_
    · exact Nat.le_trans (Text.rawLength_append ..) (Text.rawLength_append ..)
    · obtain ⟨hanchor, hstop⟩ := span_of_written hwritten hfirst hlast hd
      rw [hanchor, hstop]
      exact ⟨Text.rawLength_append .., Nat.le_refl _, spot⟩

/-- The callables of an accepted text stand in it one behind the other, without overlap. Each spans
a stretch that begins with the function or the name, in parentheses or not, that its statement
declares; the index of lines has its anchor on the line of that statement, one column behind the
characters before it on that line. -/
theorem callables_placed {filename : String} {text : List Char} {m : Module} {cs : List Callable}
    (h : Module.parse filename text = .ok m) (hcs : ofFile text m.body = .ok cs) :
    cs.Pairwise (·.stop ≤ ·.anchor) ∧
      ∀ c ∈ cs, ∃ s ∈ m.body, ∃ d, declared? (.ofText text) s = some d ∧
        d.read (.ofStmts m.body) = .ok c ∧ Spot text s c.anchor c.stop := by
  obtain ⟨-, hparse, -⟩ := Module.body_of_parse h
  have hplaced : Placed ((⟨1, 0⟩ : Place).afterAll []) _ m.body := parseFile_placed hparse
  obtain ⟨hspots, hpairs⟩ := spots_of_placed hplaced (Text.endLine_prefix _)
  constructor
  · obtain ⟨-, rfl⟩ := (Declared.read_answers.list _ cs).mp hcs
    exact List.pairwise_map.mpr hpairs
  · intro c hc
    obtain ⟨s, hs, d, hd, hread⟩ := exists_declared hcs hc
    obtain ⟨-, rfl⟩ := (Declared.read_answers d c).mp hread
    exact ⟨s, hs, d, hd, hread, (hspots s hs d hd).2⟩

/-- The callables of a text, if it is accepted and they can be read. -/
def ofText? (text : List Char) : Option (List Callable) :=
  match Module.parse "" text with
  | .error _ => none
  | .ok m => (ofFile text m.body).toOption

theorem exists_of_ofText? {text : List Char} {cs : List Callable} (h : ofText? text = some cs) :
    ∃ m, Module.parse "" text = .ok m ∧ ofFile text m.body = .ok cs := by
  unfold ofText? at h
  split at h
  · cases h
  · rename_i m hm
    refine ⟨m, hm, ?_⟩
    cases hcs : ofFile text m.body with
    | error e => rw [hcs] at h; cases h
    | ok cs => rw [hcs] at h; cases h; rfl

/-- A file with line ends of every kind, a decorator, a form feed, statements that share a line and
characters of more than one byte. -/
def mixedLines : List Char :=
  "@'é'\r\ndef f(): 0\r'é'; (\\\r\ng) = lambda: 1; 0\n\x0casync def h(): 0".toList

set_option maxRecDepth 20000 in
theorem ofText?_mixedLines :
    (ofText? mixedLines).map (fun cs => cs.map fun c => (c.anchor, c.stop,
      (LineIndex.ofText mixedLines).position c.anchor)) =
        some [(6, 16, 2, 1), (22, 40, 3, 6), (45, 61, 5, 2)] := by
  decide +kernel

/-- A function behind its decorator, a name in parentheses over two lines and a function behind a
form feed. -/
theorem callables_placed_mixedLines :
    ∃ m cs, Module.parse "" mixedLines = .ok m ∧ ofFile mixedLines m.body = .ok cs ∧
      cs.map (fun c => (c.anchor, c.stop, (LineIndex.ofText mixedLines).position c.anchor)) =
        [(6, 16, 2, 1), (22, 40, 3, 6), (45, 61, 5, 2)] ∧
      cs.Pairwise (·.stop ≤ ·.anchor) ∧
      ∀ c ∈ cs, ∃ s ∈ m.body, Spot mixedLines s c.anchor c.stop := by
  obtain ⟨cs, hcs, hplaces⟩ := Option.map_eq_some_iff.mp ofText?_mixedLines
  obtain ⟨m, hm, hcs⟩ := exists_of_ofText? hcs
  obtain ⟨hpairs, hspots⟩ := callables_placed hm hcs
  refine ⟨m, cs, hm, hcs, hplaces, hpairs, fun c hc => ?_⟩
  obtain ⟨s, hs, -, -, -, spot⟩ := hspots c hc
  exact ⟨s, hs, spot⟩

end Callables

end Exemplar
