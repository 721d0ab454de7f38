import Exemplar.CommandLine.Execution
import Exemplar.Proofs.Evaluation
import Exemplar.Proofs.Json.Documents
import Exemplar.Proofs.LineIndex

/-
  How a command with output for programs ends. Most ways to fail come down to one line that holds an
  error, and a file that can be read comes down to one line that lists its declarations. Five things
  escape as exceptions of their own (`Escapes`): a file for log records that cannot be opened, a
  path that the system refuses for its length, bytes that are no UTF-8, a hint or a documentation
  that cannot be read, and an integer in a shape that is too long to be shown.
-/

namespace Exemplar.CommandLine

open Callables (declarations)
open Json (Integral IsShort)

/-! ## Reading a source file -/

/-- Why the text of a source file is not had, other than by a fault. -/
inductive Unread (files : FileTree) (p : FilePath) : Raised → Prop
  | path (h : files.isTooLong p = true) :
    Unread files p (SystemFailure.raised ⟨.nameTooLong, p.text⟩)
  | encoding {bytes fault} (hp : files.isTooLong p = false)
      (hfile : files.lookup p = some (.file bytes))
      (hsuffix : FileTree.sourceSuffixes.contains p.suffix = true)
      (h : Utf8.decode bytes = .error fault) :
    Unread files p ⟨"UnicodeDecodeError", fault.message⟩

theorem readSource_other_iff {files : FileTree} {p : FilePath} {e : Raised} :
    files.readSource p = .error (.other e) ↔ Unread files p e := by
  unfold FileTree.readSource
  constructor
  · intro h
    split at h
    · cases h
      exact .path ‹_›
    · split at h
      · split at h
        · split at h
          · cases h
          · cases h
            exact .encoding (Bool.eq_false_iff.mpr ‹_›) ‹_› ‹_› ‹_›
        · cases h
      · cases h
  · rintro (hlong | ⟨hp, hfile, hsuffix, hdecode⟩)
    · rw [if_pos hlong]
    · rw [if_neg (Bool.eq_false_iff.mp hp), hfile]
      simp only [hsuffix, if_true, hdecode]

theorem load_other_iff {files : FileTree} {p : FilePath} {e : Raised} :
    load files p = .error (.other e) ↔ Unread files p e := by
  rw [← readSource_other_iff]
  unfold load
  cases files.readSource p with
  | error e' =>
    constructor
    · rintro ⟨⟩
      rfl
    · rintro ⟨⟩
      rfl
  | ok text =>
    dsimp only [bind, Except.bind]
    cases Module.parse p.text text with
    | ok m | error f =>
      constructor
      · rintro ⟨⟩
      · rintro ⟨⟩

/-! ## What a command writes -/

/-- The line that programs read for a document. -/
def lineOf (j : Json) : String := j.toAscii ++ "\n"

/-- The document for a fault. -/
def faultJson (f : Fault) : Json := .obj [("error", .str f.message)]

/-- The document that lists the declarations of a module, each with its annotation or, where nothing
is run, with its parameters. -/
inductive Lists (m : Module) : Command → Json → Prop
  | run {path options showOutput} {as : List Annotation}
      (h : as.map (fun a => (a.name, a.anchor)) = (declarations m).map fun d => (d.name, d.anchor)) :
    Lists m (.run path options showOutput) (.obj [("file", .str (FilePath.ofText path).text),
      ("annotations", .arr (as.map (annotationJson (.ofText m.text) showOutput)))])
  | signatures {path} :
    Lists m (.signatures path) (.obj [("table", .obj [
      ("title", .str (FilePath.ofText path).text),
      ("columns", .arr [.str "Location", .str "Name", .str "Parameters"]),
      ("rows", .arr ((declarations m).map fun d => .arr [.str (place (.ofText m.text) d.anchor),
        .str d.name, .str (describeParameters (d.callable (.ofStmts m.body)).parameters)]))])])

theorem integral_annotationJson {ok : Int → Prop} {lines : LineIndex} {a : Annotation}
    (hline : ok (lines.position a.anchor).1) (hcolumn : ok (lines.position a.anchor).2)
    (hanchor : ok a.anchor) (showOutput : Bool) :
    Integral ok (annotationJson lines showOutput a) := by
  unfold annotationJson
  refine .obj fun p hp => ?_
  simp only [List.mem_cons, List.not_mem_nil, or_false] at hp
  rcases hp with rfl | rfl | rfl | rfl | rfl | rfl | rfl | rfl | rfl | rfl | rfl
  · exact .str _
  · exact .int hline
  · exact .int hcolumn
  · exact .int hanchor
  · exact .str _
  · exact .str _
  · exact .bool _
  · exact .ofOption _
  · exact .ofOption _
  · exact .ofOption _
  · cases showOutput
    · exact .null
    · exact .str _

theorem integral_faultJson {ok : Int → Prop} (f : Fault) : Integral ok (faultJson f) :=
  .obj (List.forall_mem_singleton.mpr (.str f.message))

/-- The integers of a listing are places in the text. -/
theorem Lists.integral {m : Module} {c : Command} {j : Json} (h : Lists m c j) {ok : Int → Prop}
    (hok : ∀ n : Nat, n ≤ m.text.length + 1 → ok n) : Integral ok j := by
  cases h with
  | @run path options showOutput as h =>
    refine .obj (List.forall_mem_cons.mpr ⟨.str _, List.forall_mem_singleton.mpr (.arr ?_)⟩)
    intro x hx
    obtain ⟨a, ha, rfl⟩ := List.mem_map.mp hx
    have hmem : (a.name, a.anchor) ∈ (declarations m).map fun d => (d.name, d.anchor) :=
      h ▸ List.mem_map_of_mem ha
    obtain ⟨d, hd, heq⟩ := List.mem_map.mp hmem
    have hanchor : a.anchor ≤ m.text.length := (Prod.mk.inj heq).2 ▸ Callables.anchor_le hd
    have hplace := LineIndex.position_le m.text a.anchor
    exact integral_annotationJson (hok _ hplace.1) (hok _ hplace.2) (hok _ (by omega)) showOutput
  | signatures =>
    have texts (xs : List Json) (h : ∀ x ∈ xs, ∃ s, x = .str s) : Integral ok (.arr xs) :=
      .arr fun x hx => by
        obtain ⟨s, rfl⟩ := h x hx
        exact .str s
    refine .obj (List.forall_mem_singleton.mpr (.obj (List.forall_mem_cons.mpr ⟨.str _,
      List.forall_mem_cons.mpr ⟨texts _ ?_, List.forall_mem_singleton.mpr (.arr ?_)⟩⟩)))
    · simp
    · intro x hx
      obtain ⟨d, -, rfl⟩ := List.mem_map.mp hx
      exact texts _ (by simp)

/-- A line holds nothing but printable characters before its end. -/
theorem line_lineOf {ok : Int → Prop} {j : Json} (h : Integral ok j) :
    ∀ ch ∈ j.toAscii.toList, Json.isPrintable ch = true := by
  unfold Json.toAscii
  rw [String.toList_ofList]
  exact h.isPrintable

/-- A line reads as its document. -/
theorem read_lineOf {j : Json} (h : Json.Legible j) : Json.read? (lineOf j) = some j := by
  have hread : Json.read (Json.write true j ++ ['\n']) = .ok j :=
    h.read_written (List.forall_mem_singleton.mpr rfl)
  unfold Json.read? lineOf Json.toAscii
  rw [String.toList_append, String.toList_ofList]
  show (Json.read (Json.write true j ++ ['\n'])).toOption = _
  rw [hread]
  rfl

/-! ## Commands -/

/-- What is wrong with the options of a command in an environment. -/
def Command.fault? (env : Environment) : Command → Option Fault
  | .run _ options _ =>
    match Settings.ofOptions env options with
    | .error f => some f
    | .ok _ => none
  | .signatures _ => none

/-- The fault that stops a command: one of its options, or else one of the source file. -/
inductive Refused (s : Surroundings) (c : Command) : Fault → Prop
  | options {f} (h : c.fault? s.environment = some f) : Refused s c f
  | source {f} (hc : c.fault? s.environment = none)
      (h : load s.files (.ofText c.path) = .error (.fault f)) : Refused s c f

/-- The exceptions that escape a command. -/
inductive Breaks (s : Surroundings) (c : Command) : Raised → Prop
  | source {e} (hc : c.fault? s.environment = none) (h : Unread s.files (.ofText c.path) e) :
    Breaks s c e
  | hint {m f} (hc : c.fault? s.environment = none)
      (hm : load s.files (.ofText c.path) = .ok m)
      (hd : ∃ d ∈ declarations m, ¬d.Readable (.ofStmts m.body))
      (hf : Callables.ofFile m.text m.body = .error f) : Breaks s c (Session.hintRaised f)
  | integer {path m} (hc : c = .signatures path) (hm : load s.files (.ofText c.path) = .ok m)
      (hd : ∀ d ∈ declarations m, d.Readable (.ofStmts m.body))
      (hl : ∃ d ∈ declarations m, ∃ p ∈ (d.callable (.ofStmts m.body)).parameters,
        p.shape.holdsLong = true) : Breaks s c Decimal.longInteger

/-- The code and the document that a command ends with: it lists the declarations or names a
fault. -/
inductive Concludes (s : Surroundings) (c : Command) : Nat → Json → Prop
  | lists {m j} (hm : load s.files (.ofText c.path) = .ok m) (hj : Lists m c j) :
    Concludes s c 0 j
  | refuses {f} (hf : Refused s c f) : Concludes s c 1 (faultJson f)

/-- How the program ends with one line that holds a document. -/
def endedWith (code : Nat) (j : Json) : Ended := ⟨code, { lines := lineOf j }⟩

/-- The callables of a module, or a declaration that cannot be read. -/
theorem ofFile_cases (m : Module) :
    (∃ f, Callables.ofFile m.text m.body = .error f ∧
      ∃ d ∈ declarations m, ¬d.Readable (.ofStmts m.body)) ∨
    (∀ d ∈ declarations m, d.Readable (.ofStmts m.body)) ∧
      Callables.ofFile m.text m.body =
        .ok ((declarations m).map (Callables.Declared.callable (.ofStmts m.body))) := by
  have hread := Callables.Declared.read_answers (t := .ofStmts m.body)
  by_cases h : ∀ d ∈ declarations m, d.Readable (.ofStmts m.body)
  · exact .inr ⟨h, (hread.list _ _).mpr ⟨h, rfl⟩⟩
  · cases hf : Callables.ofFile m.text m.body with
    | ok cs => exact absurd ((hread.list _ _).mp hf).1 h
    | error f =>
      refine .inl ⟨f, rfl, ?_⟩
      simpa only [Classical.not_forall, exists_prop] using h

/-- A reader that refuses some items, all for one reason, refuses a list for it. -/
theorem mapM_refuses {α β ε : Type} {f : α → Except ε β} {bad : α → Bool} {e : ε} {g : α → β}
    (hf : ∀ x, f x = if bad x then .error e else .ok (g x)) (xs : List α) :
    xs.mapM f = if xs.any bad then .error e else .ok (xs.map g) := by
  induction xs with
  | nil => rfl
  | cons x xs ih =>
    rw [List.mapM_cons, hf, ih]
    cases hx : bad x <;> cases hxs : xs.any bad <;> simp [hx, hxs, bind, Except.bind, pure, Except.pure]

theorem run_ends (s : Surroundings) (seed : Int) (path : String) (options : Settings.Options)
    (showOutput : Bool) :
    (∃ e, Breaks s (.run path options showOutput) e ∧
      run s true (Session.annotations seed) (.ofText path) options showOutput = .error e) ∨
    ∃ code j, Concludes s (.run path options showOutput) code j ∧
      run s true (Session.annotations seed) (.ofText path) options showOutput =
        .ok (endedWith code j) := by
  unfold run
  cases hs : Settings.ofOptions s.environment options with
  | error f =>
    refine .inr ⟨1, _, .refuses (.options ?_), rfl⟩
    simp only [Command.fault?, hs]
  | ok settings =>
    have hc : (Command.run path options showOutput).fault? s.environment = none := by
      simp only [Command.fault?, hs]
    cases hm : load s.files (.ofText path) with
    | error e =>
      cases e with
      | fault f => exact .inr ⟨1, _, .refuses (.source hc hm), rfl⟩
      | other e => exact .inl ⟨e, .source hc (load_other_iff.mp hm), rfl⟩
    | ok m =>
      rcases ofFile_cases m with ⟨f, hf, hd⟩ | ⟨hd, -⟩
      · refine .inl ⟨_, .hint hc hm hd hf, ?_⟩
        simp only [Session.annotations, Session.run, hf]
        rfl
      · obtain ⟨as, has, hsites⟩ := Session.annotations_eq seed settings hd
        refine .inr ⟨0, _, .lists hm (.run hsites), ?_⟩
        simp only [has]
        rfl

/-- The row for a callable in a listing of parameters. -/
def row (lines : LineIndex) (c : Callable) : Except Raised (List String) := do
  return [place lines c.anchor, c.name, ← parametersText c.parameters]

/-- A shape of the callable holds an integer that is too long to be shown. -/
def isUnshown (c : Callable) : Bool := c.parameters.any (·.shape.holdsLong)

theorem row_eq (lines : LineIndex) (c : Callable) :
    row lines c = if isUnshown c then .error Decimal.longInteger
      else .ok [place lines c.anchor, c.name, describeParameters c.parameters] := by
  unfold row parametersText isUnshown
  cases c.parameters.any (·.shape.holdsLong) <;> rfl

theorem signatures_eq (s : Surroundings) (p : FilePath) {m : Module} {cs : List Callable}
    (hm : load s.files p = .ok m) (hcs : Callables.ofFile m.text m.body = .ok cs) :
    signatures s true p = if cs.any isUnshown then .error Decimal.longInteger
      else finish true 0 (tableOf p.text ["Location", "Name", "Parameters"]
        (cs.map fun c => [place (.ofText m.text) c.anchor, c.name,
          describeParameters c.parameters])) := by
  have hrows := mapM_refuses (row_eq (.ofText m.text)) cs
  simp only [signatures, hm, hcs]
  show (cs.mapM (row (.ofText m.text)) >>= _) = _
  rw [hrows]
  cases cs.any isUnshown <;> rfl

theorem signatures_ends (s : Surroundings) (path : String) :
    (∃ e, Breaks s (.signatures path) e ∧ signatures s true (.ofText path) = .error e) ∨
      ∃ code j, Concludes s (.signatures path) code j ∧
        signatures s true (.ofText path) = .ok (endedWith code j) := by
  cases hm : load s.files (.ofText path) with
  | error e =>
    have hend : signatures s true (.ofText path) = failReading true e := by
      simp only [signatures, hm]
    rw [hend]
    cases e with
    | fault f => exact .inr ⟨1, _, .refuses (.source rfl hm), rfl⟩
    | other e => exact .inl ⟨e, .source rfl (load_other_iff.mp hm), rfl⟩
  | ok m =>
    rcases ofFile_cases m with ⟨f, hf, hd⟩ | ⟨hd, hcs⟩
    · exact .inl ⟨_, .hint rfl hm hd hf, by simp only [signatures, hm, hf]⟩
    · rw [signatures_eq s _ hm hcs]
      cases hl : ((declarations m).map
        (Callables.Declared.callable (.ofStmts m.body))).any isUnshown with
      | true =>
        refine .inl ⟨_, .integer rfl hm hd ?_, rfl⟩
        simpa [isUnshown] using hl
      | false =>
        refine .inr ⟨0, _, .lists hm .signatures, ?_⟩
        rw [if_neg Bool.false_ne_true, List.map_map]
        show finish true 0 (tableOf _ _ _) = _
        simp only [tableOf, List.map_map]
        rfl

/-- A command on its own, with output for programs. -/
def perform (s : Surroundings) (seed : Int) : Command → Except Raised Ended
  | .run path options showOutput =>
    run s true (Session.annotations seed) (.ofText path) options showOutput
  | .signatures path => signatures s true (.ofText path)

theorem command_ends (s : Surroundings) (seed : Int) (c : Command) :
    (∃ e, Breaks s c e ∧ perform s seed c = .error e) ∨
      ∃ code j, Concludes s c code j ∧ perform s seed c = .ok (endedWith code j) := by
  cases c with
  | run path options showOutput => exact run_ends s seed path options showOutput
  | signatures path => exact signatures_ends s path

/-- What can escape a command does. -/
theorem perform_breaks {s : Surroundings} {c : Command} {e : Raised} (h : Breaks s c e)
    (seed : Int) : perform s seed c = .error e := by
  cases c with
  | run path options showOutput =>
    have hset (hc : (Command.run path options showOutput).fault? s.environment = none) :
        ∃ settings, Settings.ofOptions s.environment options = .ok settings := by
      unfold Command.fault? at hc
      cases hs : Settings.ofOptions s.environment options with
      | ok settings => exact ⟨settings, rfl⟩
      | error f =>
        simp only [hs] at hc
        cases hc
    cases h with
    | source hc h =>
      obtain ⟨settings, hs⟩ := hset hc
      have hm : load s.files (.ofText path) = .error (.other e) := load_other_iff.mpr h
      simp only [perform, run, hs, hm]
      rfl
    | hint hc hm hd hf =>
      obtain ⟨settings, hs⟩ := hset hc
      have hm : load s.files (.ofText path) = .ok _ := hm
      simp only [perform, run, hs, hm, Session.annotations, Session.run, hf]
      rfl
    | integer hc => cases hc
  | signatures path =>
    cases h with
    | source hc h =>
      have hm : load s.files (.ofText path) = .error (.other e) := load_other_iff.mpr h
      simp only [perform, signatures, hm]
      rfl
    | hint hc hm hd hf =>
      have hm : load s.files (.ofText path) = .ok _ := hm
      simp only [perform, signatures, hm, hf]
    | @integer _ m hc hm hd hl =>
      have hcs : Callables.ofFile m.text m.body = .ok _ :=
        (Callables.Declared.read_answers.list _ _).mpr ⟨hd, rfl⟩
      have hlong : ((declarations m).map
          (Callables.Declared.callable (.ofStmts m.body))).any isUnshown = true := by
        simpa [isUnshown] using hl
      exact (signatures_eq s _ hm hcs).trans (if_pos hlong)

/-! ## The program -/

/-- The files that a command finds once the file for log records is open. -/
def openLog (files : FileTree) : Option String → Except Raised FileTree
  | none => .ok files
  | some f => (files.opened (.ofText f)).mapError SystemFailure.raised

/-- The arguments keep the rules of the command line and ask for a command with output for programs,
and the path of the command names no directory. -/
structure Accepted (s : Surroundings) (args : List String) (logFile : Option String)
    (c : Command) : Prop where
  request : ∃ json, Request.ofArgs args = .command json logFile (.command c) ∧
    Console.jsonMode (json.getD false) s.isTerminal = true
  path : ∀ files, openLog s.files logFile = .ok files → isDirectory files c.path = false

variable {s : Surroundings} {args : List String} {logFile : Option String} {c : Command}

theorem Accepted.execute_eq (h : Accepted s args logFile c) (seed : Int) :
    execute s (Session.annotations seed) args =
      openLog s.files logFile >>= fun files => perform { s with files := files } seed c := by
  obtain ⟨json, hrequest, hjson⟩ := h.request
  have hopen : execute s (Session.annotations seed) args =
      openLog s.files logFile >>= fun files => carryOut { s with files := files }
        (Session.annotations seed) (Console.jsonMode (json.getD false) s.isTerminal)
        (.command c) := by
    unfold execute
    rw [hrequest]
    cases logFile <;> rfl
  rw [hopen, hjson]
  cases hlog : openLog s.files logFile with
  | error e => rfl
  | ok files =>
    show carryOut _ _ true (.command c) = perform _ seed c
    unfold carryOut
    simp only [h.path files hlog]
    cases c <;> rfl

/-- The exceptions that escape the program: that of opening the file for log records, and those
that escape the command. -/
inductive Escapes (s : Surroundings) (logFile : Option String) (c : Command) : Raised → Prop
  | log {e} (h : openLog s.files logFile = .error e) : Escapes s logFile c e
  | command {files e} (hlog : openLog s.files logFile = .ok files)
      (h : Breaks { s with files := files } c e) : Escapes s logFile c e

theorem Concludes.integral {s : Surroundings} {code : Nat} {j : Json} (h : Concludes s c code j)
    {ok : Int → Prop} (hok : ∀ m, load s.files (.ofText c.path) = .ok m →
      ∀ n : Nat, n ≤ m.text.length + 1 → ok n) : Integral ok j := by
  cases h with
  | lists hm hj => exact hj.integral (hok _ hm)
  | refuses => exact integral_faultJson _

/-- A file of one byte that is no UTF-8. -/
def invalidBytes : Surroundings := { files := ⟨[(["a.py"], .file [0xff])]⟩ }

end Exemplar.CommandLine
