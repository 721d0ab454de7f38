import Exemplar.Proofs.CommandLine
import Exemplar.Proofs.Console.Markup

/-
  What people are shown. The cells of a table and the message of an error are escaped, so that no
  tag in them acts; titles, names of columns, messages, keys and values are handed to the consoles
  as they are, with all their tags (`Console.tags_of_items`).

  What the commands show. Results, captured output, names, types and the messages of faults are
  cells and messages of errors. The path of the file is no cell: it is the title of the table, or
  stands in the message that there is nothing to show. So the tags that act are those of the path
  and no others, but for the program's own (`CommandLine.tags_of_execute`).
-/

namespace Exemplar

namespace Console

open Markup (tags tagsFrom)

/-! ## Payloads -/

/-- The text of a document that is one. -/
def text? : Json → Option String
  | .str s => some s
  | _ => none

/-- The texts that an item has a console read as markup. -/
def Item.markups : Item → List String
  | .markup s => [s]
  | .table title columns rows => (title :: columns).filterMap text? ++ rows.flatten

/-- The tags that act in what is printed. -/
def tagsOf (printed : List (Screen × Item)) : List String :=
  printed.flatMap fun i => i.2.markups.flatMap tags

/-- The tags that the program puts around the word in front of an error. -/
def errorTags : List String := ["bold red", "/bold red"]

/-- The text for the value of a field. -/
def valueText : Json → String
  | .arr items => (Json.arr items).toAscii
  | .obj fields => (Json.obj fields).toAscii
  | j => j.plain

/-- The title of a table and the names of its columns. -/
def headings (fields : List (String × Json)) : List Json :=
  (Json.field? "title" fields).getD .null ::
    ((elements ((Json.field? "columns" fields).getD .null)).toOption.getD [])

/-- The tags of a payload that act: those of texts that are not escaped, and the program's own. -/
def Payload.tags : Payload → List String
  | .message s => Markup.tags s
  | .error _ => errorTags
  | .mapping fields =>
    if isTable fields then (headings fields).filterMap text? |>.flatMap Markup.tags
    else fields.flatMap fun f => "bold" :: Markup.tags f.1 ++ "/bold" :: Markup.tags (valueText f.2)
  | .other _ => []

/-- Cells are escaped. -/
theorem tags_cell {j : Json} {s : String} (h : cell j = .ok s) : Markup.tags s = [] := by
  cases j with
  | str t =>
    cases h
    exact Markup.tags_escape t
  | _ => cases h

theorem tags_error (s : String) :
    tags ("[bold red]Error:[/bold red] " ++ s) = errorTags ++ tags s := by
  have own : ∀ cs : List Char, tagsFrom 0 ("[bold red]Error:[/bold red] ".toList ++ cs) =
      ["bold red".toList, "/bold red".toList] ++ tagsFrom 0 cs := fun _ => rfl
  unfold tags
  rw [String.toList_append, own]
  simp [errorTags]

/-- No tag goes on from a key into what stands behind it. -/
theorem tags_field (key value : String) :
    tags ("[bold]" ++ key ++ ":[/bold] " ++ value) =
      "bold" :: tags key ++ "/bold" :: tags value := by
  have front : ∀ cs : List Char, tagsFrom 0 ("[bold]".toList ++ cs) =
      "bold".toList :: tagsFrom 0 cs := fun _ => rfl
  have behind : ∀ n, tagsFrom n (":[/bold] ".toList ++ value.toList) =
      "/bold".toList :: tagsFrom 0 value.toList := fun _ => rfl
  unfold tags
  rw [String.toList_append, String.toList_append, String.toList_append, List.append_assoc,
    List.append_assoc, front, Markup.tagsFrom_append rfl behind]
  simp

theorem fieldMarkup_eq (f : String × Json) :
    fieldMarkup f = "[bold]" ++ f.1 ++ ":[/bold] " ++ valueText f.2 := by
  unfold fieldMarkup valueText
  cases f.2 <;> rfl

/-! ### Tables -/

theorem forall_of_mapM {ε α β : Type} {f : α → Except ε β} {q : β → Prop}
    (h : ∀ a b, f a = .ok b → q b) {as : List α} {bs : List β} (hs : as.mapM f = .ok bs) :
    ∀ b ∈ bs, q b := by
  induction as generalizing bs with
  | nil =>
    cases hs
    exact nofun
  | cons a as ih =>
    rw [List.mapM_cons] at hs
    obtain ⟨b, hb, hs⟩ := bind_eq_ok.mp hs
    obtain ⟨rest, hrest, hs⟩ := bind_eq_ok.mp hs
    cases hs
    exact List.forall_mem_cons.mpr ⟨h a b hb, ih hrest⟩

/-- A table has the headings of its fields, and cells in which no tag acts. -/
theorem table_eq_ok {fields : List (String × Json)} {i : Item} (h : table fields = .ok i) :
    ∃ title columns rows n, headings fields = title :: columns ∧
      i = .table title (fill n (.str "") columns) rows ∧ ∀ row ∈ rows, ∀ c ∈ row, tags c = [] := by
  unfold table at h
  dsimp only at h
  obtain ⟨columns, hcolumns, h⟩ := bind_eq_ok.mp h
  obtain ⟨items, -, h⟩ := bind_eq_ok.mp h
  obtain ⟨rows, hrows, h⟩ := bind_eq_ok.mp h
  cases h
  have cells : ∀ row ∈ rows, ∀ c ∈ row, tags c = [] := by
    refine forall_of_mapM (fun item row hrow => ?_) hrows
    obtain ⟨parts, -, hparts⟩ := bind_eq_ok.mp hrow
    exact forall_of_mapM (fun _ _ => tags_cell) hparts
  refine ⟨_, columns, _, _, ?_, rfl, ?_⟩
  · unfold headings
    rw [hcolumns]
    rfl
  · refine List.forall_mem_map.mpr fun row hrow c hc => ?_
    rcases List.mem_append.mp hc with hc | hc
    · exact cells row hrow c hc
    · rw [List.eq_of_mem_replicate hc]
      rfl

theorem tags_fill (n : Nat) (columns : List Json) :
    ((fill n (.str "") columns).filterMap text?).flatMap tags =
      (columns.filterMap text?).flatMap tags := by
  unfold fill
  rw [List.filterMap_append, List.flatMap_append, List.append_right_eq_self]
  refine List.flatMap_eq_nil_iff.mpr fun t ht => ?_
  obtain ⟨j, hj, htext⟩ := List.mem_filterMap.mp ht
  rw [List.eq_of_mem_replicate hj] at htext
  cases htext
  rfl

theorem tags_table {title : Json} {columns : List Json} {rows : List (List String)}
    (h : ∀ row ∈ rows, ∀ c ∈ row, tags c = []) :
    (Item.table title columns rows).markups.flatMap tags =
      ((title :: columns).filterMap text?).flatMap tags := by
  unfold Item.markups
  rw [List.flatMap_append, List.append_right_eq_self]
  refine List.flatMap_eq_nil_iff.mpr fun c hc => ?_
  obtain ⟨row, hrow, hc⟩ := List.mem_flatten.mp hc
  exact h row hrow c hc

/-- Whatever is printed of a payload, the tags in it that act are the payload's. -/
theorem tags_of_items {p : Payload} {printed : List (Screen × Item)} (h : items p = .ok printed) :
    tagsOf printed = p.tags := by
  unfold tagsOf
  cases p with
  | message s =>
    cases h
    simp [Item.markups, Payload.tags]
  | error m =>
    obtain ⟨s, hs, h⟩ := bind_eq_ok.mp h
    cases h
    have own := tags_error s
    rw [tags_cell hs, List.append_nil] at own
    simpa [Item.markups, Payload.tags] using own
  | mapping fields =>
    unfold items at h
    unfold Payload.tags
    dsimp only at h ⊢
    split at h
    · rename_i hkeys
      obtain ⟨i, hi, h⟩ := bind_eq_ok.mp h
      cases h
      obtain ⟨title, columns, rows, n, hheadings, rfl, hrows⟩ := table_eq_ok hi
      rw [if_pos hkeys, hheadings, List.flatMap_singleton, tags_table hrows]
      have filled := tags_fill n columns
      cases ht : text? title with
      | none => rw [List.filterMap_cons_none ht, List.filterMap_cons_none ht, filled]
      | some t =>
        rw [List.filterMap_cons_some ht, List.filterMap_cons_some ht, List.flatMap_cons,
          List.flatMap_cons, filled]
    · rename_i hkeys
      cases h
      have each : ∀ f : String × Json, (Item.markup (fieldMarkup f)).markups.flatMap Markup.tags =
          "bold" :: Markup.tags f.1 ++ "/bold" :: Markup.tags (valueText f.2) := by
        intro f
        show [fieldMarkup f].flatMap tags = _
        rw [List.flatMap_singleton, fieldMarkup_eq, tags_field]
      rw [if_neg hkeys, List.flatMap_map]
      simp only [each]
  | other j => cases h

end Console

/-! ## Commands -/

namespace CommandLine

open Console (Item Screen tagsOf errorTags)

variable {s : Surroundings} {annotations : Settings → Module → Except Raised (List Annotation)}

/-- The message of an error as it is printed. -/
def errorItem (message : String) : Screen × Item :=
  (.stderr, .markup ("[bold red]Error:[/bold red] " ++ Markup.escape message))

/-- A table of texts as it is printed. -/
def tableItem (title : String) (columns : List String) (rows : List (List String)) :
    Screen × Item :=
  (.stdout, .table (.str title) (columns.map .str) (rows.map (·.map Markup.escape)))

theorem fill_full {α : Type} {n : Nat} {xs : List α} (h : xs.length = n) (a : α) :
    Console.fill n a xs = xs := by
  unfold Console.fill
  rw [h, Nat.sub_self, List.replicate_zero, List.append_nil]

theorem cells_row (row : List String) :
    (row.map Json.str).mapM Console.cell = .ok (row.map Markup.escape) := by
  induction row with
  | nil => rfl
  | cons c row ih =>
    rw [List.map_cons, List.mapM_cons, ih]
    rfl

theorem cells_rows (rows : List (List String)) :
    (rows.map fun row => Json.arr (row.map .str)).mapM (fun row => do
      (← Console.elements row).mapM Console.cell) = .ok (rows.map (·.map Markup.escape)) := by
  induction rows with
  | nil => rfl
  | cons row rows ih =>
    rw [List.map_cons, List.mapM_cons, ih]
    show ((row.map Json.str).mapM Console.cell >>= _) = _
    rw [cells_row]
    rfl

/-- No row is wider than the columns if each has a cell for each column. -/
theorem width_rows {n : Nat} {rows : List (List String)} (h : ∀ row ∈ rows, row.length = n) :
    (rows.map (·.map Markup.escape)).foldl (fun m row => Nat.max m row.length) n = n := by
  induction rows with
  | nil => rfl
  | cons row rows ih =>
    obtain ⟨hrow, hrows⟩ := List.forall_mem_cons.mp h
    have hmax : Nat.max n (row.map Markup.escape).length = n := by
      rw [List.length_map, hrow]
      exact Nat.max_self n
    rw [List.map_cons, List.foldl_cons, hmax]
    exact ih hrows

/-- Where each row has a cell for each column, nothing is filled up. -/
theorem table_full (title : String) {columns : List String} {rows : List (List String)}
    (h : ∀ row ∈ rows, row.length = columns.length) :
    Console.table [("title", .str title), ("columns", .arr (columns.map .str)),
      ("rows", .arr (rows.map fun row => .arr (row.map .str)))] =
        .ok (tableItem title columns rows).2 := by
  have full : ∀ row ∈ rows.map (·.map Markup.escape),
      Console.fill columns.length "" row = id row := by
    refine List.forall_mem_map.mpr fun row hrow => fill_full ?_ _
    rw [List.length_map]
    exact h row hrow
  show ((rows.map fun row => Json.arr (row.map .str)).mapM (fun row => do
    (← Console.elements row).mapM Console.cell) >>= _) = _
  rw [cells_rows]
  show Except.ok (Item.table _ (Console.fill _ _ _) _) = _
  rw [List.length_map, width_rows h, List.map_congr_left full, List.map_id,
    fill_full (List.length_map _)]
  rfl

theorem finish_tableOf (title : String) {columns : List String} {rows : List (List String)}
    (h : ∀ row ∈ rows, row.length = columns.length) (code : Nat) :
    finish false code (tableOf title columns rows) =
      .ok ⟨code, { printed := [tableItem title columns rows] }⟩ := by
  have keys : ∀ t c r : Json,
      Console.isTable [("title", t), ("columns", c), ("rows", r)] = true := fun _ _ _ => rfl
  have items : Console.items (tableOf title columns rows) =
      .ok [tableItem title columns rows] := by
    unfold Console.items tableOf
    dsimp only
    rw [if_pos (keys _ _ _), table_full title h]
    rfl
  unfold finish Console.write
  rw [if_neg Bool.false_ne_true, items]
  rfl

/-- What a command prints for people, and the code that it ends with. -/
inductive Prints (s : Surroundings)
    (annotations : Settings → Module → Except Raised (List Annotation)) :
    Command → Nat → List (Screen × Item) → Prop
  | error {c} (message : String) : Prints s annotations c 1 [errorItem message]
  /-- There is nothing to run. -/
  | nothing {path options showOutput} : Prints s annotations (.run path options showOutput) 0
      [(.stdout, .markup ("No callable top-level functions in " ++ (FilePath.ofText path).text))]
  | results {path options showOutput settings m as} (hm : load s.files (.ofText path) = .ok m)
      (has : annotations settings m = .ok as) :
      Prints s annotations (.run path options showOutput) 0
        [tableItem (FilePath.ofText path).text
          (["Location", "Result"] ++ if showOutput then ["Output"] else [])
          (as.map (annotationRow (.ofText m.text) showOutput))]
  | parameters {path m cs} (hm : load s.files (.ofText path) = .ok m)
      (hcs : Callables.ofFile m.text m.body = .ok cs) :
      Prints s annotations (.signatures path) 0
        [tableItem (FilePath.ofText path).text ["Location", "Name", "Parameters"]
          (cs.map fun c => [place (.ofText m.text) c.anchor, c.name,
            describeParameters c.parameters])]

theorem failReading_prints {c : Command} {e : ReadFailure} {ended : Ended}
    (h : failReading false e = .ok ended) :
    Prints s annotations c ended.code ended.written.printed := by
  cases e with
  | fault f =>
    cases h
    exact .error f.message
  | other e => cases h

theorem run_prints {path : String} {options : Settings.Options} {showOutput : Bool} {ended : Ended}
    (h : run s false annotations (.ofText path) options showOutput = .ok ended) :
    Prints s annotations (.run path options showOutput) ended.code ended.written.printed := by
  unfold run at h
  split at h
  · cases h
    exact .error _
  · split at h
    · exact failReading_prints h
    · rename_i settings _ m hm
      obtain ⟨as, has, h⟩ := bind_eq_ok.mp h
      unfold annotationsPayload at h
      dsimp only at h
      rw [if_neg Bool.false_ne_true] at h
      split at h
      · cases h
        exact .nothing
      · rw [finish_tableOf] at h
        · cases h
          exact .results hm has
        · refine List.forall_mem_map.mpr fun a _ => ?_
          unfold annotationRow
          cases showOutput <;> rfl

theorem signatures_prints {path : String} {ended : Ended}
    (h : signatures s false (.ofText path) = .ok ended) :
    Prints s annotations (.signatures path) ended.code ended.written.printed := by
  unfold signatures at h
  split at h
  · exact failReading_prints h
  · rename_i m hm
    split at h
    · cases h
    · rename_i cs hcs
      obtain ⟨rows, hrows, h⟩ := bind_eq_ok.mp h
      have listed := mapM_refuses (row_eq (.ofText m.text)) cs
      have same : cs.mapM (row (.ofText m.text)) = .ok rows := hrows
      rw [same] at listed
      split at listed
      · cases listed
      · cases listed
        rw [finish_tableOf] at h
        · cases h
          exact .parameters hm hcs
        · exact List.forall_mem_map.mpr fun _ _ => rfl

/-! ### The tags that act -/

theorem tagsOf_errorItem (message : String) : tagsOf [errorItem message] = errorTags := by
  have own := Console.tags_error (Markup.escape message)
  rw [Markup.tags_escape, List.append_nil] at own
  simpa [tagsOf, errorItem, Item.markups] using own

theorem tagsOf_tableItem (title : String) {columns : List String}
    (h : ∀ c ∈ columns, Markup.tags c = []) (rows : List (List String)) :
    tagsOf [tableItem title columns rows] = Markup.tags title := by
  have cells : ∀ row ∈ rows.map (·.map Markup.escape), ∀ c ∈ row, Markup.tags c = [] :=
    List.forall_mem_map.mpr fun row _ =>
      List.forall_mem_map.mpr fun c _ => Markup.tags_escape c
  have names : (columns.map Json.str).filterMap Console.text? = columns := by
    rw [List.filterMap_map]
    exact List.filterMap_some
  show [tableItem title columns rows].flatMap _ = _
  rw [List.flatMap_singleton]
  show (Item.table _ _ _).markups.flatMap Markup.tags = _
  have title_text : Console.text? (.str title) = some title := rfl
  rw [Console.tags_table cells, List.filterMap_cons_some title_text, names, List.flatMap_cons,
    List.flatMap_eq_nil_iff.mpr h, List.append_nil]

/-- The tags that act in what a command prints: those around the word in front of an error, or those
of the path. -/
theorem Prints.tags {c : Command} {code : Nat} {printed : List (Screen × Item)}
    (h : Prints s annotations c code printed) :
    tagsOf printed = if code = 1 then errorTags else Markup.tags (FilePath.ofText c.path).text := by
  cases h with
  | error message => exact tagsOf_errorItem message
  | @nothing path =>
    have own : ∀ cs : List Char, Markup.tagsFrom 0
        ("No callable top-level functions in ".toList ++ cs) = Markup.tagsFrom 0 cs := fun _ => rfl
    have message : Markup.tags ("No callable top-level functions in " ++
        (FilePath.ofText path).text) = Markup.tags (FilePath.ofText path).text := by
      unfold Markup.tags
      rw [String.toList_append, own]
    rw [if_neg (by decide)]
    show [_].flatMap (fun i : Screen × Item => i.2.markups.flatMap Markup.tags) = _
    rw [List.flatMap_singleton]
    show [_].flatMap Markup.tags = _
    rw [List.flatMap_singleton, message]
    rfl
  | @results path options showOutput =>
    refine tagsOf_tableItem _ ?_ _
    cases showOutput with
    | false =>
      simp only [Bool.false_eq_true, if_false, List.append_nil, List.forall_mem_cons]
      exact ⟨rfl, rfl, nofun⟩
    | true =>
      simp only [if_true, List.cons_append, List.nil_append, List.forall_mem_cons]
      exact ⟨rfl, rfl, rfl, nofun⟩
  | parameters =>
    refine tagsOf_tableItem _ ?_ _
    simp only [List.forall_mem_cons]
    exact ⟨rfl, rfl, rfl, nofun⟩

/-- Where output is for people. No tag of an escaped text acts. The tags that act in what is printed
of a payload are those of its title and the names of its columns, of its message, or of its keys and
values, and the program's own. So a command line that is misused prints nothing, and any other one
prints an error or a listing: the tags of the path act in a listing, and in an error only the
program's own; what the file holds, the calls and what comes of them never act. -/
theorem tags_of_execute (s : Surroundings)
    (annotations : Settings → Module → Except Raised (List Annotation)) (args : List String) :
    (∀ text, Markup.tags (Markup.escape text) = []) ∧
    (∀ payload printed, Console.items payload = .ok printed → tagsOf printed = payload.tags) ∧
    ∀ (json : Option Bool) (logFile : Option String) (c : Command) (ended : Ended),
      Request.ofArgs args = .command json logFile (.command c) →
        Console.jsonMode (json.getD false) s.isTerminal = false →
          execute s annotations args = .ok ended → ∃ files, openLog s.files logFile = .ok files ∧
            if isDirectory files c.path then ended.code = 2 ∧ ended.written.printed = [] else
              Prints { s with files := files } annotations c ended.code ended.written.printed ∧
                tagsOf ended.written.printed =
                  if ended.code = 1 then errorTags
                  else Markup.tags (FilePath.ofText c.path).text := by
  refine ⟨Markup.tags_escape, fun _ _ => Console.tags_of_items, ?_⟩
  intro json logFile c ended hrequest hjson h
  have hopen : execute s annotations args =
      openLog s.files logFile >>= fun files => carryOut { s with files := files }
        annotations (Console.jsonMode (json.getD false) s.isTerminal) (.command c) := by
    unfold execute
    rw [hrequest]
    cases logFile <;> rfl
  rw [hopen, hjson] at h
  obtain ⟨files, hfiles, h⟩ := bind_eq_ok.mp h
  refine ⟨files, hfiles, ?_⟩
  unfold carryOut at h
  dsimp only at h
  split at h
  · rename_i hdirectory
    rw [if_pos hdirectory]
    cases h
    exact ⟨rfl, rfl⟩
  · rename_i hdirectory
    rw [if_neg hdirectory]
    have prints : Prints { s with files := files } annotations c ended.code
        ended.written.printed := by
      cases c with
      | run path options showOutput => exact run_prints h
      | signatures path => exact signatures_prints h
    exact ⟨prints, prints.tags⟩

/-- A file with one function whose name is a tag, before a terminal. -/
def taggedPath : Surroundings where
  files := ⟨[(["[red]a.py"], .file [100, 101, 102, 32, 102, 40, 120, 41, 58, 32, 48, 10])]⟩
  isTerminal := true

set_option maxRecDepth 20000 in
theorem code_taggedPath : (execute taggedPath (fun _ _ => .ok [])
    ["signatures", "[red]a.py"]).toOption.map (·.code) = some 0 := by
  decide +kernel

/-- The tag in the path of a listing acts. -/
theorem tags_of_execute_taggedPath : ∃ ended,
    execute taggedPath (fun _ _ => .ok []) ["signatures", "[red]a.py"] = .ok ended ∧
      ended.code = 0 ∧ tagsOf ended.written.printed = ["red"] := by
  have request : Request.ofArgs ["signatures", "[red]a.py"] =
      .command none none (.command (.signatures "[red]a.py")) := by
    have hglobal : scan globalOptions false ["signatures", "[red]a.py"] =
        some ([], ["signatures", "[red]a.py"]) := by decide +kernel
    have hown : scan signaturesOptions true ["[red]a.py"] = some ([], ["[red]a.py"]) := by
      decide +kernel
    unfold Request.ofArgs
    simp only [hglobal]
    show Request.command none none (asked (scan signaturesOptions true ["[red]a.py"]) _) = _
    rw [hown]
    rfl
  have hcode := code_taggedPath
  cases hended : execute taggedPath (fun _ _ => .ok []) ["signatures", "[red]a.py"] with
  | error e =>
    rw [hended] at hcode
    cases hcode
  | ok ended =>
    rw [hended] at hcode
    have hcode : ended.code = 0 := Option.some.inj hcode
    obtain ⟨files, -, htags⟩ :=
      (tags_of_execute taggedPath (fun _ _ => .ok []) _).2.2 _ _ _ _ request rfl hended
    split at htags
    · rw [hcode] at htags
      cases htags.1
    · refine ⟨ended, rfl, hcode, ?_⟩
      rw [htags.2, hcode]
      decide +kernel

end CommandLine

end Exemplar
