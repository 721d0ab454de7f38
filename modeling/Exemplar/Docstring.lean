import Exemplar.Hint
import Exemplar.Text.CharSet

/-
  Types that the documentation of a function gives to its parameters. Three conventions are
  understood: field lists (`:type x: int`), sections (`Args:` and entries below it) and underlined
  headings (`Parameters` over dashes). Where several name a parameter, the first convention in
  this order counts, and in a convention the first entry.
-/

namespace Exemplar.Docstring

open Exemplar.Text

/-! Lines of a documentation text -/

/-- The count of blanks in front of a line. -/
def indentation (line : List Char) : Nat := (line.takeWhile isBlank).length

/-- The smallest indentation of the lines that hold more than blanks. -/
def margin (lines : List (List Char)) : Nat :=
  (((lines.filter fun l => !l.all isBlank).map indentation).min?).getD 0

/-- Drops empty lines at both ends. -/
def dropEmptyEnds (lines : List (List Char)) : List (List Char) :=
  ((lines.reverse.dropWhile List.isEmpty).reverse).dropWhile List.isEmpty

/-- The lines of a documentation text, without the indentation that all after the first share. -/
def cleanLines (text : List Char) : List (List Char) :=
  match (expandTabs 8 0 text).splitOn '\n' with
  | [] => []
  | first :: rest =>
    let m := margin rest
    let lines := dropEmptyEnds (trimLeft first :: rest.map (·.drop m))
    splitLines (List.intercalate ['\n'] lines)

/-! Parts of lines -/

/-- The rest of a text after `start`. -/
def after? (start : String) (cs : List Char) : Option (List Char) :=
  if start.toList.isPrefixOf cs then some (cs.drop start.length) else none

/-- A parameter's name at the front, with up to two stars that are dropped, and the rest. -/
def takeName? (cs : List Char) : Option (String × List Char) :=
  let stars := cs.takeWhile (· == '*')
  let cs := cs.drop stars.length
  let word := cs.takeWhile isWordChar
  if 2 < stars.length || word.isEmpty then none
  else some (String.ofList word, cs.drop word.length)

/-- What stands after a colon: without blanks around it, or a blank if it holds nothing else. -/
def afterColon? (cs : List Char) : Option String := do
  let rest ← after? ":" cs
  match trim rest, rest.getLast? with
  | [], some c => some (String.ofList [c])
  | [], none => none
  | text, _ => some (String.ofList text)

/-- A name, a colon and a type. -/
def typedName? (cs : List Char) : Option (String × String) := do
  let (name, rest) ← takeName? cs
  let type ← afterColon? (trimLeft rest)
  some (name, type)

/-- Drops blanks, of which there must be some. -/
def skipBlanks? (cs : List Char) : Option (List Char) :=
  if cs.head?.any isBlank then some (trimLeft cs) else none

/-! Entries -/

/-- An entry of a field list that types a parameter. -/
def typeField? (line : List Char) : Option (String × String) := do
  typedName? (← skipBlanks? (← after? ":type" (trimLeft line)))

/-- An entry of a field list that describes a parameter and names its type before it. A type may be
missing where three blanks or more stand for it. -/
def paramField? (line : List Char) : Option (String × String) := do
  let cs ← after? ":param" (trimLeft line)
  let head := cs.takeWhile (· != ':')
  if head.length == cs.length then none
  let blanks := head.takeWhile isBlank
  let body := trim head
  let word := (body.reverse.takeWhile (!isBlank ·)).reverse
  let (name, rest) ← takeName? word
  if !rest.isEmpty || blanks.isEmpty then none
  match trimRight (body.take (body.length - word.length)) with
  | [] =>
    if blanks.length < 3 then none
    else some (name, String.ofList ((blanks.drop (blanks.length - 2)).take 1))
  | type => some (name, String.ofList type)

/-- Titles of sections that list arguments. -/
def sectionTitles : List String :=
  ["Args:", "Arguments:", "Parameters:", "Params:", "Keyword Args:", "Keyword Arguments:"]

def isSectionTitle (line : List Char) : Bool :=
  sectionTitles.contains (String.ofList (trim line))

/-- An entry of a section: a name and its type in parentheses before a colon. -/
def sectionItem? (line : List Char) : Option (String × String) := do
  let (name, rest) ← takeName? (trimLeft line)
  let rest ← after? "(" (trimLeft rest)
  let type := rest.takeWhile (· != ')')
  let rest ← after? ")" (rest.drop type.length)
  let _ ← after? ":" (trimLeft rest)
  some (name, String.ofList type)

def isHeading (line : List Char) : Bool :=
  ["Parameters", "Other Parameters"].contains (String.ofList (trim line))

/-- Whether a line holds three dashes or more and nothing else. -/
def isUnderline (line : List Char) : Bool :=
  let dashes := trim line
  3 ≤ dashes.length && dashes.all (· == '-')

/-- An entry below a heading: a name and its type after a colon. -/
def headedItem? (line : List Char) : Option (String × String) := typedName? (trimLeft line)

/-! Conventions -/

/-- Names with what was said about each first. -/
abbrev Found := List (String × String)

/-- Adds an entry unless the name has one. -/
def Found.note (found : Found) (entry : String × String) : Found :=
  if (found.lookup entry.1).isSome then found else found ++ [entry]

/-- The entries of field lists. -/
def fieldListTypes (lines : List (List Char)) : Found :=
  (lines.filterMap fun l => typeField? l <|> paramField? l).foldl Found.note []

/-- The entries of sections that list arguments; `section?` is the indentation of the title of the
section that the lines stand in. A section ends at a line that is not indented deeper. -/
def sectionEntries (section? : Option Nat) : List (List Char) → List (String × String)
  | [] => []
  | l :: ls =>
    if isSectionTitle l then sectionEntries (some (indentation l)) ls
    else
      match section? with
      | none => sectionEntries none ls
      | some n =>
        if l.all isBlank then sectionEntries section? ls
        else if indentation l ≤ n then sectionEntries none ls
        else (sectionItem? l).toList ++ sectionEntries section? ls

def sectionTypes (lines : List (List Char)) : Found :=
  (sectionEntries none lines).foldl Found.note []

/-- The entries below headings; `heading?` is the indentation of the heading that the lines stand
below, and entries are indented as it is. Every heading with an underline ends the one before. -/
def headedEntries (heading? : Option Nat) : List (List Char) → List (String × String)
  | [] => []
  | l :: ls =>
    if ls.head?.any isUnderline && !l.all isBlank then
      match ls with
      | _ :: ls => headedEntries (if isHeading l then some (indentation l) else none) ls
      | [] => []
    else
      let own := match heading? with
        | none => none
        | some n => if indentation l == n then headedItem? l else none
      own.toList ++ headedEntries heading? ls

def headedTypes (lines : List (List Char)) : Found :=
  (headedEntries none lines).foldl Found.note []

/-- The types of parameters as texts. -/
def typeTexts (text : String) : Found :=
  if text.isEmpty then []
  else
    let lines := cleanLines text.toList
    (fieldListTypes lines ++ sectionTypes lines ++ headedTypes lines).foldl Found.note []

/-! Reading a type -/

/-- A role in front of a name between backticks, and the rest; it is at the front of the text. -/
def takeRole? (cs : List Char) : Option (List Char × List Char) := do
  let rest ← after? ":" cs
  let word := rest.takeWhile isWordChar
  if word.isEmpty then none
  let rest ← after? ":`" (rest.drop word.length)
  let name := rest.takeWhile (· != '`')
  let rest ← after? "`" (rest.drop name.length)
  some (name, rest)

/-- Replaces roles by the names they mark; each round takes a character. -/
def dropRolesUpTo : Nat → List Char → List Char
  | 0, cs => cs
  | _, [] => []
  | n + 1, c :: r =>
    match takeRole? (c :: r) with
    | some (name, rest) => name ++ dropRolesUpTo n rest
    | none => c :: dropRolesUpTo n r

def dropRoles (cs : List Char) : List Char := dropRolesUpTo cs.length cs

/-- The character that a letter of ASCII has in lower case; the two letters i of Turkish count as
the one of ASCII. -/
def foldCase (c : Char) : Char :=
  if c == '\u0130' || c == '\u0131' then 'i' else c.toLower

/-- The rest after a word in letters of any case. -/
def afterFolded? (w : String) (cs : List Char) : Option (List Char) :=
  if (cs.take w.length).map foldCase == w.toList then some (cs.drop w.length) else none

/-- Drops what `isNote` accepts from the first comma on at which it does; what it leaves stays. -/
def dropNote (isNote : List Char → Option (List Char)) : List Char → List Char
  | [] => []
  | c :: r =>
    if c == ',' then
      match isNote (trimLeft r) with
      | some rest => rest
      | none => c :: dropNote isNote r
    else c :: dropNote isNote r

/-- The word `optional` at the end. -/
def optionalNote (cs : List Char) : Option (List Char) := do
  let rest ← afterFolded? "optional" cs
  if rest.all isBlank then some [] else none

/-- The word `default` and what follows it up to the end of the line, which ends the text. -/
def defaultNote (cs : List Char) : Option (List Char) := do
  let rest ← afterFolded? "default" cs
  let rest := match rest with
    | c :: r => if c == ':' || c == '=' then trimLeft r else trimLeft rest
    | [] => []
  let lineEnd := rest.dropWhile (· != '\n')
  if lineEnd.length ≤ 1 then some lineEnd else none

/-- Replaces the word `or` between blanks by a bar; each round takes a character. -/
def barsForOrUpTo : Nat → List Char → List Char
  | 0, cs => cs
  | _, [] => []
  | n + 1, c :: r =>
    if isBlank c then
      match after? "or" (trimLeft r) with
      | some rest =>
        if rest.head?.any isBlank then ' ' :: '|' :: ' ' :: barsForOrUpTo n (trimLeft rest)
        else c :: barsForOrUpTo n r
      | none => c :: barsForOrUpTo n r
    else c :: barsForOrUpTo n r

def barsForOr (cs : List Char) : List Char := barsForOrUpTo cs.length cs

/-- The text of a type without roles, backticks and notes, and with bars for `or`. -/
def cleanType (text : List Char) : List Char :=
  let bare := trim ((dropRoles text).filter (· != '`'))
  trim (barsForOr (dropNote defaultNote (dropNote optionalNote bare)))

/-- The hint that the text of a type stands for, if any. -/
def readType (text : String) : HintM (Option Expr) :=
  let cs := cleanType text.toList
  if cs.isEmpty then pure none
  else if cs.contains '\x00' then .error .nullCharacter
  else pure (Syntax.parseExpr? (unifyLineEnds cs))

/-- The types that a documentation text gives to parameters. -/
def types (text : String) : HintM (List (String × Expr)) := do
  let read ← (typeTexts text).mapM fun (n, t) => do return (n, ← readType t)
  return read.filterMap fun (n, e) => e.map fun e => (n, e)

end Exemplar.Docstring
