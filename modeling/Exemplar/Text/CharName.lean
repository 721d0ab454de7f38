import Exemplar.Text.CharName.Ancient
import Exemplar.Text.CharName.Letters
import Exemplar.Text.CharName.Signs
import Exemplar.Text.CharSet

/-
  Characters by their Unicode names, in letters of any case. Ideographs are named by their number
  and Korean syllables by their sounds; control characters have only aliases.
-/

namespace Exemplar.Text

/-- Names that stand beside a character's own name, each after the number of its character. -/
def aliasNames : List String :=
  ["0 NULL;0 NUL;1 START OF HEADING;1 SOH;2 START OF TEXT;2 STX;3 END OF TEXT;3 ETX",
   "4 END OF TRANSMISSION;4 EOT;5 ENQUIRY;5 ENQ;6 ACKNOWLEDGE;6 ACK;7 ALERT;7 BEL;8 BACKSPACE",
   "8 BS;9 CHARACTER TABULATION;9 HORIZONTAL TABULATION;9 HT;9 TAB;a LINE FEED;a NEW LINE",
   "a END OF LINE;a LF;a NL;a EOL;b LINE TABULATION;b VERTICAL TABULATION;b VT;c FORM FEED;c FF",
   "d CARRIAGE RETURN;d CR;e SHIFT OUT;e LOCKING-SHIFT ONE;e SO;f SHIFT IN;f LOCKING-SHIFT ZERO",
   "f SI;10 DATA LINK ESCAPE;10 DLE;11 DEVICE CONTROL ONE;11 DC1;12 DEVICE CONTROL TWO;12 DC2",
   "13 DEVICE CONTROL THREE;13 DC3;14 DEVICE CONTROL FOUR;14 DC4;15 NEGATIVE ACKNOWLEDGE;15 NAK",
   "16 SYNCHRONOUS IDLE;16 SYN;17 END OF TRANSMISSION BLOCK;17 ETB;18 CANCEL;18 CAN",
   "19 END OF MEDIUM;19 EOM;1a SUBSTITUTE;1a SUB;1b ESCAPE;1b ESC;1c INFORMATION SEPARATOR FOUR",
   "1c FILE SEPARATOR;1c FS;1d INFORMATION SEPARATOR THREE;1d GROUP SEPARATOR;1d GS",
   "1e INFORMATION SEPARATOR TWO;1e RECORD SEPARATOR;1e RS;1f INFORMATION SEPARATOR ONE",
   "1f UNIT SEPARATOR;1f US;20 SP;7f DELETE;7f DEL;80 PADDING CHARACTER;80 PAD",
   "81 HIGH OCTET PRESET;81 HOP;82 BREAK PERMITTED HERE;82 BPH;83 NO BREAK HERE;83 NBH;84 INDEX",
   "84 IND;85 NEXT LINE;85 NEL;86 START OF SELECTED AREA;86 SSA;87 END OF SELECTED AREA;87 ESA",
   "88 CHARACTER TABULATION SET;88 HORIZONTAL TABULATION SET;88 HTS",
   "89 CHARACTER TABULATION WITH JUSTIFICATION;89 HORIZONTAL TABULATION WITH JUSTIFICATION;89 HTJ",
   "8a LINE TABULATION SET;8a VERTICAL TABULATION SET;8a VTS;8b PARTIAL LINE FORWARD",
   "8b PARTIAL LINE DOWN;8b PLD;8c PARTIAL LINE BACKWARD;8c PARTIAL LINE UP;8c PLU",
   "8d REVERSE LINE FEED;8d REVERSE INDEX;8d RI;8e SINGLE SHIFT TWO;8e SINGLE-SHIFT-2;8e SS2",
   "8f SINGLE SHIFT THREE;8f SINGLE-SHIFT-3;8f SS3;90 DEVICE CONTROL STRING;90 DCS",
   "91 PRIVATE USE ONE;91 PRIVATE USE-1;91 PU1;92 PRIVATE USE TWO;92 PRIVATE USE-2;92 PU2",
   "93 SET TRANSMIT STATE;93 STS;94 CANCEL CHARACTER;94 CCH;95 MESSAGE WAITING;95 MW",
   "96 START OF GUARDED AREA;96 START OF PROTECTED AREA;96 SPA;97 END OF GUARDED AREA",
   "97 END OF PROTECTED AREA;97 EPA;98 START OF STRING;98 SOS",
   "99 SINGLE GRAPHIC CHARACTER INTRODUCER;99 SGC;9a SINGLE CHARACTER INTRODUCER;9a SCI",
   "9b CONTROL SEQUENCE INTRODUCER;9b CSI;9c STRING TERMINATOR;9c ST;9d OPERATING SYSTEM COMMAND",
   "9d OSC;9e PRIVACY MESSAGE;9e PM;9f APPLICATION PROGRAM COMMAND;9f APC;a0 NBSP;ad SHY",
   "1a2 LATIN CAPITAL LETTER GHA;1a3 LATIN SMALL LETTER GHA;34f CGJ;61c ALM",
   "709 SYRIAC SUBLINEAR COLON SKEWED LEFT;cde KANNADA LETTER LLLA;e9d LAO LETTER FO FON",
   "e9f LAO LETTER FO FAY;ea3 LAO LETTER RO;ea5 LAO LETTER LO",
   "fd0 TIBETAN MARK BKA- SHOG GI MGO RGYAN;11ec HANGUL JONGSEONG YESIEUNG-KIYEOK",
   "11ed HANGUL JONGSEONG YESIEUNG-SSANGKIYEOK;11ee HANGUL JONGSEONG SSANGYESIEUNG",
   "11ef HANGUL JONGSEONG YESIEUNG-KHIEUKH;180b FVS1;180c FVS2;180d FVS3;180e MVS;180f FVS4",
   "200b ZWSP;200c ZWNJ;200d ZWJ;200e LRM;200f RLM;202a LRE;202b RLE;202c PDF;202d LRO;202e RLO",
   "202f NNBSP;205f MMSP;2060 WJ;2066 LRI;2067 RLI;2068 FSI;2069 PDI",
   "2118 WEIERSTRASS ELLIPTIC FUNCTION;2448 MICR ON US SYMBOL;2449 MICR DASH SYMBOL",
   "2b7a LEFTWARDS TRIANGLE-HEADED ARROW WITH DOUBLE VERTICAL STROKE",
   "2b7c RIGHTWARDS TRIANGLE-HEADED ARROW WITH DOUBLE VERTICAL STROKE",
   "a015 YI SYLLABLE ITERATION MARK;aa6e MYANMAR LETTER KHAMTI LLA",
   "fe18 PRESENTATION FORM FOR VERTICAL RIGHT WHITE LENTICULAR BRACKET;feff BYTE ORDER MARK",
   "feff BOM;feff ZWNBSP;122d4 CUNEIFORM SIGN NU11 TENU",
   "122d5 CUNEIFORM SIGN NU11 OVER NU11 BUR OVER BUR;16e56 MEDEFAIDRIN CAPITAL LETTER H",
   "16e57 MEDEFAIDRIN CAPITAL LETTER NG;16e76 MEDEFAIDRIN SMALL LETTER H",
   "16e77 MEDEFAIDRIN SMALL LETTER NG;1b001 HENTAIGANA LETTER E-1",
   "1d0c5 BYZANTINE MUSICAL SYMBOL FTHORA SKLIRON CHROMA VASIS"]

/-- The number that hexadecimal digits write, in capitals. -/
def ofHexCapitals? (cs : List Char) : Option Nat :=
  cs.foldl (fun n c => do
    let n ← n
    if '0' ≤ c && c ≤ '9' then some (16 * n + (c.toNat - 48))
    else if 'A' ≤ c && c ≤ 'F' then some (16 * n + (c.toNat - 55))
    else none) (some 0)

/-- A line's number and what follows the blank after it. -/
def splitNumber (line : List Char) : Nat × List Char :=
  let digits := line.takeWhile (· != ' ')
  (digits.foldl (fun n c => 16 * n + (hexDigit? c).getD 0) 0, line.drop (digits.length + 1))

/-- The words of a name whose first digit tells how many it shares with the name before. -/
def unfold (before : List (List Char)) (entry : List Char) : List (List Char) :=
  match entry with
  | [] => []
  | d :: rest => before.take (d.toNat - 48) ++ rest.splitOn ' '

/-- Looks a name up among the names of consecutive characters: the number of the character, or the
last of the names. -/
def findInEntries (name : List (List Char)) :
    Nat → List (List Char) → List (List Char) → Nat ⊕ List (List Char)
  | _, before, [] => .inr before
  | n, before, e :: es =>
    let words := unfold before e
    if words == name then .inl n else findInEntries name (n + 1) words es

/-- Looks a name up in lines of names of consecutive characters. -/
def findInLines (name before : List (List Char)) : List String → Option Nat
  | [] => none
  | line :: lines =>
    let (first, names) := splitNumber line.toList
    match findInEntries name first before (names.splitOn ';') with
    | .inl n => some n
    | .inr last => findInLines name last lines

/-- Looks a name up in a line of names that each have their number. -/
def findInAliases (name : List Char) (line : String) : Option Nat :=
  (line.toList.splitOn ';').findSome? fun entry =>
    let (n, own) := splitNumber entry
    if own == name then some n else none

/-! Korean syllables -/

def leadingSounds : List String :=
  ["G", "GG", "N", "D", "DD", "R", "M", "B", "BB", "S", "SS", "", "J", "JJ", "C", "K", "T", "P",
   "H"]

def vowelSounds : List String :=
  ["A", "AE", "YA", "YAE", "EO", "E", "YEO", "YE", "O", "WA", "WAE", "OE", "YO", "U", "WEO", "WE",
   "WI", "YU", "EU", "YI", "I"]

def trailingSounds : List String :=
  ["", "G", "GG", "GS", "N", "NJ", "NH", "D", "L", "LG", "LM", "LB", "LS", "LT", "LP", "LH", "M",
   "B", "BS", "S", "SS", "NG", "J", "C", "K", "T", "P", "H"]

/-- The place of the longest sound at the front, and the rest. -/
def takeSound (sounds : List String) (cs : List Char) : Option (Nat × List Char) :=
  let fits := sounds.zipIdx.filter fun (s, _) => s.toList.isPrefixOf cs
  let best := fits.foldl (fun b p => match b with
    | none => some p
    | some q => if q.1.length < p.1.length then some p else some q) none
  best.map fun (s, i) => (i, cs.drop s.length)

/-- A Korean syllable by its sounds. -/
def syllable? (cs : List Char) : Option Char := do
  let (l, r) ← takeSound leadingSounds cs
  let (v, r) ← takeSound vowelSounds r
  let (t, r) ← takeSound trailingSounds r
  if r.isEmpty then some (Char.ofNat (0xac00 + (l * 21 + v) * 28 + t)) else none

/-! Ideographs -/

/-- Whether a number is that of an ideograph that is named by it. -/
def isIdeograph (n : Nat) : Bool :=
  (0x3400 ≤ n && n < 0x4dc0) || (0x4e00 ≤ n && n < 0xa000) || (0x20000 ≤ n && n < 0x2a6e0) ||
  (0x2a700 ≤ n && n < 0x2b739) || (0x2b740 ≤ n && n < 0x2b81e) || (0x2b820 ≤ n && n < 0x2cea2) ||
  (0x2ceb0 ≤ n && n < 0x2ebe1) || (0x30000 ≤ n && n < 0x3134b)

/-- An ideograph by its number. -/
def ideograph? (digits : List Char) : Option Char := do
  if digits.length != 4 && digits.length != 5 then none
  let n ← ofHexCapitals? digits
  if isIdeograph n then some (Char.ofNat n) else none

/-- What follows `start` in `cs`. -/
def dropStart? (start : String) (cs : List Char) : Option (List Char) :=
  if start.toList.isPrefixOf cs then some (cs.drop start.length) else none

/-- Names that end in the number of their character: what stands before it, and the numbers of the
first and the last of them. -/
def numberedNames : List (String × Nat × Nat) :=
  [("CJK COMPATIBILITY IDEOGRAPH-", 0xf900, 0xfa6d),
   ("CJK COMPATIBILITY IDEOGRAPH-", 0xfa70, 0xfad9),
   ("CJK COMPATIBILITY IDEOGRAPH-", 0x2f800, 0x2fa1d),
   ("KHITAN SMALL SCRIPT CHARACTER-", 0x18b00, 0x18cd5),
   ("NUSHU CHARACTER-", 0x1b170, 0x1b2fb)]

/-- The number of a character whose name ends in it, in as few digits as the number has. -/
def numbered? (name : List Char) : Option Nat :=
  numberedNames.findSome? fun (start, first, last) => do
    let digits ← dropStart? start name
    if digits.isEmpty || digits.head? == some '0' then none
    let n ← ofHexCapitals? digits
    if first ≤ n && n ≤ last then some n else none

/-- The number of a selector of variants by its short name. -/
def selector? (name : List Char) : Option Nat := do
  let digits ← dropStart? "VS" name
  if digits.isEmpty || digits.head? == some '0' || !digits.all Char.isDigit then none
  let n := digits.foldl (fun n c => 10 * n + (c.toNat - 48)) 0
  if n ≤ 16 then some (0xfe00 + n - 1)
  else if n ≤ 256 then some (0xe0100 + n - 17)
  else none

/-- The character with a name. Syllables and ideographs are named in capitals only, all others in
letters of any case. -/
def charNamed? (name : List Char) : Option Char :=
  match dropStart? "HANGUL SYLLABLE " name, dropStart? "CJK UNIFIED IDEOGRAPH-" name with
  | some sounds, _ => syllable? sounds
  | none, some digits => ideograph? digits
  | none, none =>
    let name := name.map Char.toUpper
    let words := name.splitOn ' '
    let lists :=
      letterNames ++ signNames ++ scriptNames ++ syllableNames ++ ancientNames ++ pictureNames
    let found := (numbered? name).or ((selector? name).or
      ((aliasNames.findSome? (findInAliases name)).or
        (lists.findSome? (findInLines words []))))
    found.map Char.ofNat

end Exemplar.Text
