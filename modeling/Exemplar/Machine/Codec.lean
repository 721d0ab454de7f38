import Exemplar.Machine.Show
import Exemplar.Source.Utf8

/-
  Text as bytes in an encoding, and back. What an encoding does not have is an error, unless there
  is a rule for putting something in its place.
-/

namespace Exemplar.Machine

/-- The encodings that the machine carries out. -/
inductive Encoding
  | utf8
  /-- The same with a mark at the start. -/
  | markedUtf8
  | ascii
  | latin
  /-- Units of two or four bytes, either end first; without an end there is a mark at the start. -/
  | wide (size : Nat) (bigEnd : Option Bool)
  deriving DecidableEq

namespace Encoding

/-- The name of an encoding without differences of case and of the marks between words. -/
def plainName (name : String) : String :=
  let step (done : List Char) (c : Char) : List Char :=
    if c.isAlphanum || c == '.' then c.toLower :: done
    else if done.head? == some '_' then done
    else '_' :: done
  String.ofList ((name.toList.foldl step []).reverse)

def ofName? (name : String) : Option Encoding :=
  match plainName name with
  | "utf_8" | "utf8" | "u8" | "utf" | "cp65001" | "utf8_ucs2" | "utf8_ucs4" => some .utf8
  | "utf_8_sig" => some .markedUtf8
  | "ascii" | "us_ascii" | "646" | "us" | "ansi_x3.4_1968" | "iso646_us" | "cp367" | "ibm367" =>
    some .ascii
  | "latin_1" | "latin1" | "iso_8859_1" | "iso8859_1" | "8859" | "l1" | "latin" | "cp819"
  | "iso8859" | "ibm819" => some .latin
  | "utf_16" | "utf16" | "u16" => some (.wide 2 none)
  | "utf_16_le" | "utf_16le" | "unicodelittleunmarked" => some (.wide 2 (some false))
  | "utf_16_be" | "utf_16be" | "unicodebigunmarked" => some (.wide 2 (some true))
  | "utf_32" | "utf32" | "u32" => some (.wide 4 none)
  | "utf_32_le" | "utf_32le" => some (.wide 4 (some false))
  | "utf_32_be" | "utf_32be" => some (.wide 4 (some true))
  | _ => none

/-- Names of encodings that the machine knows of but does not carry out. -/
def foreign : List String :=
  ["utf_7", "utf7", "cp1252", "windows_1252", "cp1251", "cp1250", "cp437", "cp850", "cp866",
   "iso8859_15", "iso_8859_15", "latin_9", "iso8859_2", "iso_8859_2", "latin2", "koi8_r", "gbk",
   "gb2312", "gb18030", "big5", "shift_jis", "sjis", "euc_jp", "euc_kr", "mac_roman", "idna",
   "punycode", "unicode_escape", "raw_unicode_escape", "undefined", "mbcs", "oem"]

/-- Names of what turns bytes into bytes or text into text. -/
def noText : List String :=
  ["rot13", "rot_13", "hex", "hex_codec", "base64", "base64_codec", "bz2", "bz2_codec", "zip",
   "zlib", "zlib_codec", "quopri", "quopri_codec", "uu", "uu_codec"]

/-- The name of an encoding in errors. -/
def word : Encoding → String
  | utf8 | markedUtf8 => "utf-8"
  | ascii => "ascii"
  | latin => "latin-1"
  | wide size bigEnd => "utf-" ++ toString (8 * size) ++ (match bigEnd with
    | none => ""
    | some false => "-le"
    | some true => "-be")

end Encoding

namespace Codec

/-- The encoding of a name. `verb` is what is to be done with it. -/
def find (verb name : String) : Exec Encoding := do
  match Encoding.ofName? name with
  | some e => pure e
  | none =>
    let plain := Encoding.plainName name
    if Encoding.noText.contains plain then
      Exec.raise "LookupError" ("'" ++ name ++ "' is not a text encoding; use codecs." ++ verb ++
        "() to handle arbitrary codecs")
    else if Encoding.foreign.contains plain then
      Exec.raise "NotImplementedError" ("encoding " ++ name ++ " is not supported")
    else Exec.raise "LookupError" ("unknown encoding: " ++ name)

/-- Raises the error about what an encoding does not have. -/
def fail {α : Type} (cls : String) (encoding : Encoding) (object : Value) (start stop : Nat)
    (reason : String) : Exec α :=
  let parts : Fields := [("encoding", .str encoding.word), ("object", object),
    ("start", .int start), ("end", .int stop), ("reason", .str reason)]
  Exec.raiseWith cls (parts.map (·.2)) parts

def unknownRule {α : Type} (rule : String) : Exec α :=
  Exec.raise "LookupError" ("unknown error handler name '" ++ rule ++ "'")

/-! ### Text to bytes -/

/-- Hexadecimal digits, so many at least. -/
def hexDigits (width n : Nat) : List Char :=
  let ds := Nat.toDigits 16 n
  List.replicate (width - ds.length) '0' ++ ds

/-- A character by its number behind a backslash. -/
def escaped (c : Char) : List Char :=
  let n := c.toNat
  if n < 256 then '\\' :: 'x' :: hexDigits 2 n
  else if n < 65536 then '\\' :: 'u' :: hexDigits 4 n
  else '\\' :: 'U' :: hexDigits 8 n

/-- Bytes of characters below a limit; others are an error unless there is a rule for them. -/
def encodeNarrow (encoding : Encoding) (limit : Nat) (rule whole : String) :
    Nat → Nat → List Char → Exec (List UInt8)
  | 0, _, _ => pure []
  | _, _, [] => pure []
  | fuel + 1, place, c :: r => do
    if c.toNat < limit then
      return UInt8.ofNat c.toNat :: (← encodeNarrow encoding limit rule whole fuel (place + 1) r)
    let bad := (c :: r).takeWhile fun c => limit ≤ c.toNat
    let stop := place + bad.length
    let put (text : List Char) : List UInt8 := text.map fun c => UInt8.ofNat c.toNat
    let shown ← match rule with
      | "strict" =>
        fail "UnicodeEncodeError" encoding (.str whole) place stop
          ("ordinal not in range(" ++ toString limit ++ ")")
      | "ignore" => pure []
      | "replace" => pure (put (bad.map fun _ => '?'))
      | "backslashreplace" => pure (put (bad.flatMap escaped))
      | "xmlcharrefreplace" =>
        pure (put (bad.flatMap fun c => ("&#" ++ toString c.toNat ++ ";").toList))
      | "surrogateescape" | "surrogatepass" =>
        fail "UnicodeEncodeError" encoding (.str whole) place stop
          ("ordinal not in range(" ++ toString limit ++ ")")
      | "namereplace" => Exec.raise "NotImplementedError" "namereplace is not supported"
      | rule => unknownRule rule
    return shown ++ (← encodeNarrow encoding limit rule whole fuel stop (r.drop (bad.length - 1)))

/-- A number in so many bytes. -/
def unitBytes (size : Nat) (bigEnd : Bool) (n : Nat) : List UInt8 :=
  let little := (List.range size).map fun i => UInt8.ofNat (n / Nat.pow 256 i % 256)
  if bigEnd then little.reverse else little

/-- The units of two bytes of a character. -/
def pairOf (n : Nat) : List Nat :=
  if n < 0x10000 then [n]
  else [0xd800 + (n - 0x10000) / 0x400, 0xdc00 + (n - 0x10000) % 0x400]

def encodeWide (size : Nat) (bigEnd : Bool) (s : List Char) : List UInt8 :=
  s.flatMap fun c =>
    (if size == 2 then pairOf c.toNat else [c.toNat]).flatMap (unitBytes size bigEnd)

def encode (name rule : String) (s : String) : Exec (List UInt8) := do
  match ← find "encode" name with
  | .utf8 => pure s.toUTF8.toList
  | .markedUtf8 => pure (0xef :: 0xbb :: 0xbf :: s.toUTF8.toList)
  | .ascii => encodeNarrow .ascii 128 rule s (s.length + 1) 0 s.toList
  | .latin => encodeNarrow .latin 256 rule s (s.length + 1) 0 s.toList
  | .wide size (some bigEnd) => pure (encodeWide size bigEnd s.toList)
  | .wide size none => pure (unitBytes size false 0xfeff ++ encodeWide size false s.toList)

/-! ### Bytes to text -/

/-- What stands in the place of bytes that are no text. -/
def substitute (encoding : Encoding) (rule : String) (whole : List UInt8) (start stop : Nat)
    (reason : String) : Exec (List Char) := do
  let refuse : Exec (List Char) :=
    fail "UnicodeDecodeError" encoding (.bytes whole) start stop reason
  match rule with
  | "strict" | "surrogatepass" => refuse
  | "ignore" => pure []
  | "replace" => pure [Char.ofNat 0xfffd]
  | "backslashreplace" =>
    pure (((whole.take stop).drop start).flatMap fun b => '\\' :: 'x' :: hexDigits 2 b.toNat)
  | "surrogateescape" => Exec.raise "NotImplementedError" "surrogateescape is not supported"
  | "xmlcharrefreplace" | "namereplace" =>
    Exec.typeError "don't know how to handle UnicodeDecodeError in error callback"
  | rule => unknownRule rule

/-- The text from a place on, with bytes that are none replaced by the rule. -/
def decodeUtf8 (rule : String) (whole : List UInt8) : Nat → Nat → Exec (List Char)
  | 0, _ => pure []
  | fuel + 1, place => do
    let rest := whole.drop place
    match Utf8.decode rest with
    | .ok cs => pure cs
    | .error f =>
      let before := match Utf8.decode (rest.take f.start) with
        | .ok cs => cs
        | .error _ => []
      let start := place + f.start
      let stop := start + f.count
      let put ← substitute .utf8 rule whole start stop f.cause.message
      return before ++ put ++ (← decodeUtf8 rule whole fuel stop)

def decodeAscii (rule : String) (whole : List UInt8) : Nat → List UInt8 → Exec (List Char)
  | _, [] => pure []
  | place, b :: r => do
    let here ← if b.toNat < 128 then pure [Char.ofNat b.toNat]
      else substitute .ascii rule whole place (place + 1) "ordinal not in range(128)"
    return here ++ (← decodeAscii rule whole (place + 1) r)

/-- The number that bytes stand for. -/
def unitOf (bigEnd : Bool) (bytes : List UInt8) : Nat :=
  (if bigEnd then bytes else bytes.reverse).foldl (fun n b => n * 256 + b.toNat) 0

def isSurrogate (n : Nat) : Bool := 0xd800 ≤ n && n < 0xe000

/-- The text of units of two or four bytes from a place on. -/
def decodeWide (encoding : Encoding) (size : Nat) (bigEnd : Bool) (rule : String)
    (whole : List UInt8) : Nat → Nat → List UInt8 → Exec (List Char)
  | 0, _, _ => pure []
  | _, _, [] => pure []
  | fuel + 1, place, bytes => do
    let bad (count : Nat) (reason : String) : Exec (List Char) := do
      let put ← substitute encoding rule whole place (place + count) reason
      return put ++ (← decodeWide encoding size bigEnd rule whole fuel (place + count)
        (bytes.drop count))
    let good (n count : Nat) : Exec (List Char) := do
      return Char.ofNat n :: (← decodeWide encoding size bigEnd rule whole fuel (place + count)
        (bytes.drop count))
    if bytes.length < size then return ← bad bytes.length "truncated data"
    let n := unitOf bigEnd (bytes.take size)
    if size == 4 then
      if isSurrogate n then bad 4 "code point in surrogate code point range(0xd800, 0xe000)"
      else if 0x110000 ≤ n then bad 4 "code point not in range(0x110000)"
      else good n 4
    else if !isSurrogate n then good n 2
    else if 0xdc00 ≤ n then bad 2 "illegal encoding"
    else if bytes.length < 4 then bad bytes.length "unexpected end of data"
    else
      let low := unitOf bigEnd ((bytes.drop 2).take 2)
      if 0xdc00 ≤ low && low < 0xe000 then
        good (0x10000 + (n - 0xd800) * 0x400 + (low - 0xdc00)) 4
      else bad 2 "illegal UTF-16 surrogate"

def decode (name rule : String) (bytes : List UInt8) : Exec String := do
  let fuel := bytes.length + 1
  let text ← match ← find "decode" name with
    | .utf8 => decodeUtf8 rule bytes fuel 0
    | .markedUtf8 =>
      let bytes := if [0xef, 0xbb, 0xbf].isPrefixOf bytes then bytes.drop 3 else bytes
      decodeUtf8 rule bytes fuel 0
    | .ascii => decodeAscii rule bytes 0 bytes
    | .latin => pure (bytes.map fun b => Char.ofNat b.toNat)
    | .wide size (some bigEnd) =>
      decodeWide (.wide size (some bigEnd)) size bigEnd rule bytes fuel 0 bytes
    | .wide size none =>
      let mark (bigEnd : Bool) : Bool := (unitBytes size bigEnd 0xfeff).isPrefixOf bytes
      let bigEnd := mark true
      let skipped := if mark false || bigEnd then size else 0
      decodeWide (.wide size none) size bigEnd rule bytes fuel skipped (bytes.drop skipped)
  pure (String.ofList text)

end Codec

end Exemplar.Machine
