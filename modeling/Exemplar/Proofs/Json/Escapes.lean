import Exemplar.Json.Reader

/-
  Texts inside documents. Whatever characters a text holds, its written form reads back as the text
  and nothing of it stays over: a character is written as itself, as an escape of one letter, or as
  one or two `\u` escapes, and each of the three is read as that character. Where everything beyond
  ASCII is escaped, the written form holds printable characters only, no line end among them.
-/

namespace Exemplar.Json

/-! ## Hexadecimal digits -/

theorem hexValue_hexChar : ∀ n < 16, hexValue? (hexChar n) = some n := by decide

theorem readHex4_hex4 {n : Nat} (h : n < 0x10000) (r : List Char) :
    readHex4 (hex4 n ++ r) = some (n, r) := by
  have digit (m : Nat) : hexValue? (hexChar (m % 16)) = some (m % 16) :=
    hexValue_hexChar _ (Nat.mod_lt m (by decide))
  have sum : ((n / 4096 % 16 * 16 + n / 256 % 16) * 16 + n / 16 % 16) * 16 + n % 16 = n := by omega
  simp only [hex4, List.cons_append, List.nil_append, readHex4, digit, Option.bind_eq_bind,
    Option.bind_some, sum]

/-- A printable character of ASCII. -/
def isPrintable (c : Char) : Bool := 32 ≤ c.toNat && c.toNat < 127

theorem isPrintable_hexChar : ∀ n < 16, isPrintable (hexChar n) = true := by decide

theorem isPrintable_hex4 (n : Nat) : ∀ c ∈ hex4 n, isPrintable c = true := by
  have digit (m : Nat) : isPrintable (hexChar (m % 16)) = true :=
    isPrintable_hexChar _ (Nat.mod_lt m (by decide))
  simp [hex4, digit]

/-! ## Escapes -/

/-- No character is a surrogate. -/
theorem toNat_cases (c : Char) :
    c.toNat < 0xd800 ∨ 0xdfff < c.toNat ∧ c.toNat < 0x110000 := c.valid

theorem readUnicode_unicodeEscape (c : Char) (r : List Char) :
    ∃ t, unicodeEscape c.toNat ++ r = '\\' :: 'u' :: t ∧ readUnicode t = some (c, r) := by
  have hc := toNat_cases c
  unfold unicodeEscape
  by_cases h : c.toNat < 0x10000
  · rw [if_pos h]
    have high : ¬(0xd800 ≤ c.toNat ∧ c.toNat < 0xdc00) := by omega
    have low : ¬(0xdc00 ≤ c.toNat ∧ c.toNat < 0xe000) := by omega
    refine ⟨hex4 c.toNat ++ r, rfl, ?_⟩
    simp [readUnicode, readHex4_hex4 h, high, low]
  · -- the two halves hold ten bits each of what lies above the first plane
    rw [if_neg h]
    obtain ⟨v, hv⟩ : ∃ v, v = c.toNat - 0x10000 := ⟨_, rfl⟩
    have hhigh : 0xd800 + v / 0x400 < 0x10000 := by omega
    have hlow : 0xdc00 + v % 0x400 < 0x10000 := by omega
    have sum : 0x10000 + (0xd800 + v / 0x400 - 0xd800) * 0x400 + (0xdc00 + v % 0x400 - 0xdc00) =
        c.toNat := by omega
    refine ⟨hex4 (0xd800 + v / 0x400) ++ '\\' :: 'u' :: (hex4 (0xdc00 + v % 0x400) ++ r), ?_, ?_⟩
    · simp only [hv, List.cons_append, List.append_assoc]
    · simp only [readUnicode, readHex4_hex4 hhigh, readHex4_hex4 hlow, Option.bind_eq_bind,
        Option.bind_some]
      rw [if_pos (by simp; omega), if_pos (by simp; omega), sum, Char.ofNat_toNat]

theorem isPrintable_unicodeEscape (n : Nat) : ∀ c ∈ unicodeEscape n, isPrintable c = true := by
  have escape (m : Nat) : ∀ c ∈ '\\' :: 'u' :: hex4 m, isPrintable c = true :=
    List.forall_mem_cons.mpr ⟨rfl, List.forall_mem_cons.mpr ⟨rfl, isPrintable_hex4 m⟩⟩
  unfold unicodeEscape
  split
  · exact escape n
  · exact List.forall_mem_append.mpr ⟨escape _, escape _⟩

theorem isPrintable_of_simpleEscape {e c : Char} (h : simpleEscape? e = some c) :
    isPrintable e = true := by
  unfold simpleEscape? at h
  split at h
  case h_9 => cases h
  all_goals rfl

/-- The three written forms of a character. -/
theorem escapeChar_cases (ascii : Bool) (c : Char) :
    (∃ e, escapeChar ascii c = ['\\', e] ∧ simpleEscape? e = some c) ∨
      escapeChar ascii c = unicodeEscape c.toNat ∨
      escapeChar ascii c = [c] ∧ c ≠ '"' ∧ c ≠ '\\' ∧ 32 ≤ c.toNat ∧
        (ascii = true → c.toNat < 127) := by
  unfold escapeChar
  simp only [beq_iff_eq]
  split
  case isTrue h => exact .inl ⟨'"', rfl, congrArg some h.symm⟩
  rename_i hquote
  split
  case isTrue h => exact .inl ⟨'\\', rfl, congrArg some h.symm⟩
  rename_i hslash
  split
  case isTrue h => exact .inl ⟨'n', rfl, congrArg some h.symm⟩
  split
  case isTrue h => exact .inl ⟨'r', rfl, congrArg some h.symm⟩
  split
  case isTrue h => exact .inl ⟨'t', rfl, congrArg some h.symm⟩
  split
  case isTrue h => exact .inl ⟨'b', rfl, congrArg some h.symm⟩
  split
  case isTrue h => exact .inl ⟨'f', rfl, congrArg some h.symm⟩
  split
  case isTrue => exact .inr (.inl rfl)
  rename_i hctl
  split
  case isTrue => exact .inr (.inl rfl)
  rename_i hhigh
  refine .inr (.inr ⟨rfl, hquote, hslash, Nat.le_of_not_lt hctl, fun hascii => ?_⟩)
  rw [hascii, Bool.true_and, decide_eq_true_eq] at hhigh
  exact Nat.lt_of_not_le hhigh

theorem escapeChar_ne_nil (ascii : Bool) (c : Char) : escapeChar ascii c ≠ [] := by
  rcases escapeChar_cases ascii c with ⟨e, h, -⟩ | h | ⟨h, -⟩ <;> rw [h]
  · exact List.cons_ne_nil _ _
  · obtain ⟨t, ht, -⟩ := readUnicode_unicodeEscape c []
    rw [List.append_nil] at ht
    rw [ht]
    exact List.cons_ne_nil _ _
  · exact List.cons_ne_nil _ _

theorem isPrintable_escapeChar (c : Char) : ∀ d ∈ escapeChar true c, isPrintable d = true := by
  rcases escapeChar_cases true c with ⟨e, h, he⟩ | h | ⟨h, -, -, hlow, hhigh⟩ <;> rw [h]
  · exact List.forall_mem_cons.mpr
      ⟨rfl, List.forall_mem_singleton.mpr (isPrintable_of_simpleEscape he)⟩
  · exact isPrintable_unicodeEscape _
  · refine List.forall_mem_singleton.mpr ?_
    simp only [isPrintable, Bool.and_eq_true, decide_eq_true_eq]
    exact ⟨hlow, hhigh rfl⟩

/-! ## Texts -/

/-- Reading the written form of one character takes one step. -/
theorem readStringTail_escapeChar (ascii : Bool) (start fuel : Nat) (done : List Char) (c : Char)
    (r : List Char) : readStringTail start (fuel + 1) done (escapeChar ascii c ++ r) =
      readStringTail start fuel (c :: done) r := by
  rcases escapeChar_cases ascii c with ⟨e, h, he⟩ | h | ⟨h, hquote, hslash, hctl, -⟩ <;> rw [h]
  · -- a letter that stands for a character is not the one of a `\u` escape
    have hu : e ≠ 'u' := by
      rintro rfl
      cases he
    rw [List.cons_append, List.singleton_append, readStringTail, he]
    exact hu
  · obtain ⟨t, ht, hread⟩ := readUnicode_unicodeEscape c r
    rw [ht]
    simp [readStringTail, hread]
  · simp [readStringTail, Nat.not_lt.mpr hctl]

theorem readStringTail_text (ascii : Bool) (start : Nat) (r : List Char) :
    ∀ (cs done : List Char) (fuel : Nat), cs.length < fuel →
      readStringTail start fuel done (cs.flatMap (escapeChar ascii) ++ '"' :: r) =
        .ok (String.ofList (done.reverse ++ cs), r) := by
  intro cs
  induction cs with
  | nil =>
    intro done fuel h
    obtain ⟨fuel, rfl⟩ := Nat.exists_eq_add_of_lt h
    simp [readStringTail]
  | cons c cs ih =>
    intro done fuel h
    obtain ⟨fuel, rfl⟩ := Nat.exists_eq_succ_of_ne_zero (Nat.ne_of_gt (Nat.zero_lt_of_lt h))
    rw [List.flatMap_cons, List.append_assoc, readStringTail_escapeChar,
      ih (c :: done) fuel (Nat.lt_of_succ_lt_succ h), List.reverse_cons, List.append_assoc,
      List.singleton_append]

theorem length_le_escaped (ascii : Bool) (cs : List Char) :
    cs.length ≤ (cs.flatMap (escapeChar ascii)).length := by
  induction cs with
  | nil => exact Nat.le_refl _
  | cons c cs ih =>
    have := List.length_pos_iff.mpr (escapeChar_ne_nil ascii c)
    rw [List.flatMap_cons, List.length_append, List.length_cons]
    omega

/-- The written form of a text without its opening quote. -/
def textTail (ascii : Bool) (s : String) : List Char :=
  s.toList.flatMap (escapeChar ascii) ++ ['"']

theorem writeString_eq (ascii : Bool) (s : String) :
    writeString ascii s = '"' :: textTail ascii s := rfl

theorem readStringTail_written (ascii : Bool) (s : String) (start : Nat) (r : List Char) :
    readStringTail start ((textTail ascii s ++ r).length + 1) [] (textTail ascii s ++ r) =
      .ok (s, r) := by
  have hlen := length_le_escaped ascii s.toList
  unfold textTail
  rw [List.append_assoc, List.singleton_append, readStringTail_text]
  · rw [List.reverse_nil, List.nil_append, String.ofList_toList]
  · rw [List.length_append]
    omega

theorem isPrintable_writeString (s : String) :
    ∀ c ∈ writeString true s, isPrintable c = true := by
  refine List.forall_mem_cons.mpr ⟨rfl, List.forall_mem_append.mpr ⟨fun c hc => ?_,
    List.forall_mem_singleton.mpr rfl⟩⟩
  obtain ⟨d, -, hd⟩ := List.mem_flatMap.mp hc
  exact isPrintable_escapeChar d c hd

end Exemplar.Json
