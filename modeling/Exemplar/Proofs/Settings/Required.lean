import Exemplar.Proofs.Decimal.Rounding
import Exemplar.Proofs.Except
import Exemplar.Proofs.Settings

/-
  What is asked of settings, and what settings there can be. Each part is made through a row of
  checks, of which the first that fails refuses it (`checks`); the environment replaces a limit only
  by one that has passed its check as well (`withEnvironment_keeps`). So whatever the arguments and
  the variables are, the settings there are pass all checks (`build_required`).

  The checks are what they should be but for one case. A limit on time is refused where it compares
  as at most zero, which is not the opposite of comparing as greater than zero: a double that is no
  number does neither, and is let through (`atMostZero_iff`).

  A refusal shows the value that it is about. An integer of more than 4300 digits has no text, and
  the error about that takes the place of the refusal; no variable gives such an integer
  (`found_short`).
-/

namespace Exemplar

namespace Number

/-- The number compares as greater than zero. -/
def IsPositive : Number → Prop
  | .int n => 0 < n
  | .float x => x.IsPositive ∨ x = .infinity false

def IsNaN : Number → Prop
  | .int _ => False
  | .float x => x.isNaN = true

/-- The integers in the text of the number. -/
def integers : Number → List Int
  | .int n => [n]
  | .float _ => []

end Number

namespace Binary64

theorem isZero_iff (x : Binary64) : x.isZero = false ↔ 0 < x.significand := by
  unfold isZero
  rcases significand_cases x with ⟨hE, hs, -⟩ | ⟨hE, hs, -⟩
  · rw [hs, hE, beq_self_eq_true, Bool.true_and, beq_eq_false_iff_ne, Nat.pos_iff_ne_zero]
  · have hne : (x.exponentField == 0) = false := beq_eq_false_iff_ne.mpr (by omega)
    rw [hs, hne, Bool.false_and]
    exact iff_of_true rfl (by omega)

/-- The double of a sign and an exponent field of all ones without a fraction is infinite. -/
theorem eq_infinity_of_fields {x : Binary64} (hx : x.negative = false)
    (hE : x.exponentField = 2047) (hF : x.fraction = 0) : x = infinity false := by
  have hb : x.bits.toNat = 2047 * Nat.pow 2 52 := by
    have hfield : x.exponentField = x.bits.toNat / 4503599627370496 % 2048 := rfl
    have hfraction : x.fraction = x.bits.toNat % 4503599627370496 := rfl
    have hsign : ¬ 9223372036854775808 ≤ x.bits.toNat := of_decide_eq_false hx
    have hpow : Nat.pow 2 52 = 4503599627370496 := rfl
    omega
  rw [← ofParts_bits x, hb]
  rfl

end Binary64

namespace Number

/-- A limit on time passes its check if it is positive, or no number at all. -/
theorem atMostZero_iff (t : Number) : t.atMostZero = false ↔ t.IsPositive ∨ t.IsNaN := by
  cases t with
  | int n => simp [atMostZero, IsPositive, IsNaN]
  | float x =>
    show (!x.isNaN && (x.negative || x.isZero)) = false ↔
      (x.IsPositive ∨ x = .infinity false) ∨ x.isNaN = true
    cases hn : x.isNaN with
    | true => exact iff_of_true rfl (.inr rfl)
    | false =>
      rw [Bool.not_false, Bool.true_and, Bool.or_eq_false_iff, Binary64.isZero_iff]
      constructor
      · rintro ⟨hsign, hs⟩
        refine .inl ?_
        by_cases hE : x.exponentField = 2047
        · right
          refine Binary64.eq_infinity_of_fields hsign hE ?_
          by_contra hF
          simp [Binary64.isNaN, hE, hF] at hn
        · left
          have hlt : x.exponentField < 2048 := Nat.mod_lt _ (by decide)
          exact ⟨hsign, by omega, hs⟩
      · rintro ((h | rfl) | h)
        · exact ⟨h.notNegative, h.significand⟩
        · exact ⟨rfl, by decide⟩
        · cases h

theorem IsNaN.not_isPositive {t : Number} (h : t.IsNaN) : ¬t.IsPositive := by
  cases t with
  | int n => exact h.elim
  | float x =>
    rintro (hx | rfl)
    · exact absurd h (Bool.not_eq_true _ ▸ hx.isNaN)
    · exact absurd h (by unfold IsNaN; decide)

end Number

/-- What is asked of the settings for synthesis. -/
structure SynthesisSettings.Sound (s : SynthesisSettings) : Prop where
  integers : s.integerRange.1 ≤ s.integerRange.2
  counts : s.countRange.1 ≤ s.countRange.2
  lengths : 0 ≤ s.countRange.1
  depth : 0 ≤ s.maxDepth

/-- What is asked of the settings for running, given what is asked of a limit on time. -/
structure SandboxSettings.Sound (asked : Number → Prop) (s : SandboxSettings) : Prop where
  time : ∀ t ∈ s.timeout, asked t
  memory : ∀ m ∈ s.memoryLimit, 0 < m
  output : 0 ≤ s.maxOutput

/-- The fault is that a setting is invalid. -/
def Fault.IsInvalid (f : Fault) : Prop :=
  ∃ key value expected, f = .invalidSetting key value expected

/-! ## Checks -/

namespace Settings

/-- The computation answers with what has `q` or fails with what has `bad`. -/
def Ends {ε α : Type} (x : Except ε α) (q : α → Prop) (bad : ε → Prop) : Prop :=
  match x with
  | .ok a => q a
  | .error e => bad e

theorem Ends.bind {ε α β : Type} {x : Except ε α} {k : α → Except ε β} {q : α → Prop}
    {r : β → Prop} {bad : ε → Prop} (hx : Ends x q bad) (hk : ∀ a, q a → Ends (k a) r bad) :
    Ends (x >>= k) r bad := by
  cases x with
  | ok a => exact hk a hx
  | error e => exact hx

/-- What is raised where settings are refused. -/
inductive Rejection
  | fault (f : Fault)
  | error (e : Raised)

/-- One check of a setting: its key, the integers in its value, the value as it is shown, what is
expected of it, and whether that is so. -/
structure Check where
  key : String
  integers : List Int
  value : Shown
  expected : String
  passes : Bool

namespace Check

variable {α : Type} {cs : List Check} {a b : α}

def fault (c : Check) : Fault := .invalidSetting c.key c.value c.expected

/-- What is raised where the check fails. The message of the fault shows the value, which takes a
text for each integer in it. -/
def rejection (c : Check) : Rejection :=
  if c.integers.any Decimal.isLong then .error Decimal.longInteger else .fault c.fault

/-- The faults that checks find, in order. -/
def faults (cs : List Check) : List Fault := (cs.filter fun c => !c.passes).map fault

/-- A setting that may be absent is checked if it is there. -/
theorem firstOr_faults {β : Type} {o : Option β} {bad : β → Bool} {check : β → Check}
    (h : ∀ b, (check b).passes = !bad b) : firstOr (faults (o.toList.map check ++ cs)) a =
      match o.filter bad with
      | some b => .error (check b).fault
      | none => firstOr (faults cs) a := by
  cases o with
  | none => rfl
  | some b => cases hb : bad b <;> simp [faults, Option.filter, firstOr, h, hb]

/-- What has been checked, unless a check fails: the first one is told. -/
def settle (cs : List Check) (a : α) : Except Rejection α :=
  match cs.find? fun c => !c.passes with
  | none => .ok a
  | some c => .error c.rejection

theorem settle_ok_iff : settle cs a = .ok b ↔ (∀ c ∈ cs, c.passes = true) ∧ b = a := by
  unfold settle
  cases h : cs.find? fun c => !c.passes with
  | none =>
    have hall : ∀ c ∈ cs, c.passes = true := by simpa using h
    exact ⟨fun heq => ⟨hall, (Except.ok.inj heq).symm⟩, fun heq => congrArg Except.ok heq.2.symm⟩
  | some c =>
    have hfails := List.find?_some h
    have hmem := List.mem_of_find?_eq_some h
    refine iff_of_false nofun fun ⟨hall, _⟩ => ?_
    rw [hall c hmem] at hfails
    cases hfails

end Check

/-- A computation that may be refused tells all that another one does: it answers the same, and a
fault is the one that the other ends in. -/
structure Rejection.Tells {α : Type} (x : Except Rejection α) (y : Except Fault α) : Prop where
  ok : ∀ a, x = .ok a ↔ y = .ok a
  fault : ∀ f, x = .error (.fault f) → y = .error f

namespace Rejection.Tells

variable {α β : Type} {x : Except Rejection α} {y : Except Fault α}

theorem settle (cs : List Check) (a : α) :
    Tells (Check.settle cs a) (firstOr (Check.faults cs) a) := by
  unfold Check.settle Check.faults
  have hhead : (cs.filter fun c => !c.passes).head? = cs.find? fun c => !c.passes :=
    List.head?_filter
  cases hf : cs.filter fun c => !c.passes with
  | nil =>
    rw [hf] at hhead
    rw [← hhead]
    exact ⟨fun _ => ⟨fun h => by cases h; rfl, fun h => by cases h; rfl⟩, nofun⟩
  | cons c cs' =>
    rw [hf] at hhead
    rw [← hhead]
    refine ⟨fun _ => ⟨nofun, nofun⟩, fun f h => ?_⟩
    have hc : c.rejection = .fault f := Except.error.inj h
    unfold Check.rejection at hc
    split at hc
    · cases hc
    · cases hc
      rfl

theorem bind (hx : Tells x y) {f : α → Except Rejection β} {g : α → Except Fault β}
    (h : ∀ a, y = .ok a → Tells (f a) (g a)) : Tells (x >>= f) (y >>= g) := by
  cases x with
  | ok a =>
    have hy : y = .ok a := (hx.ok a).mp rfl
    subst hy
    exact h a rfl
  | error e =>
    refine ⟨fun b => ⟨nofun, fun hb => ?_⟩, ?_⟩
    · obtain ⟨a, ha, -⟩ := bind_eq_ok.mp hb
      cases (hx.ok a).mpr ha
    · rintro f' ⟨⟩
      rw [hx.fault f' rfl]
      rfl

theorem mapError (y : Except Fault α) : Tells (y.mapError Rejection.fault) y := by
  cases y with
  | ok a => exact ⟨fun _ => ⟨fun h => by cases h; rfl, fun h => by cases h; rfl⟩, nofun⟩
  | error f => exact ⟨fun _ => ⟨nofun, nofun⟩, fun f' h => by cases h; rfl⟩

end Rejection.Tells

/-- The rejection names a setting that is invalid; or a check failed on an integer that is too long
to be shown. -/
def Rejection.About (cs : List Check) : Rejection → Prop
  | .fault f => f.IsInvalid
  | .error e => e = Decimal.longInteger ∧
    ∃ c ∈ cs, c.passes = false ∧ ∃ n ∈ c.integers, Decimal.isLong n = true

theorem Check.settle_ends {α : Type} {cs ds : List Check} {a : α} {q : α → Prop} (hsub : cs ⊆ ds)
    (h : (∀ c ∈ cs, c.passes = true) → q a) : Ends (settle cs a) q (Rejection.About ds) := by
  unfold settle
  cases hfind : cs.find? fun c => !c.passes with
  | none => exact h (by simpa using hfind)
  | some c =>
    show c.rejection.About ds
    unfold rejection
    split
    · rename_i hlong
      have hfails : c.passes = false := by simpa using List.find?_some hfind
      exact ⟨rfl, c, hsub (List.mem_of_find?_eq_some hfind), hfails, List.any_eq_true.mp hlong⟩
    · exact ⟨c.key, c.value, c.expected, rfl⟩

end Settings

open Settings (Check Rejection firstOr)

namespace SynthesisSettings

variable (s : SynthesisSettings)

def boundsCheck (key expected : String) (b : Int × Int) (passes : Bool) : Check :=
  ⟨key, [b.1, b.2], shownBounds b, expected, passes⟩

/-- The checks, in order. -/
def checks : List Check :=
  [boundsCheck "integer_range" "a (low, high) pair with low <= high" s.integerRange
     (s.integerRange.1 ≤ s.integerRange.2),
   boundsCheck "count_range" "a (low, high) pair with low <= high" s.countRange
     (s.countRange.1 ≤ s.countRange.2),
   boundsCheck "count_range" "non-negative bounds" s.countRange (0 ≤ s.countRange.1),
   ⟨"max_depth", [s.maxDepth], .same (toString s.maxDepth), "a non-negative integer",
     0 ≤ s.maxDepth⟩]

theorem checked_eq : s.checked = firstOr (Check.faults s.checks) s := by
  unfold checked checks boundsCheck
  by_cases h1 : s.integerRange.1 ≤ s.integerRange.2 <;>
  by_cases h2 : s.countRange.1 ≤ s.countRange.2 <;>
  by_cases h3 : 0 ≤ s.countRange.1 <;>
  by_cases h4 : 0 ≤ s.maxDepth <;>
  simp [firstOr, Check.faults, Check.fault, boundsFault, h1, h2, h3, h4, Int.not_lt.mpr,
    Int.not_le.mp]

theorem checks_pass_iff : (∀ c ∈ s.checks, c.passes = true) ↔ s.Sound := by
  simp only [checks, boundsCheck, List.forall_mem_cons, decide_eq_true_eq]
  exact ⟨fun ⟨h1, h2, h3, h4, _⟩ => ⟨h1, h2, h3, h4⟩,
    fun h => ⟨h.integers, h.counts, h.lengths, h.depth, nofun⟩⟩

/-- The settings, or what is raised where they are refused. -/
def construct : Except Rejection SynthesisSettings := Check.settle s.checks s

theorem construct_tells : Rejection.Tells s.construct s.checked := by
  rw [checked_eq]
  exact .settle _ _

end SynthesisSettings

namespace SandboxSettings

variable (s : SandboxSettings)

/-- The checks, in order: none for a limit that there is not. -/
def checks : List Check :=
  (s.timeout.toList.map fun t =>
    ⟨"timeout_seconds", t.integers, t.shown, "a positive number or None", !t.atMostZero⟩) ++
  (s.memoryLimit.toList.map fun m =>
    ⟨"memory_limit_mb", [m], .same (toString m), "a positive integer or None", 0 < m⟩) ++
  [⟨"max_output_chars", [s.maxOutput], .same (toString s.maxOutput), "a non-negative integer",
    0 ≤ s.maxOutput⟩]

theorem checked_eq : s.checked = firstOr (Check.faults s.checks) s := by
  have hmemory (m : Int) : decide (0 < m) = !decide (m ≤ 0) := by
    rw [← decide_not, decide_eq_decide, Int.not_le]
  unfold checked checks
  rw [List.append_assoc, Check.firstOr_faults fun _ => rfl, Check.firstOr_faults hmemory]
  cases s.timeout.filter Number.atMostZero with
  | some t => rfl
  | none =>
    cases s.memoryLimit.filter fun m => decide (m ≤ 0) with
    | some m => rfl
    | none =>
      by_cases ho : s.maxOutput < 0
      · simp [Check.faults, firstOr, Check.fault, ho]
      · simp [Check.faults, firstOr, ho]

theorem checks_pass_iff : (∀ c ∈ s.checks, c.passes = true) ↔
    s.Sound fun t => t.IsPositive ∨ t.IsNaN := by
  simp only [checks, List.forall_mem_append, List.forall_mem_map, Option.mem_toList,
    List.forall_mem_singleton, Bool.not_eq_true', decide_eq_true_eq, Number.atMostZero_iff]
  exact ⟨fun ⟨⟨ht, hm⟩, ho⟩ => ⟨ht, hm, ho⟩, fun h => ⟨⟨h.time, h.memory⟩, h.output⟩⟩

/-- The settings, or what is raised where they are refused. -/
def construct : Except Rejection SandboxSettings := Check.settle s.checks s

theorem construct_tells : Rejection.Tells s.construct s.checked := by
  rw [checked_eq]
  exact .settle _ _

end SandboxSettings

/-! ## The environment -/

namespace Settings

theorem ends_mapError {α : Type} {x : Except Fault α} {q : α → Prop} (h : Ends x q Fault.IsInvalid)
    (cs : List Check) : Ends (x.mapError .fault) q (Rejection.About cs) := by
  cases x with
  | ok a => exact h
  | error f => exact h

theorem read_ends {α : Type} (env : Environment) (name type : String)
    (reader : String → Option α) :
    Ends (env.read? name type reader) (fun _ => True) Fault.IsInvalid := by
  unfold Environment.read?
  cases env.value? name with
  | none => trivial
  | some raw =>
    dsimp only
    cases reader raw with
    | some a => trivial
    | none => exact ⟨_, _, _, rfl⟩

theorem checked_ends (s : SandboxSettings) :
    Ends s.checked (fun s' => s'.Sound fun t => t.IsPositive ∨ t.IsNaN) Fault.IsInvalid := by
  rw [s.checked_eq]
  unfold Check.faults
  cases hf : s.checks.filter fun c => !c.passes with
  | nil => exact s.checks_pass_iff.mp (by simpa using hf)
  | cons c cs => exact ⟨c.key, c.value, c.expected, rfl⟩

/-- Settings that have passed all checks. -/
structure Passed (s : Settings) : Prop where
  synthesis : s.synthesis.Sound
  sandbox : s.sandbox.Sound fun t => t.IsPositive ∨ t.IsNaN

variable (env : Environment) {s : Settings}

theorem withSeed_keeps (h : s.Passed) : Ends (withSeed env s) Passed Fault.IsInvalid := by
  unfold withSeed
  cases s.seed with
  | some n => exact h
  | none => exact .bind (read_ends env _ _ _) fun _ _ => ⟨h.synthesis, h.sandbox⟩

theorem withMemory_keeps (h : s.Passed) : Ends (withMemory env s) Passed Fault.IsInvalid := by
  refine .bind (read_ends env _ _ _) fun found _ => ?_
  cases found with
  | none => exact withSeed_keeps env h
  | some m =>
    dsimp only
    split
    · exact .bind (checked_ends _) fun sandbox hs => withSeed_keeps env ⟨h.synthesis, hs⟩
    · exact withSeed_keeps env h

theorem withTime_keeps (h : s.Passed) : Ends (withTime env s) Passed Fault.IsInvalid := by
  refine .bind (read_ends env _ _ _) fun found _ => ?_
  cases found with
  | none => exact withMemory_keeps env h
  | some t =>
    dsimp only
    split
    · exact .bind (checked_ends _) fun sandbox hs => withMemory_keeps env ⟨h.synthesis, hs⟩
    · exact withMemory_keeps env h

/-- The environment keeps settings that have passed all checks such. -/
theorem withEnvironment_keeps (h : s.Passed) :
    Ends (withEnvironment env s) Passed Fault.IsInvalid := by
  rw [withEnvironment_eq]
  exact withTime_keeps env h

end Settings

/-! ### Integers that variables give -/

namespace Numeral

theorem dropUnderscores_sublist {s ds : List Char} (h : dropUnderscores s = some ds) :
    ds.Sublist s := by
  fun_induction dropUnderscores s generalizing ds with
  | case1 => cases h; exact .slnil
  | case2 => cases h
  | case3 => cases h; exact .refl _
  | case4 c d r hd ih =>
    obtain ⟨ds', hds, rfl⟩ := Option.map_eq_some_iff.mp h
    exact .cons_cons _ (.cons _ (ih hds))
  | case5 => cases h
  | case6 => cases h
  | case7 => cases h
  | case8 c r hne hnone hc ih =>
    obtain ⟨ds', hds, rfl⟩ := Option.map_eq_some_iff.mp h
    exact .cons_cons _ (ih hds)

theorem splitSign_sublist (s : List Char) : (splitSign s).2.Sublist s := by
  unfold splitSign
  split
  · exact List.sublist_cons_self _ _
  · exact List.sublist_cons_self _ _
  · exact .refl _

theorem trim_sublist (s : List Char) : (Text.trim s).Sublist s := by
  have hleft : (Text.trimLeft s).Sublist s := List.dropWhile_sublist _
  have hright (t : List Char) : (Text.trimRight t).Sublist t := by
    have h := List.reverse_sublist.mpr (List.dropWhile_sublist (l := t.reverse) Text.isBlank)
    rwa [List.reverse_reverse] at h
  exact (hright _).trans hleft

/-- Digits write a number below the power of ten with as many zeros. -/
theorem ofDigits_lt {ds : List Char} (h : ∀ c ∈ ds, isDigit c = true) :
    ofDigits ds < 10 ^ ds.length := by
  induction ds using List.reverseRecOn with
  | nil => exact Nat.one_pos
  | append_singleton ds c ih =>
    have hds := ih fun d hd => h d (List.mem_append_left _ hd)
    have hc : c.toNat ≤ 57 := by
      have := h c (List.mem_append_right _ (.head _))
      unfold isDigit at this
      rw [Bool.and_eq_true, decide_eq_true_eq, decide_eq_true_eq] at this
      exact this.2
    have hstep : ofDigits (ds ++ [c]) = 10 * ofDigits ds + (c.toNat - 48) := by
      unfold ofDigits
      rw [List.foldl_concat]
    rw [hstep, List.length_append, List.length_singleton, Nat.pow_succ]
    omega

/-- An integer that is read has no more digits than its text. -/
theorem readInt_lt {s : List Char} {n : Int} (h : readInt? s = some n) :
    n.natAbs < 10 ^ digitCount s := by
  unfold readInt? at h
  dsimp only at h
  obtain ⟨ds, hds, h⟩ := Option.bind_eq_some_iff.mp h
  split at h
  · cases h
  · rename_i hdigits
    have hall : ∀ c ∈ ds, isDigit c = true := by
      rw [Bool.or_eq_true, not_or, Bool.not_eq_true', Bool.not_eq_false] at hdigits
      exact List.all_eq_true.mp hdigits.2
    have hsub : ds.Sublist (asciiDigits s) :=
      (dropUnderscores_sublist hds).trans
        ((splitSign_sublist _).trans ((trim_sublist s).map _))
    have hlen : ds.length ≤ digitCount s := by
      rw [← List.filter_eq_self.mpr hall]
      exact (hsub.filter isDigit).length_le
    have hn : n.natAbs = ofDigits ds := by
      cases h
      split
      · exact Int.natAbs_neg _
      · rfl
    rw [hn]
    exact (ofDigits_lt hall).trans_le (Nat.pow_le_pow_right (by decide) hlen)

/-- An integer with no more digits than are read is not too long for a text. -/
theorem isLong_of_digitCount {s : List Char} {n : Int} (h : readInt? s = some n)
    (hs : digitCount s ≤ Decimal.maxDigits) : Decimal.isLong n = false := by
  have hpow : Nat.pow 10 (digitCount s) ≤ Nat.pow 10 Decimal.maxDigits := by
    generalize Decimal.maxDigits = k at hs ⊢
    exact Nat.pow_le_pow_right (by decide) hs
  have hlt : n.natAbs < Nat.pow 10 Decimal.maxDigits := (readInt_lt h).trans_le hpow
  by_cases hlog : Nat.log2 n.natAbs < Decimal.shortBits
  · exact if_pos hlog
  · exact (if_neg hlog).trans (decide_eq_false (Nat.not_le.mpr hlt))

end Numeral

namespace Settings

/-- A variable gives no integer that is too long for a text. -/
theorem found_short {env : Environment} {x : Variable Int} (hx : x.reader = Environment.integer?)
    {n : Int} (h : x.found? env = some n) : Decimal.isLong n = false := by
  unfold Variable.found? at h
  obtain ⟨raw, -, h⟩ := Option.bind_eq_some_iff.mp h
  rw [hx] at h
  unfold Environment.integer? at h
  split at h
  · cases h
  · rename_i hcount
    exact Numeral.isLong_of_digitCount h (Nat.not_lt.mp hcount)

/-- All settings, or what is raised where they are refused. -/
def construct (env : Environment) (synthesis : SynthesisSettings) (sandbox : SandboxSettings)
    (seed : Option Int) : Except Rejection Settings := do
  let synthesis ← synthesis.construct
  let sandbox ← sandbox.construct
  (withEnvironment env ⟨synthesis, sandbox, seed⟩).mapError .fault

variable (env : Environment) (synthesis : SynthesisSettings) (sandbox : SandboxSettings)
  (seed : Option Int)

theorem construct_tells :
    Rejection.Tells (construct env synthesis sandbox seed) (build env synthesis sandbox seed) :=
  synthesis.construct_tells.bind fun _ _ => sandbox.construct_tells.bind fun _ _ => .mapError _

/-- The settings there are have passed all checks, and what is refused is about one of them. -/
theorem construct_ends : Ends (construct env synthesis sandbox seed) Passed
    (Rejection.About (synthesis.checks ++ sandbox.checks)) := by
  refine .bind (Check.settle_ends (List.subset_append_left _ _) synthesis.checks_pass_iff.mp)
    fun a ha => ?_
  refine .bind (Check.settle_ends (List.subset_append_right _ _) sandbox.checks_pass_iff.mp)
    fun b hb => ?_
  exact ends_mapError (withEnvironment_keeps env ⟨ha, hb⟩) _

/-- Only a limit on time that is no number keeps settings that passed from being sound. -/
theorem sound_iff {s : SandboxSettings} (h : s.Sound fun t => t.IsPositive ∨ t.IsNaN) :
    s.Sound Number.IsPositive ↔ ∀ t ∈ s.timeout, ¬t.IsNaN := by
  constructor
  · intro hs t ht hnan
    exact hnan.not_isPositive (hs.time t ht)
  · exact fun hs => ⟨fun t ht => (h.time t ht).resolve_right (hs t ht), h.memory, h.output⟩

/-- Whatever the arguments and the environment are, settings for synthesis are made exactly from
sound ones, and settings for running from those that are sound but for a limit on time that may be
no number. The settings of a session are made of such, also where the environment has replaced a
limit, so that they are sound unless their limit on time is no number. What cannot be made is an
invalid setting and refused as such, but for an integer that is too long to be shown and fails its
check; no variable gives one. Apart from such integers these are the settings and the faults that
`build` gives. -/
theorem build_required (env : Environment) (synthesis : SynthesisSettings)
    (sandbox : SandboxSettings) (seed : Option Int) :
    (∀ s, synthesis.construct = .ok s ↔ synthesis.Sound ∧ s = synthesis) ∧
    (∀ e, synthesis.construct = .error e → e.About synthesis.checks) ∧
    (∀ s, sandbox.construct = .ok s ↔
      sandbox.Sound (fun t => t.IsPositive ∨ t.IsNaN) ∧ s = sandbox) ∧
    (∀ e, sandbox.construct = .error e → e.About sandbox.checks) ∧
    (∀ s, construct env synthesis sandbox seed = .ok s →
      s.synthesis.Sound ∧ s.sandbox.Sound (fun t => t.IsPositive ∨ t.IsNaN) ∧
      (s.sandbox.Sound Number.IsPositive ↔ ∀ t ∈ s.sandbox.timeout, ¬t.IsNaN)) ∧
    (∀ e, construct env synthesis sandbox seed = .error e →
      e.About (synthesis.checks ++ sandbox.checks)) ∧
    (∀ n, memory.found? env = some n → Decimal.isLong n = false) ∧
    Rejection.Tells (construct env synthesis sandbox seed) (build env synthesis sandbox seed) := by
  have hall := construct_ends env synthesis sandbox seed
  refine ⟨fun s => ?_, fun e he => ?_, fun s => ?_, fun e he => ?_, fun s hs => ?_, fun e he => ?_,
    fun n => found_short rfl, construct_tells env synthesis sandbox seed⟩
  · rw [← synthesis.checks_pass_iff]
    exact Check.settle_ok_iff
  · have h : Ends synthesis.construct (fun _ => True) (Rejection.About synthesis.checks) :=
      Check.settle_ends (List.Subset.refl _) fun _ => trivial
    rw [he] at h
    exact h
  · rw [← sandbox.checks_pass_iff]
    exact Check.settle_ok_iff
  · have h : Ends sandbox.construct (fun _ => True) (Rejection.About sandbox.checks) :=
      Check.settle_ends (List.Subset.refl _) fun _ => trivial
    rw [he] at h
    exact h
  · rw [hs] at hall
    exact ⟨hall.synthesis, hall.sandbox, sound_iff hall.sandbox⟩
  · rw [he] at hall
    exact hall

/-- A variable makes the limit on time no number, where it is left at its default. -/
theorem build_required_nan :
    let env : Environment := [("INSTANTCODE_TIMEOUT", " NaN ")]
    let sandbox : SandboxSettings := { timeout := some (.float .nan) }
    construct env {} {} (some 7) = .ok { sandbox := sandbox, seed := some 7 } ∧
      sandbox.Sound (fun t => t.IsPositive ∨ t.IsNaN) ∧ ¬sandbox.Sound Number.IsPositive := by
  intro env sandbox
  have hbuild : build env {} {} (some 7) = .ok { sandbox := sandbox, seed := some 7 } := by
    decide +kernel
  obtain ⟨-, -, -, -, hmade, -, -, htells⟩ := build_required env {} {} (some 7)
  have hconstruct := (htells.ok _).mpr hbuild
  obtain ⟨-, hsound, hiff⟩ := hmade _ hconstruct
  refine ⟨hconstruct, hsound, fun h => ?_⟩
  exact hiff.mp h (.float .nan) rfl rfl

end Settings

end Exemplar
