import Exemplar.Settings.Environment

/-
  Where settings come from. A limit on time or memory is given as an option, by a variable of the
  environment or by its default, and so is the seed, which has none. `ofOptions_eq` lists every
  reason to refuse the settings, in the order in which they are found, and says which settings there
  are if there is none of them; `ofOptions_by_precedence` says when options come before variables.
  They do for the seed. A limit that is given as an option is `Respected` only if its variable can
  be read, and is not set where the option repeats the default: it is then taken for absent.
-/

namespace Exemplar

namespace Settings

/-- The answer, unless there are faults; the first of these is reported. -/
def firstOr {α : Type} (faults : List Fault) (a : α) : Except Fault α :=
  match faults with
  | [] => .ok a
  | f :: _ => .error f

/-- Faults of two stages are those of the first and then those of the second. -/
theorem firstOr_bind {α β : Type} {fs gs : List Fault} {a : α} {b : β} {k : α → Except Fault β}
    (h : fs = [] → k a = firstOr gs b) : (firstOr fs a >>= k) = firstOr (fs ++ gs) b := by
  cases fs with
  | nil => exact h rfl
  | cons f fs => rfl

theorem firstOr_pure {α β : Type} {fs : List Fault} {a : α} {k : α → β} :
    (firstOr fs a >>= fun a => pure (k a)) = firstOr fs (k a) := by
  cases fs <;> rfl

/-! ## Variables -/

/-- A variable of the environment: its name, the type it is read as, and the reader. -/
structure Variable (α : Type) where
  name : String
  type : String
  reader : String → Option α

namespace Variable

variable {α : Type} (x : Variable α) (env : Environment)

/-- What the variable gives, if it is set, not blank and can be read. -/
def found? : Option α := (env.value? x.name).bind x.reader

/-- The fault of a variable that is set, not blank and cannot be read. -/
def misread? : Option Fault :=
  ((env.value? x.name).filter fun raw => (x.reader raw).isNone).map fun raw =>
    .invalidSetting x.name (.ofText raw) ("a value parseable as " ++ x.type)

theorem read?_eq {name type : String} {reader : String → Option α} :
    env.read? name type reader = firstOr (misread? ⟨name, type, reader⟩ env).toList
      (found? ⟨name, type, reader⟩ env) := by
  unfold Environment.read? found? misread?
  cases env.value? name with
  | none => rfl
  | some raw => cases h : reader raw <;> simp [Option.filter, h, firstOr]

end Variable

/-! ## Limits -/

/-- A limit that an option or a variable can give: its default, which values count as the default,
and why a value is refused. -/
structure Limit (α : Type) extends Variable α where
  default : α
  isDefault : α → Bool
  refusal? : α → Option Fault
  isDefault_default : isDefault default = true
  refusal?_default : refusal? default = none

namespace Limit

variable {α : Type} (l : Limit α) (env : Environment) (given : Option α)

/-- What the variable gives, where it is applied: it replaces whatever counts as the default. -/
def applied? : Option α := (l.found? env).filter fun _ => l.isDefault (given.getD l.default)

/-- The limit there is in the end. -/
def inForce : α := (l.applied? env given).getD (given.getD l.default)

/-- The reasons to refuse it: its variable cannot be read, or is applied and refused. -/
def faults : List Fault :=
  (l.misread? env).toList ++ ((l.applied? env given).bind l.refusal?).toList

/-- The option, or what the variable gives, or the default. -/
def preferred : α := given.getD ((l.found? env).getD l.default)

/-- The reasons to refuse what the variable gives, where no option does. -/
def usedFaults : List Fault :=
  match given with
  | some _ => []
  | none => (l.misread? env).toList ++ ((l.found? env).bind l.refusal?).toList

/-- If the option is given, the variable can be read, and gives nothing where the option counts as
the default. -/
def Respected : Prop :=
  ∀ v, given = some v → l.misread? env = none ∧ (l.isDefault v → l.found? env = none)

theorem refusal?_getD : l.refusal? (given.getD l.default) = given.bind l.refusal? := by
  cases given with
  | none => exact l.refusal?_default
  | some v => rfl

theorem applied?_none : l.applied? env none = l.found? env := by
  cases hf : l.found? env <;> simp [applied?, Option.filter, hf, l.isDefault_default]

theorem applied?_cases : (l.found? env = none ∧ l.applied? env given = none) ∨
    (∃ v, l.found? env = some v ∧ l.isDefault (given.getD l.default) = false ∧
      l.applied? env given = none) ∨
    ∃ v, l.found? env = some v ∧ l.isDefault (given.getD l.default) = true ∧
      l.applied? env given = some v := by
  cases hf : l.found? env with
  | none => exact .inl ⟨rfl, by simp [applied?, hf]⟩
  | some v =>
    cases hd : l.isDefault (given.getD l.default) with
    | false => exact .inr (.inl ⟨v, rfl, rfl, by simp [applied?, hf, hd, Option.filter]⟩)
    | true => exact .inr (.inr ⟨v, rfl, rfl, by simp [applied?, hf, hd, Option.filter]⟩)

variable {l env given}

theorem applied?_some {v : α} (h : l.Respected env (some v)) : l.applied? env (some v) = none := by
  obtain ⟨-, h⟩ := h v rfl
  cases hv : l.isDefault v with
  | true => simp [applied?, h hv]
  | false => simp [applied?, hv]

theorem inForce_eq (h : l.Respected env given) : l.inForce env given = l.preferred env given := by
  cases given with
  | none => rw [inForce, applied?_none]; rfl
  | some v => rw [inForce, applied?_some h]; rfl

theorem faults_eq (h : l.Respected env given) : l.faults env given = l.usedFaults env given := by
  cases given with
  | none => rw [faults, applied?_none]; rfl
  | some v => rw [faults, applied?_some h, (h v rfl).1]; rfl

end Limit

/-- The limit on time. -/
def time : Limit Number where
  name := Environment.timeoutName
  type := "float"
  reader raw := (Numeral.readFloat? raw.toList).map .float
  default := .float (.ofInt 5)
  isDefault t := t.same (.float (.ofInt 5))
  refusal? t :=
    if t.atMostZero then
      some (.invalidSetting "timeout_seconds" t.shown "a positive number or None")
    else none
  isDefault_default := by decide
  refusal?_default := by decide

/-- The limit on memory. -/
def memory : Limit Int where
  name := Environment.memoryLimitName
  type := "int"
  reader := Environment.integer?
  default := 512
  isDefault m := m == 512
  refusal? m :=
    if m ≤ 0 then
      some (.invalidSetting "memory_limit_mb" (.same (toString m)) "a positive integer or None")
    else none
  isDefault_default := rfl
  refusal?_default := rfl

/-- The variable for the seed. -/
def seedVariable : Variable Int := ⟨Environment.seedName, "int", Environment.integer?⟩

/-- A seed that is given keeps its variable from being read. -/
def seedFaults (env : Environment) (given : Option Int) : List Fault :=
  match given with
  | some _ => []
  | none => (seedVariable.misread? env).toList

/-! ## All settings -/

/-- The settings with these limits. -/
def limited (t : Number) (m : Int) (imports : List String) : SandboxSettings :=
  { timeout := some t, memoryLimit := some m, allowedImports := imports }

variable (env : Environment) (o : Options) (imports : List String) (t : Number) (m : Int)

theorem checked_limited : (limited t m imports).checked =
    firstOr ((time.refusal? t).toList ++ (memory.refusal? m).toList) (limited t m imports) := by
  cases ht : t.atMostZero <;> by_cases hm : m ≤ 0 <;>
    simp [SandboxSettings.checked, limited, time, memory, firstOr, Option.filter, ht, hm]

/-- Reasons to refuse the settings, as they are found. -/
def faults : List Fault :=
  (o.timeout.bind time.refusal?).toList ++ (o.memoryLimit.bind memory.refusal?).toList ++
    time.faults env o.timeout ++ memory.faults env o.memoryLimit ++ seedFaults env o.seed

/-- The reasons among them that are about a value that is used. -/
def usedFaults : List Fault :=
  (o.timeout.bind time.refusal?).toList ++ (o.memoryLimit.bind memory.refusal?).toList ++
    time.usedFaults env o.timeout ++ memory.usedFaults env o.memoryLimit ++ seedFaults env o.seed

/-- The settings there are if there is no reason to refuse them. -/
def inForce : Settings where
  sandbox := limited (time.inForce env o.timeout) (memory.inForce env o.memoryLimit)
    o.allowedImports
  seed := o.seed.or (seedVariable.found? env)

/-! ### The environment, one variable after another -/

/-- The seed, which is the last to be looked at. -/
def withSeed (s : Settings) : Except Fault Settings :=
  match s.seed with
  | some _ => pure s
  | none => do
    let seed ← env.read? Environment.seedName "int" Environment.integer?
    pure { s with seed := seed }

def withMemory (s : Settings) : Except Fault Settings := do
  let found ← env.read? Environment.memoryLimitName "int" Environment.integer?
  match found with
  | some m =>
    if s.sandbox.memoryLimit == defaultSandbox.memoryLimit then do
      let sandbox ← { s.sandbox with memoryLimit := some m : SandboxSettings }.checked
      withSeed env { s with sandbox := sandbox }
    else withSeed env s
  | none => withSeed env s

/-- The variable for time as it is read. -/
def timeVariable : Variable Binary64 :=
  ⟨Environment.timeoutName, "float", fun raw => Numeral.readFloat? raw.toList⟩

def withTime (s : Settings) : Except Fault Settings := do
  let found ← env.read? Environment.timeoutName "float" fun raw => Numeral.readFloat? raw.toList
  match found with
  | some t =>
    if timeoutIsDefault s.sandbox then do
      let sandbox ← { s.sandbox with timeout := some (.float t) : SandboxSettings }.checked
      withMemory env { s with sandbox := sandbox }
    else withMemory env s
  | none => withMemory env s

theorem withEnvironment_eq (s : Settings) : withEnvironment env s = withTime env s := by
  unfold withEnvironment withTime
  refine bind_congr fun found => ?_
  cases found with
  | none => rfl
  | some t => exact ite_congr rfl (fun _ => bind_congr fun _ => rfl) fun _ => rfl

theorem withSeed_eq (s : Settings) : withSeed env s =
    firstOr (seedFaults env s.seed) { s with seed := s.seed.or (seedVariable.found? env) } := by
  obtain ⟨synthesis, sandbox, seed⟩ := s
  cases seed with
  | some n => rfl
  | none =>
    rw [withSeed]
    exact (congrArg (· >>= _) (Variable.read?_eq env)).trans firstOr_pure

variable {t m} {given : Option Int} {seed : Option Int}

theorem withMemory_eq (ht : time.refusal? t = none) :
    withMemory env { sandbox := limited t (given.getD memory.default) imports, seed := seed } =
      firstOr (memory.faults env given ++ seedFaults env seed) {
        sandbox := limited t (memory.inForce env given) imports
        seed := seed.or (seedVariable.found? env) } := by
  have hread : env.read? Environment.memoryLimitName "int" Environment.integer? =
      firstOr (memory.misread? env).toList (memory.found? env) := Variable.read?_eq env
  rw [withMemory, hread, Limit.faults, List.append_assoc]
  refine firstOr_bind fun _ => ?_
  rcases memory.applied?_cases env given with ⟨hf, ha⟩ | ⟨v, hf, hd, ha⟩ | ⟨v, hf, hd, ha⟩
  · simp only [hf, Limit.inForce, ha]
    exact withSeed_eq env _
  · simp only [hf, Limit.inForce, ha]
    rw [if_neg (by exact Bool.eq_false_iff.mp hd)]
    exact withSeed_eq env _
  · simp only [hf, Limit.inForce, ha]
    rw [if_pos (by exact hd)]
    have hc := checked_limited imports t v
    rw [ht] at hc
    refine (congrArg (· >>= _) hc).trans (firstOr_bind fun _ => ?_)
    exact withSeed_eq env _

theorem time_misread? : time.misread? env = timeVariable.misread? env := by
  simp only [Variable.misread?, time, timeVariable, Option.isNone_map]

theorem time_found? : time.found? env = (timeVariable.found? env).map .float := by
  simp only [Variable.found?, time, timeVariable, Option.map_bind, Function.comp_def]

theorem withTime_eq {time? : Option Number} {memory? : Option Int}
    (hm : memory.refusal? (memory?.getD memory.default) = none)
    (ht : time.refusal? (time?.getD time.default) = none) :
    withTime env {
      sandbox := limited (time?.getD time.default) (memory?.getD memory.default) imports
      seed := seed } =
    firstOr (time.faults env time? ++ (memory.faults env memory? ++ seedFaults env seed)) {
      sandbox := limited (time.inForce env time?) (memory.inForce env memory?) imports
      seed := seed.or (seedVariable.found? env) } := by
  have hread : env.read? Environment.timeoutName "float" (fun raw => Numeral.readFloat? raw.toList) =
      firstOr (time.misread? env).toList (timeVariable.found? env) := by
    rw [Variable.read?_eq, time_misread?, timeVariable]
  rw [withTime, hread, Limit.faults, List.append_assoc]
  refine firstOr_bind fun _ => ?_
  rcases time.applied?_cases env time? with ⟨hf, ha⟩ | ⟨v, hf, hd, ha⟩ | ⟨v, hf, hd, ha⟩
  · rw [time_found?, Option.map_eq_none_iff] at hf
    simp only [hf, Limit.inForce, ha]
    exact withMemory_eq env imports ht
  · rw [time_found?, Option.map_eq_some_iff] at hf
    obtain ⟨x, hf, rfl⟩ := hf
    simp only [hf, Limit.inForce, ha]
    rw [if_neg (by exact Bool.eq_false_iff.mp hd)]
    exact withMemory_eq env imports ht
  · rw [time_found?, Option.map_eq_some_iff] at hf
    obtain ⟨x, hf, rfl⟩ := hf
    simp only [hf, Limit.inForce, ha]
    rw [if_pos (by exact hd)]
    have hc := checked_limited imports (.float x) (memory?.getD memory.default)
    rw [hm, Option.toList_none, List.append_nil] at hc
    refine (congrArg (· >>= _) hc).trans (firstOr_bind fun hx => ?_)
    exact withMemory_eq env imports (Option.toList_eq_nil_iff.mp hx)

theorem ofOptions_eq : ofOptions env o = firstOr (faults env o) (inForce env o) := by
  have hc := checked_limited o.allowedImports (o.timeout.getD time.default)
    (o.memoryLimit.getD memory.default)
  have hlimits : { defaultSandbox with
      timeout := o.timeout.orElse fun _ => defaultSandbox.timeout
      memoryLimit := o.memoryLimit.orElse fun _ => defaultSandbox.memoryLimit
      allowedImports := o.allowedImports } =
      limited (o.timeout.getD time.default) (o.memoryLimit.getD memory.default) o.allowedImports := by
    cases o.timeout <;> cases o.memoryLimit <;> rfl
  rw [Limit.refusal?_getD, Limit.refusal?_getD] at hc
  rw [ofOptions, hlimits, hc, faults, List.append_assoc, List.append_assoc]
  refine firstOr_bind fun hnone => ?_
  obtain ⟨ht, hm⟩ := List.append_eq_nil_iff.mp hnone
  rw [Option.toList_eq_nil_iff, ← Limit.refusal?_getD] at ht hm
  rw [withEnvironment_eq, withTime_eq env o.allowedImports hm ht, inForce]

/-- An option that repeats the default is taken for absent: its variable is applied. -/
theorem ofOptions_repeated : ofOptions env
      { o with timeout := some time.default, memoryLimit := some memory.default } =
    ofOptions env { o with timeout := none, memoryLimit := none } := by
  have hfaults : faults env
      { o with timeout := some time.default, memoryLimit := some memory.default } =
      faults env { o with timeout := none, memoryLimit := none } := by
    simp only [faults, Option.bind_some, time.refusal?_default, memory.refusal?_default]
    rfl
  rw [ofOptions_eq, ofOptions_eq, hfaults]
  rfl

/-- The settings are refused for the first of `faults`, and are those of `inForce` if there is none.
Options come before variables and these before defaults for the seed, and for every limit that is
`Respected`; the modules that may be imported are the given ones. If both limits are, the settings
are refused only for what is used. -/
theorem ofOptions_by_precedence (env : Environment) (o : Options) :
    ofOptions env o = firstOr (faults env o) (inForce env o) ∧
    (inForce env o).sandbox.allowedImports = o.allowedImports ∧
    (inForce env o).seed = o.seed.or (seedVariable.found? env) ∧
    (time.Respected env o.timeout →
      (inForce env o).sandbox.timeout = some (time.preferred env o.timeout)) ∧
    (memory.Respected env o.memoryLimit →
      (inForce env o).sandbox.memoryLimit = some (memory.preferred env o.memoryLimit)) ∧
    (time.Respected env o.timeout → memory.Respected env o.memoryLimit →
      faults env o = usedFaults env o) := by
  refine ⟨ofOptions_eq env o, rfl, rfl, fun ht => ?_, fun hm => ?_, fun ht hm => ?_⟩
  · exact congrArg some (Limit.inForce_eq ht)
  · exact congrArg some (Limit.inForce_eq hm)
  · rw [faults, usedFaults, Limit.faults_eq ht, Limit.faults_eq hm]

/-- A limit on time as an option comes before its variable, which gives the limit on memory where no
option does. -/
theorem ofOptions_by_precedence_given :
    let env : Environment :=
      [("INSTANTCODE_TIMEOUT", "1.5"), ("INSTANTCODE_MEMORY_LIMIT_MB", " 64 "),
        ("INSTANTCODE_SEED", "")]
    let o : Options := { timeout := some (.int 2), allowedImports := ["math"] }
    (time.Respected env o.timeout ∧ memory.Respected env o.memoryLimit) ∧
      ofOptions env o = .ok { sandbox := limited (.int 2) 64 ["math"] } ∧
      (inForce env o).sandbox.timeout = some (time.preferred env o.timeout) ∧
      (inForce env o).sandbox.memoryLimit = some (memory.preferred env o.memoryLimit) ∧
      faults env o = usedFaults env o := by
  intro env o
  have htime : time.Respected env o.timeout := by
    rintro v ⟨⟩
    decide
  have hmemory : memory.Respected env o.memoryLimit := nofun
  obtain ⟨hrun, -, -, ht, hm, hf⟩ := ofOptions_by_precedence env o
  have hnone : faults env o = [] := by decide +kernel
  have hsettings : inForce env o = { sandbox := limited (.int 2) 64 ["math"] } := by
    decide +kernel
  rw [hnone, hsettings] at hrun
  exact ⟨⟨htime, hmemory⟩, hrun, ht htime, hm hmemory, hf htime hmemory⟩

end Settings

end Exemplar
