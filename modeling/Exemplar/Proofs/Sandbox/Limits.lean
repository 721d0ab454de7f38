import Exemplar.Proofs.Decimal.Whole
import Exemplar.Proofs.Settings.Required
import Exemplar.Sandbox.Intake

/-
  The limits of a run, from the settings to the system. A request has the limit on memory as it is
  set, and for processor time one second more than the whole seconds of the limit on time. A worker
  counts in bytes and seconds, and asks the system for one limit after the other.

  Two limits on time get into no request (`Unasked`): infinity has no whole seconds, and an integer
  that no double comes near has no place in a document. What gets there raises nothing further
  (`wanted_eq`). The worker keeps the hard limits, never exceeds one, and goes on after a refusal
  that it forgives (`settle_append`). The refusal of a number that does not fit 64 bits is not among
  these, so the first such limit ends the worker, and those behind it are not asked for.
-/

namespace Exemplar

/-- The least integer that is not below a finite number. -/
def Number.whole : Number → Int
  | .int n => n
  | .float x => x.ceil

namespace Request

/-- A limit on time that gets into no request, and what is raised. -/
inductive Unasked : Number → Raised → Prop
  | infinite : Unasked (.float (.infinity false))
      ⟨"OverflowError", "cannot convert float infinity to integer"⟩
  | large {n : Int} (h : Binary64.tooLarge ≤ n + 1) : Unasked (.int n) (longTime (n + 1))

theorem cpuLimit_int (n : Int) : cpuLimit (.int n) =
    if (Binary64.ofInt (n + 1)).isInfinite then .error (longTime (n + 1)) else .ok (n + 1) := rfl

theorem ceiling_float {x : Binary64} (hx : x.IsPositive) : ceiling (.float x) = .ok x.ceil := by
  show (if x.isNaN then _ else if x.isInfinite then _ else Except.ok x.ceil) = _
  rw [hx.isNaN, hx.isInfinite]
  rfl

theorem cpuLimit_float {x : Binary64} (hx : x.IsPositive) :
    cpuLimit (.float x) = .ok (x.ceil + 1) := by
  obtain ⟨hpos, hlt⟩ := Binary64.ceil_bounds hx
  unfold cpuLimit
  rw [ceiling_float hx]
  exact if_neg (mt (Binary64.isInfinite_ofInt _).mp (by omega))

/-- A limit on time that is positive is one of the two that get into no request, or the seconds
are there and stay below what no double comes near. -/
theorem cpuLimit_cases {t : Number} (ht : t.IsPositive) :
    (∃ e, cpuLimit t = .error e ∧ ∀ e', Unasked t e' ↔ e = e') ∨
      cpuLimit t = .ok (t.whole + 1) ∧ (∀ e, ¬Unasked t e) ∧
        0 < t.whole + 1 ∧ t.whole + 1 < Binary64.tooLarge := by
  cases t with
  | int n =>
    have hn : 0 < n := ht
    have hiff := Binary64.isInfinite_ofInt (n + 1)
    rw [cpuLimit_int]
    by_cases hlarge : Binary64.tooLarge ≤ n + 1
    · left
      rw [if_pos (hiff.mpr (by omega))]
      refine ⟨_, rfl, fun e' => ⟨?_, ?_⟩⟩
      · rintro ⟨-⟩
        rfl
      · rintro rfl
        exact .large hlarge
    · right
      rw [if_neg (mt hiff.mp (by omega))]
      refine ⟨rfl, ?_, Int.lt_add_one_iff.mpr hn.le, Int.not_le.mp hlarge⟩
      rintro e (- | h)
      exact hlarge h
  | float x =>
    rcases ht with hx | rfl
    · right
      obtain ⟨hpos, hlt⟩ := Binary64.ceil_bounds hx
      refine ⟨cpuLimit_float hx, ?_, Int.lt_add_one_iff.mpr hpos.le, hlt⟩
      rintro e ⟨⟩
      exact absurd hx.finite (by decide)
    · left
      refine ⟨_, rfl, fun e' => ⟨?_, ?_⟩⟩
      · rintro ⟨-⟩
        rfl
      · rintro rfl
        exact .infinite

/-- A request is made unless the limit on time gets into none. -/
theorem make_cases {s : SandboxSettings} (h : s.Sound Number.IsPositive) (call : String) :
    (∃ t ∈ s.timeout, ∃ e, make s call = .error e ∧ ∀ e', Unasked t e' ↔ e = e') ∨
      make s call = .ok ⟨call, s.allowedImports, s.memoryLimit,
        s.timeout.map fun t => t.whole + 1, s.maxOutput⟩ ∧
        ∀ t ∈ s.timeout, (∀ e, ¬Unasked t e) ∧
          0 < t.whole + 1 ∧ t.whole + 1 < Binary64.tooLarge := by
  unfold make
  cases ht : s.timeout with
  | none => exact .inr ⟨rfl, nofun⟩
  | some t =>
    rw [Option.mapM_some]
    rcases cpuLimit_cases (h.time t ht) with ⟨e, heq, he⟩ | ⟨heq, hgood⟩
    · rw [heq]
      exact .inl ⟨t, rfl, e, rfl, he⟩
    · rw [heq]
      refine .inr ⟨rfl, ?_⟩
      rintro t' ⟨⟩
      exact hgood

end Request

namespace Limits

/-- The number in a field of a document. -/
def found (name : String) (document : Json) : Option Number :=
  match document.get? name with
  | some (.int n) => some (.int n)
  | some (.float x) => some (.float x)
  | _ => none

theorem found_memory (q : Request) (code : Json) :
    found "memory_limit_mb" (q.toJson code) = q.memoryLimit.map .int := by
  unfold found
  have hfield : (q.toJson code).get? "memory_limit_mb" = some (q.memoryLimit.elim .null .int) := rfl
  rw [hfield]
  cases q.memoryLimit <;> rfl

theorem found_seconds (q : Request) (code : Json) :
    found "cpu_seconds" (q.toJson code) = q.cpuSeconds.map fun n => .float (.ofInt n) := by
  unfold found
  have hfield : (q.toJson code).get? "cpu_seconds" =
      some (q.cpuSeconds.elim .null fun n => .float (.ofInt n)) := rfl
  rw [hfield]
  cases q.cpuSeconds <;> rfl

end Limits

/-- The limits for settings: bytes of memory, and seconds of processor time as a double has them. -/
def SandboxSettings.limits (s : SandboxSettings) : List (Limits.Resource × Int) :=
  (s.memoryLimit.toList.map fun m => (.memory, m * 1024 * 1024)) ++
    s.timeout.toList.map fun t => (.processor, (Binary64.ofInt (t.whole + 1)).ceil)

namespace Limits

/-- Limits as the numbers that a worker counts with. -/
def numbers (limits : List (Resource × Int)) : List (Resource × Number) :=
  limits.map fun l => (l.1, .int l.2)

/-- Positive numbers, of which a double comes near the seconds, are both counted with. -/
theorem wanted_numbers {memory seconds : Option Int} (hmemory : ∀ m ∈ memory, 0 < m)
    (hseconds : ∀ n ∈ seconds, 0 < n ∧ n < Binary64.tooLarge) :
    wanted (memory.map .int) (seconds.map fun n => .float (.ofInt n)) =
      .ok (numbers ((memory.toList.map fun m => (.memory, m * 1024 * 1024)) ++
        seconds.toList.map fun n => (.processor, (Binary64.ofInt n).ceil))) := by
  have hbytes : ∀ m ∈ memory, isGiven (.int m) = true := fun m hm =>
    bne_iff_ne.mpr (hmemory m hm).ne'
  have hgiven : ∀ n ∈ seconds, isGiven (.float (.ofInt n)) = true ∧
      Request.ceiling (.float (.ofInt n)) = .ok (Binary64.ofInt n).ceil := by
    intro n hn
    have hpos := Binary64.isPositive_ofInt (hseconds n hn).1 (hseconds n hn).2
    have hzero := (Binary64.isZero_iff _).mpr hpos.significand
    exact ⟨by rw [isGiven, hzero, Bool.not_false], Request.ceiling_float hpos⟩
  unfold wanted
  cases memory with
  | none =>
    cases seconds with
    | none => rfl
    | some n =>
      obtain ⟨hn, hceiling⟩ := hgiven n rfl
      simp only [Option.map_some, hn, hceiling, if_true]
      rfl
  | some m =>
    have hm := hbytes m rfl
    cases seconds with
    | none =>
      simp only [Option.map_some, hm, if_true]
      rfl
    | some n =>
      obtain ⟨hn, hceiling⟩ := hgiven n rfl
      simp only [Option.map_some, hm, hn, hceiling, if_true]
      rfl

/-- A worker finds the limits in the document of a request and counts with them. -/
theorem wanted_eq {s : SandboxSettings} {call : String} {q : Request}
    (h : s.Sound Number.IsPositive) (hq : Request.make s call = .ok q) (code : Json) :
    wanted (found "memory_limit_mb" (q.toJson code)) (found "cpu_seconds" (q.toJson code)) =
        .ok (numbers s.limits) ∧ ∀ l ∈ s.limits, 0 < l.2 := by
  rcases Request.make_cases h call with ⟨t, -, e, he, -⟩ | ⟨hmake, htime⟩
  · cases hq.symm.trans he
  · have hmemory : q.memoryLimit = s.memoryLimit := by
      rw [Except.ok.inj (hq.symm.trans hmake)]
    have hseconds : q.cpuSeconds = s.timeout.map fun t => t.whole + 1 := by
      rw [Except.ok.inj (hq.symm.trans hmake)]
    have hlist : ((s.timeout.map fun t => t.whole + 1).toList.map fun n =>
        (Resource.processor, (Binary64.ofInt n).ceil)) =
          s.timeout.toList.map fun t => (.processor, (Binary64.ofInt (t.whole + 1)).ceil) := by
      cases s.timeout <;> rfl
    rw [found_memory, found_seconds, hmemory, hseconds, wanted_numbers h.memory, hlist]
    · refine ⟨rfl, List.forall_mem_append.mpr ⟨?_, ?_⟩⟩
      · intro l hl
        obtain ⟨m, hm, rfl⟩ := List.mem_map.mp hl
        have hpos := h.memory m (Option.mem_toList.mp hm)
        show 0 < m * 1024 * 1024
        omega
      · intro l hl
        obtain ⟨t, ht, rfl⟩ := List.mem_map.mp hl
        obtain ⟨-, hpos, hlt⟩ := htime t (Option.mem_toList.mp ht)
        exact (Binary64.ceil_bounds (Binary64.isPositive_ofInt hpos hlt)).1
    · intro n hn
      obtain ⟨t, ht, rfl⟩ := Option.mem_map.mp hn
      exact (htime t ht).2

/-! ## What is asked of a system -/

namespace System

variable (sys : System)

/-- The system refuses no setting of the resource but for what is forgiven. -/
def Forgives (r : Resource) : Prop := ∀ name, sys.refusal r = some name → isForgiven name = true

theorem exists_unforgiven {sys : System} {r : Resource} (h : ¬sys.Forgives r) :
    ∃ name, sys.refusal r = some name ∧ isForgiven name = false := by
  obtain ⟨name, h⟩ := not_forall.mp h
  obtain ⟨hname, hbad⟩ := Classical.not_imp.mp h
  exact ⟨name, hname, Bool.eq_false_of_not_eq_true hbad⟩

/-- The soft limit for a wanted one, under the hard limit in force. -/
def soft (l : Resource × Int) : Int :=
  if sys.hard l.1 = unlimited then l.2 else min l.2 (sys.hard l.1)

/-- What the system is asked for a limit. -/
def setting (l : Resource × Int) : Setting := ⟨l.1, .int (sys.soft l), sys.hard l.1⟩

theorem setting_hard (l : Resource × Int) :
    (sys.setting l).hard = sys.hard (sys.setting l).resource ∧
      ∃ n, (sys.setting l).soft = .int n ∧
        ((sys.setting l).hard ≠ unlimited → n ≤ (sys.setting l).hard) := by
  refine ⟨rfl, sys.soft l, rfl, fun hne => ?_⟩
  have hhard : sys.hard l.1 ≠ unlimited := hne
  unfold soft
  rw [if_neg hhard]
  exact Int.min_le_right _ _

end System

/-- The integer fits 64 bits, one of them for its sign. -/
def Fits (n : Int) : Prop := -Worker.longBound ≤ n ∧ n < Worker.longBound

/-- A system whose interface takes integers of 64 bits: others are refused by an overflow, and a
setting of such by what is forgiven, if at all. -/
structure System.Lawful (sys : System) (limits : List (Resource × Int)) : Prop where
  hard : ∀ l ∈ limits, Fits (sys.hard l.1)
  overflow : ∀ l ∈ limits, ¬Fits (sys.soft l) → sys.refusal l.1 = some "OverflowError"
  forgives : ∀ l ∈ limits, Fits (sys.soft l) → sys.Forgives l.1

/-- The refusal of a limit behind others is the first that is not forgiven. -/
structure Breaks (sys : System) (before : List (Resource × Int)) (l : Resource × Int)
    (name : String) : Prop where
  before : ∀ b ∈ before, sys.Forgives b.1
  refusal : sys.refusal l.1 = some name
  unforgiven : isForgiven name = false

variable {sys : System} {limits : List (Resource × Int)} {l : Resource × Int}

theorem Breaks.not_forgives {before : List (Resource × Int)} {name : String}
    (h : Breaks sys before l name) : ¬sys.Forgives l.1 := fun hf =>
  Bool.false_ne_true (h.unforgiven.symm.trans (hf name h.refusal))

theorem settingFor_int (sys : System) (r : Resource) (n : Int) :
    settingFor sys r (.int n) = sys.setting (r, n) := by
  have hunfold : settingFor sys r (.int n) =
    ⟨r, if sys.hard r != unlimited && decide (sys.hard r < n) then .int (sys.hard r) else .int n,
      sys.hard r⟩ := rfl
  rw [hunfold]
  unfold System.setting System.soft
  by_cases hhard : sys.hard r = unlimited
  · simp [hhard]
  · by_cases hn : sys.hard r < n
    · simp [hhard, hn, Int.min_eq_right hn.le]
    · simp [hhard, hn, Int.min_eq_left (Int.not_lt.mp hn)]

theorem settle_forgiven (h : sys.Forgives l.1) : settle sys (numbers (l :: limits)) =
    (sys.setting l :: (settle sys (numbers limits)).1, (settle sys (numbers limits)).2) := by
  obtain ⟨r, n⟩ := l
  show settle sys ((r, .int n) :: numbers limits) = _
  rw [settle, settingFor_int]
  cases hname : sys.refusal r with
  | none => rfl
  | some name => exact if_pos (h name hname)

theorem settle_broken {name : String} (hname : sys.refusal l.1 = some name)
    (h : isForgiven name = false) :
    settle sys (numbers (l :: limits)) = ([sys.setting l], some ⟨name, "refused"⟩) := by
  obtain ⟨r, n⟩ := l
  dsimp only at hname
  show settle sys ((r, .int n) :: numbers limits) = _
  rw [settle, settingFor_int, hname]
  exact if_neg (Bool.not_eq_true _ ▸ h)

/-- What is behind limits whose refusal is forgiven is asked for as without them. -/
theorem settle_append {before : List (Resource × Int)} (h : ∀ l ∈ before, sys.Forgives l.1)
    (limits : List (Resource × Int)) : settle sys (numbers (before ++ limits)) =
      (before.map sys.setting ++ (settle sys (numbers limits)).1,
        (settle sys (numbers limits)).2) := by
  induction before with
  | nil => rfl
  | cons l before ih =>
    obtain ⟨hl, hbefore⟩ := List.forall_mem_cons.mp h
    rw [List.cons_append, settle_forgiven hl, ih hbefore]
    rfl

/-- The limit that is reached is asked for, whatever becomes of it. -/
theorem setting_mem_settle {before : List (Resource × Int)} (h : ∀ b ∈ before, sys.Forgives b.1)
    (l : Resource × Int) (after : List (Resource × Int)) :
    sys.setting l ∈ (settle sys (numbers (before ++ l :: after))).1 := by
  rw [settle_append h]
  refine List.mem_append_right _ ?_
  by_cases hl : sys.Forgives l.1
  · rw [settle_forgiven hl]
    exact List.mem_cons_self
  · obtain ⟨name, hname, hbad⟩ := System.exists_unforgiven hl
    rw [settle_broken hname hbad]
    exact List.mem_singleton_self _

theorem settle_all (h : ∀ l ∈ limits, sys.Forgives l.1) :
    settle sys (numbers limits) = (limits.map sys.setting, none) := by
  have hnil : settle sys (numbers []) = ([], none) := rfl
  have happend := settle_append h []
  rwa [List.append_nil, hnil, List.append_nil] at happend

theorem settle_upTo {before : List (Resource × Int)} {name : String} (h : Breaks sys before l name)
    (after : List (Resource × Int)) : settle sys (numbers (before ++ l :: after)) =
      ((before ++ [l]).map sys.setting, some ⟨name, "refused"⟩) := by
  rw [settle_append h.before, settle_broken h.refusal h.unforgiven, List.map_append,
    List.map_singleton]

theorem forgives_or_breaks (sys : System) (limits : List (Resource × Int)) :
    (∀ l ∈ limits, sys.Forgives l.1) ∨
      ∃ before l after name, limits = before ++ l :: after ∧ Breaks sys before l name := by
  induction limits with
  | nil => exact .inl nofun
  | cons l limits ih =>
    by_cases hl : sys.Forgives l.1
    · rcases ih with hall | ⟨before, l', after, name, rfl, hbreaks⟩
      · exact .inl (List.forall_mem_cons.mpr ⟨hl, hall⟩)
      · have hbefore : ∀ b ∈ l :: before, sys.Forgives b.1 :=
          List.forall_mem_cons.mpr ⟨hl, hbreaks.before⟩
        exact .inr ⟨l :: before, l', after, name, rfl, hbefore, hbreaks.refusal,
          hbreaks.unforgiven⟩
    · obtain ⟨name, hname, hbad⟩ := System.exists_unforgiven hl
      exact .inr ⟨[], l, limits, name, rfl, nofun, hname, hbad⟩

/-- What a worker asks of a system for limits, and the error that ends it. -/
structure Settled (sys : System) (limits : List (Resource × Int)) (asked : List Setting)
    (error : Option Raised) : Prop where
  /-- It asks for all limits if what is refused is forgiven. -/
  all : (∀ l ∈ limits, sys.Forgives l.1) → asked = limits.map sys.setting ∧ error = none
  /-- Otherwise it asks up to the first refusal that is not, and raises that. -/
  upTo : ∀ before l after name, limits = before ++ l :: after → Breaks sys before l name →
    asked = (before ++ [l]).map sys.setting ∧ error = some ⟨name, "refused"⟩
  /-- Hard limits stay, and a soft limit is an integer that is never above one. -/
  hard : ∀ x ∈ asked, x.hard = sys.hard x.resource ∧
    ∃ n, x.soft = .int n ∧ (x.hard ≠ unlimited → n ≤ x.hard)

theorem settle_settled (sys : System) (limits : List (Resource × Int)) :
    Settled sys limits (settle sys (numbers limits)).1 (settle sys (numbers limits)).2 := by
  refine ⟨fun h => ?_, fun before l after name hl hbreaks => ?_, ?_⟩
  · rw [settle_all h]
    exact ⟨rfl, rfl⟩
  · rw [hl, settle_upTo hbreaks]
    exact ⟨rfl, rfl⟩
  · rcases forgives_or_breaks sys limits with h | ⟨before, l, after, name, rfl, hbreaks⟩
    · rw [settle_all h]
      exact List.forall_mem_map.mpr fun l _ => sys.setting_hard l
    · rw [settle_upTo hbreaks]
      exact List.forall_mem_map.mpr fun l _ => sys.setting_hard l

/-- A system that takes integers of 64 bits refuses a limit for good if the limit does not fit and
no hard limit is in force. -/
theorem forgives_iff (h : sys.Lawful limits) (hl : l ∈ limits) (hpos : 0 < l.2) :
    sys.Forgives l.1 ↔ (sys.hard l.1 = unlimited → l.2 < Worker.longBound) := by
  have hfits : Fits (sys.soft l) ↔ (sys.hard l.1 = unlimited → l.2 < Worker.longBound) := by
    have hhard := h.hard l hl
    have hbound : Worker.longBound = 9223372036854775808 := rfl
    unfold Fits at hhard ⊢
    unfold System.soft
    by_cases hu : sys.hard l.1 = unlimited
    · rw [if_pos hu]
      exact ⟨fun h _ => h.2, fun h => ⟨by omega, h hu⟩⟩
    · rw [if_neg hu]
      exact iff_of_true (by omega) fun h => absurd h hu
  rw [← hfits]
  refine ⟨fun hforgives => ?_, h.forgives l hl⟩
  by_contra hno
  have hname := hforgives _ (h.overflow l hl hno)
  exact absurd hname (by decide +kernel)

/-- Where the refusal of the limit on memory is forgiven, all limits are asked for. -/
theorem setting_mem_limits {s : SandboxSettings} (h : ∀ m ∈ s.memoryLimit, sys.Forgives .memory) :
    ∀ l ∈ s.limits, sys.setting l ∈ (settle sys (numbers s.limits)).1 := by
  intro l hl
  rcases List.mem_append.mp hl with hl | hl
  · obtain ⟨m, hm, rfl⟩ := List.mem_map.mp hl
    have hmemory : s.memoryLimit = some m := Option.mem_toList.mp hm
    unfold SandboxSettings.limits
    rw [hmemory]
    exact setting_mem_settle (List.forall_mem_nil _) _ _
  · obtain ⟨t, ht, rfl⟩ := List.mem_map.mp hl
    have htime : s.timeout = some t := Option.mem_toList.mp ht
    unfold SandboxSettings.limits
    rw [htime]
    refine setting_mem_settle (fun b hb => ?_) _ []
    obtain ⟨m, hm, rfl⟩ := List.mem_map.mp hb
    exact h m (Option.mem_toList.mp hm)

/-- A request is made unless the limit on time gets into none. Its limits are asked of a system,
each under the hard one, up to the first refusal that is not forgiven. A system that takes integers
of 64 bits gives such a refusal exactly for a limit that does not fit and has no hard limit above
it. -/
theorem limits_settled (s : SandboxSettings) (call : String) (h : s.Sound Number.IsPositive) :
    (∀ e, Request.make s call = .error e ↔ ∃ t ∈ s.timeout, Request.Unasked t e) ∧
      ∀ q, Request.make s call = .ok q → ∀ code sys, ∃ asked error,
        apply (some sys) (found "memory_limit_mb" (q.toJson code))
            (found "cpu_seconds" (q.toJson code)) = (asked, error) ∧
          Settled sys s.limits asked error ∧
          ((∀ m ∈ s.memoryLimit, sys.Forgives .memory) →
            ∀ l ∈ s.limits, sys.setting l ∈ asked) ∧
          (sys.Lawful s.limits →
            (error = none ↔
              ∀ l ∈ s.limits, sys.hard l.1 = unlimited → l.2 < Worker.longBound) ∧
            ∀ e, error = some e → e.name = "OverflowError") := by
  refine ⟨fun e => ?_, fun q hq code sys => ?_⟩
  · rcases Request.make_cases h call with ⟨t, ht, e', he, hun⟩ | ⟨hmake, htime⟩
    · rw [he]
      refine ⟨fun heq => ⟨t, ht, (hun e).mpr (Except.error.inj heq)⟩, ?_⟩
      rintro ⟨t', ht', hun'⟩
      cases ht.symm.trans ht'
      exact congrArg Except.error ((hun e).mp hun')
    · rw [hmake]
      exact iff_of_false nofun fun ⟨t, ht, hun⟩ => (htime t ht).1 e hun
  · obtain ⟨hwanted, hpos⟩ := wanted_eq h hq code
    have hsettled := settle_settled sys s.limits
    refine ⟨_, _, ?_, hsettled, setting_mem_limits, fun hsys => ?_⟩
    · unfold apply
      rw [hwanted]
    · have hforgives := fun l hl => forgives_iff hsys hl (hpos l hl)
      rcases forgives_or_breaks sys s.limits with hall | ⟨before, l, after, name, hl, hbreaks⟩
      · rw [(hsettled.all hall).2]
        exact ⟨iff_of_true rfl fun l hl => (hforgives l hl).mp (hall l hl), nofun⟩
      · have hmem : l ∈ s.limits := hl ▸ List.mem_append_right _ List.mem_cons_self
        have hno := hbreaks.not_forgives
        rw [(hsettled.upTo before l after name hl hbreaks).2]
        refine ⟨iff_of_false nofun fun hfit => hno ((hforgives l hmem).mpr (hfit l hmem)), ?_⟩
        rintro e ⟨⟩
        have hover := hsys.overflow l hmem fun hfits => hno (hsys.forgives l hmem hfits)
        exact Option.some.inj (hbreaks.refusal.symm.trans hover)

/-- Settings with more memory than 64 bits count in bytes. -/
def generous : SandboxSettings := { timeout := some (.int 5), memoryLimit := some 8796093022208 }

/-- A system without hard limits that takes integers of 64 bits. -/
def unbounded : System where
  hard _ := unlimited
  refusal
    | .memory => some "OverflowError"
    | .processor => none

/-- The limit on memory is refused for good, and that on processor time is not asked for. -/
theorem limits_settled_overflow : generous.Sound Number.IsPositive ∧
    ∃ q, Request.make generous "f()" = .ok q ∧ ∀ code,
      apply (some unbounded) (found "memory_limit_mb" (q.toJson code))
          (found "cpu_seconds" (q.toJson code)) =
        ([⟨.memory, .int 9223372036854775808, -1⟩], some ⟨"OverflowError", "refused"⟩) := by
  have hsound : generous.Sound Number.IsPositive := by
    refine ⟨?_, ?_, by decide⟩
    · rintro t ⟨⟩
      show (0 : Int) < 5
      decide
    · rintro m ⟨⟩
      decide
  have hcpu : Request.cpuLimit (.int 5) = .ok 6 := by
    rw [Request.cpuLimit_int, if_neg (by decide +kernel)]
    rfl
  obtain ⟨-, hsettled⟩ := limits_settled generous "f()" hsound
  have hmake : Request.make generous "f()" =
      .ok ⟨"f()", [], some 8796093022208, some 6, 4096⟩ := by
    simp only [Request.make, generous, Option.mapM_some, hcpu]
    rfl
  refine ⟨hsound, _, hmake, fun code => ?_⟩
  obtain ⟨asked, error, happly, h, -⟩ := hsettled _ hmake code unbounded
  obtain ⟨rfl, rfl⟩ := h.upTo [] _ _ "OverflowError" rfl ⟨nofun, rfl, by decide +kernel⟩
  exact happly

end Limits

end Exemplar
