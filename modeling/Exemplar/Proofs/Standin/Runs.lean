import Exemplar.Proofs.Standin.Operate

/-
  Programs over stand-ins, as they run. A program imports modules and uses the stand-ins that it has
  obtained so far, in any order and with any values of its own or from earlier uses as operands. Its
  ledger has the stand-ins by their addresses, each with the name that the imports and uses behind
  it spell. What one use comes to is said by `Event.Enters` in terms of the ledger, and
  `Use.run_enters` shows it of the machine. By induction on the run (`uses_accounted`) every
  stand-in bears its name to the end, no use of one fails, and none yields anything but stand-ins
  and what the program has handed over itself.
-/

namespace Exemplar.Machine

open Exec (Ends Answers)

/-- An import, or something done with a stand-in. -/
inductive Use
  | importModule (name : String) (level : Nat) (hasNames : Bool)
  | attr (on : Value) (name : String)
  | call (on : Value) (args : List Value) (named : Fields)
  | item (on key : Value)
  /-- The stand-in as the left operand of `|`. -/
  | orElse (on other : Value)
  /-- The stand-in as the right operand of `|`. -/
  | orBehind (on other : Value)

/-- A use that has been made: the state before it, and its result unless it has failed. -/
structure Event where
  before : State
  use : Use
  result : Option Value

/-- The stand-ins of a program by their addresses, with their names. -/
abbrev Ledger := List (Nat × String)

namespace Import

/-- A module is really imported. -/
def Allows (allowed : List String) (name : String) (level : Nat) : Prop :=
  level = 0 ∧ (name.splitOn ".").headD "" ∈ allowed

end Import

namespace Use

/-- The result of a use. -/
def run : Use → Exec Value
  | .importModule name level hasNames => Import.guarded name level hasNames
  | .attr on name => Attribute.get Run.machine on name
  | .call on args named => Run.machine.call on args named
  | .item on key => Item.get Run.machine on key
  | .orElse on other => Operate.binary Run.machine .bitOr on other
  | .orBehind on other => Operate.binary Run.machine .bitOr other on

/-- The import of a module that is allowed. -/
def IsGenuine (allowed : List String) : Use → Prop
  | .importModule name level _ => Import.Allows allowed name level
  | _ => False

/-- A stand-in that one of some events has resulted in. -/
def Obtained (s : State) (done : List Event) (v : Value) : Prop :=
  s.HasType v (.kind .stub) ∧ ∃ e ∈ done, e.result = some v

/-- A program comes to a use after some events. Stand-ins, the one that is used and those among the
operands, are results of earlier uses. A name is plain, and none of the arguments is named after the
stand-in itself. The operands of `|` are of types of the library; on the left of a stand-in there is
no view of a dictionary, which would iterate over it, and no proxy of another stand-in. -/
def Fits (s : State) (done : List Event) : Use → Prop
  | .importModule _ _ _ => True
  | .attr on name => Obtained s done on ∧ isDunder name = false ∧ name ≠ "_name"
  | .call on args named => Obtained s done on ∧ named.lookup "self" = none ∧
      ∀ w ∈ args, s.HasType w (.kind .stub) → Obtained s done w
  | .item on _ => Obtained s done on
  | .orElse on other => Obtained s done on ∧ ∃ k, s.HasType other (.kind k)
  | .orBehind on other => Obtained s done on ∧ s.Unproxied other ∧ ∃ k, s.HasType other (.kind k) ∧
      k ≠ .view .keys ∧ k ≠ .view .items ∧ (k = .stub → Obtained s done other)

end Use

/-- The runs of programs from a state, the last event first. Between its uses a program may do
whatever keeps what is in the store. -/
inductive Runs (s₀ : State) : List Event → State → Prop
  | start : Runs s₀ [] s₀
  | meanwhile {done : List Event} {s s' : State} : Runs s₀ done s → s.Keeps s' → Runs s₀ done s'
  | answered {done : List Event} {s s' : State} {u : Use} {v : Value} : Runs s₀ done s →
      u.Fits s done → u.run.run s = .ok v s' → Runs s₀ (⟨s, u, some v⟩ :: done) s'
  | failed {done : List Event} {s s' : State} {u : Use} {stop : Stop} : Runs s₀ done s →
      u.Fits s done → u.run.run s = .error stop s' → Runs s₀ (⟨s, u, none⟩ :: done) s'

/-- An address that is not in the ledger. -/
def Ledger.IsNew (names : Ledger) (a : Nat) : Prop := ∀ n, (a, n) ∉ names

/-- What an event is by the names of the stand-ins so far, and the names after it. -/
inductive Event.Enters (allowed : List String) (s : State) (names : Ledger) :
    Use → Option Value → Ledger → Prop
  | imported {name level hasNames a} : ¬Import.Allows allowed name level → names.IsNew a →
      Enters allowed s names (.importModule name level hasNames) (some (.object a))
        ((a, name) :: names)
  | loaded {name level hasNames r} : Import.Allows allowed name level →
      Enters allowed s names (.importModule name level hasNames) r names
  | attr {b n name a} : (b, n) ∈ names → names.IsNew a →
      Enters allowed s names (.attr (.object b) name) (some (.object a))
        ((a, n ++ "." ++ name) :: names)
  | passed {b n w} : (b, n) ∈ names → s.CanCall w →
      Enters allowed s names (.call (.object b) [w] []) (some w) names
  | called {b n args named a} : (b, n) ∈ names →
      (∀ w, args = [w] → named = [] → ¬s.CanCall w) → names.IsNew a →
      Enters allowed s names (.call (.object b) args named) (some (.object a))
        ((a, n ++ "()") :: names)
  | item {b n key} : (b, n) ∈ names →
      Enters allowed s names (.item (.object b) key) (some (.object b)) names
  | orElse {b n other} : (b, n) ∈ names →
      Enters allowed s names (.orElse (.object b) other) (some (.object b)) names
  | orBehind {b n other} : (b, n) ∈ names → (∀ c m, other = .object c → (c, m) ∉ names) →
      Enters allowed s names (.orBehind (.object b) other) (some (.object b)) names
  | orBetween {b c m n} : (b, n) ∈ names → (c, m) ∈ names →
      Enters allowed s names (.orBehind (.object b) (.object c)) (some (.object c)) names

/-- The names of the stand-ins that some events have come to. -/
inductive Accounts (allowed : List String) : List Event → Ledger → Prop
  | start : Accounts allowed [] []
  | enter {done : List Event} {names names' : Ledger} {e : Event} : Accounts allowed done names →
      Event.Enters allowed e.before names e.use e.result names' →
      Accounts allowed (e :: done) names'

/-! ## One use -/

variable {s s' : State} {names names' : Ledger} {done : List Event} {u : Use} {v : Value}
  {allowed : List String}

/-- A value is a stand-in of the ledger. -/
def Ledger.Has (names : Ledger) (v : Value) : Prop := ∃ a n, v = .object a ∧ (a, n) ∈ names

/-- The stand-ins of the ledger are in the store. -/
def Ledger.Holds (names : Ledger) (s : State) : Prop :=
  ∀ a n, (a, n) ∈ names → s.objects[a]? = some (.standin n)

/-- A value is no stand-in and will not be one. -/
def State.Bars (s : State) (v : Value) : Prop :=
  ∀ b, v = .object b → ∃ o, s.objects[b]? = some o ∧ o.cls ≠ .kind .stub

namespace Ledger.Holds

theorem keeps (h : names.Holds s) (hk : s.Keeps s') : names.Holds s' :=
  fun a n hmem => hk.standins (h a n hmem)

theorem isNew (h : names.Holds s) {a : Nat} (ha : s.objects[a]? = none) : names.IsNew a := by
  intro n hmem
  rw [h a n hmem] at ha
  cases ha

theorem enter (h : names.Holds s') {a : Nat} {n : String}
    (ha : s'.objects[a]? = some (.standin n)) : Ledger.Holds ((a, n) :: names) s' := by
  intro b m hmem
  obtain h' | hmem := List.mem_cons.mp hmem
  · cases h'
    exact ha
  · exact h b m hmem

end Ledger.Holds

theorem State.Bars.keeps (h : s.Bars v) (hk : s.Keeps s') : s'.Bars v := by
  intro b hb
  obtain ⟨o, ho, hcls⟩ := h b hb
  obtain ⟨o', ho', hlike⟩ := hk.types ho
  exact ⟨o', ho', hlike.1 ▸ hcls⟩

theorem State.HasModule.bars (h : s.HasModule v) : s.Bars v := by
  obtain ⟨b, o, rfl, ho, hcls, -⟩ := h
  rintro _ ⟨⟩
  exact ⟨o, ho, fun hstub => by rw [hcls] at hstub; cases hstub⟩

/-- Only what is in the store can be called, and no module. -/
theorem State.CanCall.exists_object {b : Nat} (h : s.CanCall (.object b)) :
    ∃ o, s.objects[b]? = some o ∧ ¬o.IsModule := by
  have hget : s.objects.getD b default = s.objects[b]?.getD default :=
    Array.getD_eq_getD_getElem?
  cases ho : s.objects[b]? with
  | none =>
    rw [ho] at hget
    exact absurd h (not_canCall (.head _) (by rw [hget]; rfl) (by rw [hget]; exact nofun))
  | some o =>
    rw [ho] at hget
    refine ⟨o, rfl, fun ⟨hcls, name, hdata⟩ => ?_⟩
    refine absurd h (not_canCall (.tail _ (.head _)) (by rw [hget]; exact hcls) fun c hc => ?_)
    rw [hget, Option.getD_some, hdata] at hc
    cases hc

theorem State.CanCall.not_hasModule (h : s.CanCall v) (hk : s.Keeps s') : ¬s'.HasModule v := by
  rintro ⟨b, o', rfl, ho', hmodule⟩
  obtain ⟨o, ho, hnot⟩ := h.exists_object
  obtain ⟨o'', ho'', hlike⟩ := hk.types ho
  rw [ho'] at ho''
  cases ho''
  exact hnot (hlike.2.mp hmodule)

theorem State.CanCall.has_or_bars (h : s.CanCall v)
    (hstub : s.HasType v (.kind .stub) → names.Has v) : names.Has v ∨ s.Bars v := by
  cases v with
  | object b =>
    obtain ⟨o, ho, -⟩ := h.exists_object
    by_cases hcls : o.cls = .kind .stub
    · exact .inl (hstub ((Typing.of_run ho).trans (by rw [hcls])))
    · refine .inr ?_
      rintro _ ⟨⟩
      exact ⟨o, ho, hcls⟩
  | _ => exact .inr nofun

/-- What a use of a stand-in comes to: it is entered into the ledger. -/
theorem Use.run_enters (hallowed : s.allowed = allowed) (hloaded : s.Loaded)
    (hholds : names.Holds s) (hknown : ∀ v, Use.Obtained s done v → names.Has v)
    (hfits : u.Fits s done) :
    Ends u.run s (fun v s' => ∃ names', Event.Enters allowed s names u (some v) names' ∧
        names'.Holds s' ∧ (names'.Has v ∨ s'.Bars v))
      fun _ _ => u.IsGenuine allowed := by
  have gains : ∀ {n : String} {v : Value} {s' : State}, s.Keeps s' → s.Gains n v s' →
      (∀ a, names.IsNew a → Event.Enters allowed s names u (some (.object a)) ((a, n) :: names)) →
      ∃ names', Event.Enters allowed s names u (some v) names' ∧ names'.Holds s' ∧
        (names'.Has v ∨ s'.Bars v) := by
    rintro n _ s' hk ⟨a, rfl, hnew, ha⟩ henters
    exact ⟨_, henters a (hholds.isNew hnew), (hholds.keeps hk).enter ha,
      .inl ⟨a, n, rfl, List.mem_cons_self⟩⟩
  have same : ∀ {b : Nat} {n : String}, (b, n) ∈ names →
      Event.Enters allowed s names u (some (.object b)) names →
      ∃ names', Event.Enters allowed s names u (some (.object b)) names' ∧ names'.Holds s ∧
        (names'.Has (.object b) ∨ s.Bars (.object b)) :=
    fun hmem henters => ⟨names, henters, hholds, .inl ⟨_, _, rfl, hmem⟩⟩
  cases u with
  | importModule name level hasNames =>
    subst hallowed
    refine .bind_of_run (a := s) rfl ?_
    by_cases hgenuine : Import.Allows s.allowed name level
    · rw [if_pos (by simpa [Import.Allows] using hgenuine)]
      refine (Import.genuine_ends name hasNames hloaded).mono ?_ fun _ _ _ _ => hgenuine
      rintro v s' hk hv
      refine ⟨names, .loaded hgenuine, hholds.keeps hk, .inr ?_⟩
      obtain rfl | hv := hv
      · exact nofun
      · exact hv.bars
    · rw [if_neg (by simpa [Import.Allows] using hgenuine)]
      refine (Attribute.standin_ends name).ends.mono ?_ fun _ _ _ => id
      exact fun v s' hk hv => gains hk hv fun a hnew => .imported hgenuine hnew
  | attr on name =>
    obtain ⟨hon, hdunder, hname⟩ := hfits
    obtain ⟨b, n, rfl, hmem⟩ := hknown _ hon
    refine (Attribute.get_standin (hholds b n hmem) hdunder hname).ends.mono ?_ fun _ _ _ => id
    exact fun v s' hk hv => gains hk hv fun a hnew => .attr hmem hnew
  | call on args named =>
    obtain ⟨hon, hself, hargs⟩ := hfits
    obtain ⟨b, n, rfl, hmem⟩ := hknown _ hon
    have hb := hholds b n hmem
    refine .congr (Call.value_standin hb) ?_
    refine (Slot.callStandin_ends hb hself).ends.mono ?_ fun _ _ _ => id
    rintro v s' hk (⟨w, rfl, rfl, hcall, rfl⟩ | ⟨hnot, hv⟩)
    · exact ⟨names, .passed hmem hcall, hholds.keeps hk, (hcall.has_or_bars fun hstub =>
        hknown _ (hargs v (.head _) hstub)).imp_right fun hbars => hbars.keeps hk⟩
    · exact gains hk hv fun a hnew => .called hmem hnot hnew
  | item on key =>
    obtain ⟨b, n, rfl, hmem⟩ := hknown _ hfits
    exact .of_run (Item.get_standin (hholds b n hmem) key) (.refl s) (same hmem (.item hmem))
  | orElse on other =>
    obtain ⟨hon, k, hother⟩ := hfits
    obtain ⟨b, n, rfl, hmem⟩ := hknown _ hon
    exact .of_run (Operate.stub_first hon.1 hother) (.refl s) (same hmem (.orElse hmem))
  | orBehind on other =>
    obtain ⟨hon, hproxy, k, hother, hkeys, hitems, hstub⟩ := hfits
    obtain ⟨b, n, rfl, hmem⟩ := hknown _ hon
    by_cases hk : k = .stub
    · subst hk
      obtain ⟨c, m, rfl, hmem'⟩ := hknown _ (hstub rfl)
      exact .of_run (Operate.stub_first hother hon.1) (.refl s) (same hmem' (.orBetween hmem hmem'))
    · have hnot : ∀ c m, other = .object c → (c, m) ∉ names := by
        rintro c m rfl hmem'
        have hother' := Typing.of_standin (hholds c m hmem')
        rw [show (Typing.of (.object c)).run s = _ from hother] at hother'
        cases hother'
        exact hk rfl
      refine (Operate.stub_last (hholds b n hmem) hother hk ⟨hkeys, hitems⟩ hproxy).ends.mono ?_
        fun _ _ _ => id
      rintro _ s' hk rfl
      exact ⟨names, .orBehind hmem hnot, hholds.keeps hk, .inl ⟨b, n, rfl, hmem⟩⟩

/-! ## Runs -/

theorem Event.Enters.subset {r : Option Value} (h : Event.Enters allowed s names u r names') :
    names ⊆ names' := by
  cases h with
  | imported | attr | called => exact List.subset_cons_self _ _
  | _ => exact List.Subset.refl _

theorem Ledger.Has.mono (h : names.Has v) (hsub : names ⊆ names') : names'.Has v := by
  obtain ⟨a, n, rfl, hmem⟩ := h
  exact ⟨a, n, rfl, hsub hmem⟩

/-- What a use yields that is no allowed import. -/
def Event.Yields (names : Ledger) (e : Event) : Prop :=
  ∃ v, e.result = some v ∧
    (names.Has v ∨ ∃ on, e.use = .call on [v] [] ∧ e.before.CanCall v)

theorem Event.Enters.yields (h : Event.Enters allowed s names u (some v) names') :
    u.IsGenuine allowed ∨ Event.Yields names' ⟨s, u, some v⟩ := by
  have has : ∀ {a : Nat} {n : String} {names : Ledger}, (a, n) ∈ names →
      Event.Yields names ⟨s, u, some (.object a)⟩ :=
    fun hmem => ⟨_, rfl, .inl ⟨_, _, rfl, hmem⟩⟩
  cases h with
  | imported | attr | called => exact .inr (has List.mem_cons_self)
  | loaded hallowed => exact .inl hallowed
  | passed _ hcall => exact .inr ⟨_, rfl, .inr ⟨_, rfl, hcall⟩⟩
  | item hmem | orElse hmem | orBehind hmem | orBetween _ hmem => exact .inr (has hmem)

/-- What holds after every run. -/
structure Tracks (s₀ : State) (done : List Event) (names : Ledger) (s : State) : Prop where
  keeps : s₀.Keeps s
  holds : names.Holds s
  accounts : Accounts s₀.allowed done names
  results : ∀ e ∈ done, ∀ v, e.result = some v → names.Has v ∨ s.Bars v
  earlier : ∀ e ∈ done, e.before.Keeps s
  yields : ∀ e ∈ done, e.use.IsGenuine s₀.allowed ∨ e.Yields names

namespace Tracks

variable {s₀ : State}

theorem known (h : Tracks s₀ done names s) (hv : Use.Obtained s done v) : names.Has v := by
  obtain ⟨hstub, e, he, hresult⟩ := hv
  refine (h.results e he v hresult).resolve_right fun hbars => ?_
  obtain ⟨b, rfl⟩ := hstub.exists_object
  obtain ⟨o, ho, hcls⟩ := hbars b rfl
  obtain ⟨o', ho', hcls'⟩ := hstub.object nofun
  rw [ho] at ho'
  cases ho'
  exact hcls hcls'

/-- What keeps the store does not change the ledger. -/
theorem later (h : Tracks s₀ done names s) (hk : s.Keeps s') : Tracks s₀ done names s' where
  keeps := h.keeps.trans hk
  holds := h.holds.keeps hk
  accounts := h.accounts
  results e he v hv := (h.results e he v hv).imp_right (·.keeps hk)
  earlier e he := (h.earlier e he).trans hk
  yields := h.yields

/-- One more event is entered into the ledger. -/
theorem enter {r : Option Value} (h : Tracks s₀ done names s) (hk : s.Keeps s')
    (henters : Event.Enters s₀.allowed s names u r names') (hholds : names'.Holds s')
    (hresult : ∀ v, r = some v → names'.Has v ∨ s'.Bars v)
    (hyields : u.IsGenuine s₀.allowed ∨ Event.Yields names' ⟨s, u, r⟩) :
    Tracks s₀ (⟨s, u, r⟩ :: done) names' s' where
  keeps := h.keeps.trans hk
  holds := hholds
  accounts := .enter h.accounts henters
  results := List.forall_mem_cons.mpr ⟨hresult, fun e he v hv =>
    (h.results e he v hv).imp (·.mono henters.subset) (·.keeps hk)⟩
  earlier := List.forall_mem_cons.mpr ⟨hk, fun e he => (h.earlier e he).trans hk⟩
  yields := List.forall_mem_cons.mpr ⟨hyields, fun e he => (h.yields e he).imp_right
    fun ⟨v, hv, hhas⟩ => ⟨v, hv, hhas.imp_left (·.mono henters.subset)⟩⟩

end Tracks

/-- By induction on the run. -/
theorem Runs.tracks {s₀ : State} (hloaded : s₀.Loaded) (h : Runs s₀ done s) :
    ∃ names, Tracks s₀ done names s := by
  induction h with
  | start => exact ⟨[], .refl s₀, nofun, .start, nofun, nofun, nofun⟩
  | meanwhile _ hk ih =>
    obtain ⟨names, htracks⟩ := ih
    exact ⟨names, htracks.later hk⟩
  | answered _ hfits hrun ih =>
    obtain ⟨names, htracks⟩ := ih
    have hends := Use.run_enters htracks.keeps.allowed (htracks.keeps.loaded hloaded) htracks.holds
      (fun _ => htracks.known) hfits
    obtain ⟨hk, names', henters, hholds, hresult⟩ := hends.of_ok hrun
    exact ⟨names', htracks.enter hk henters hholds (by rintro _ ⟨⟩; exact hresult) henters.yields⟩
  | @failed done s s' u stop _ hfits hrun ih =>
    obtain ⟨names, htracks⟩ := ih
    have hends := Use.run_enters htracks.keeps.allowed (htracks.keeps.loaded hloaded) htracks.holds
      (fun _ => htracks.known) hfits
    obtain ⟨hk, hgenuine⟩ := hends.of_error hrun
    cases u with
    | importModule name level hasNames =>
      exact ⟨names, htracks.enter hk (.loaded hgenuine) (htracks.holds.keeps hk) nofun
        (.inl hgenuine)⟩
    | _ => exact hgenuine.elim

/-- The uses of stand-ins in a program, with the ledger that they are entered into. -/
theorem uses_accounted {s₀ : State} (hloaded : s₀.Loaded) (h : Runs s₀ done s) :
    ∃ names, Accounts s₀.allowed done names ∧
      (∀ a n, (a, n) ∈ names →
        (Run.machine.quoted (.object a)).run s = .ok ("<stub " ++ n ++ ">") s) ∧
      ∀ e ∈ done, e.use.IsGenuine s₀.allowed ∨ e.Yields names ∧
        ∀ v, e.result = some v → ¬s.HasModule v := by
  obtain ⟨names, htracks⟩ := h.tracks hloaded
  refine ⟨names, htracks.accounts, fun a n hmem => ?_, fun e he => ?_⟩
  · exact Show.quoted_standin (htracks.holds a n hmem)
  · refine (htracks.yields e he).imp_right fun hyields => ⟨hyields, ?_⟩
    obtain ⟨v, hv, hhas | ⟨on, -, hcall⟩⟩ := hyields
    all_goals
      rintro v' hv' hmodule
      rw [hv] at hv'
      cases hv'
    · obtain ⟨a, n, rfl, hmem⟩ := hhas
      exact hmodule.ne_standin n (htracks.holds a n hmem)
    · exact hcall.not_hasModule (htracks.earlier e he) hmodule

/-- A decorator of a module that is not there gives back the function. -/
theorem uses_accounted_decorated : ∃ b done s,
    State.Loaded { steps := 0 } ∧ Runs { steps := 0 } done s ∧
      done.map (fun e => (e.use, e.result)) =
        [(.call (.object b) [.builtin "len"] [], some (.builtin "len")),
          (.attr (.object 2) "jit", some (.object b)),
          (.importModule "numba" 0 false, some (.object 2))] ∧
      (Run.machine.quoted (.object b)).run s = .ok "<stub numba.jit>" s := by
  let s₀ : State := { steps := 0 }
  let s₁ : State := { s₀ with objects := s₀.objects.push (.standin "numba") }
  have hloaded : s₀.Loaded := nofun
  have himport : Runs s₀ [⟨s₀, .importModule "numba" 0 false, some (.object 2)⟩] s₁ :=
    .answered .start trivial rfl
  have hnumba : s₁.objects[2]? = some (.standin "numba") := rfl
  have hdunder : isDunder "jit" = false := by decide +kernel
  obtain ⟨_, s₂, hget, hk, b, rfl, -, hjit⟩ :=
    (Attribute.get_standin (e := Run.machine) hnumba hdunder (by decide)).exists_ok
  have hattr := himport.answered (u := .attr (.object 2) "jit")
    ⟨⟨Typing.of_standin hnumba, _, .head _, rfl⟩, hdunder, by decide⟩ hget
  have hpass : (Run.machine.call (.object b) [.builtin "len"] []).run s₂ =
      .ok (.builtin "len") s₂ :=
    (Call.value_standin hjit).trans rfl
  have hcall := hattr.answered (u := .call (.object b) [.builtin "len"] [])
    ⟨⟨Typing.of_standin hjit, _, .head _, rfl⟩, rfl, by rintro _ (_ | ⟨_, ⟨⟩⟩) ⟨⟩⟩ hpass
  refine ⟨b, _, s₂, hloaded, hcall, rfl, ?_⟩
  obtain ⟨names, haccounts, htexts, -⟩ := uses_accounted hloaded hcall
  refine htexts b "numba.jit" ?_
  obtain _ | ⟨haccounts, hcalled⟩ := haccounts
  obtain _ | ⟨haccounts, hgot⟩ := haccounts
  obtain _ | ⟨haccounts, himported⟩ := haccounts
  cases haccounts
  cases himported with
  | loaded hallowed => exact absurd hallowed.2 List.not_mem_nil
  | imported =>
    cases hgot with
    | attr hmem =>
      cases hcalled
      cases List.mem_singleton.mp hmem
      exact .head _

end Exemplar.Machine
