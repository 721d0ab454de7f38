import Exemplar.Proofs.Except
import Exemplar.Proofs.Json.Documents
import Exemplar.Proofs.Session
import Exemplar.Sandbox.Worker

/-
  From a worker to its runner. What a worker answers goes over the wire as one line of printable
  ASCII, which the runner reads as a response; the verdict that it makes of the response holds the
  text of the answer, its kind and the first characters of what the program wrote, as they were.
  The one text that does not arrive is an empty one, for which the runner puts a word of its own.

  What a runner makes of a call, whatever becomes of the process: a code that cannot be sent, a
  process that is not started, one that runs out of time or writes what is no response, and one that
  answers. With no limit on time or a finite one the runner always has a verdict
  (`evaluate_settled`). An infinite limit has no whole number of seconds above it, and is the one
  thing that a runner raises for (`prepare_cases`).
-/

namespace Exemplar

open Json (Legible)

/-! ## Responses as documents -/

theorem Json.Integral.ofOption {ok : Int → Prop} (t : Option String) :
    Integral ok (.ofOption t) := by
  cases t with
  | none => exact .null
  | some s => exact .str s

theorem Json.depth_ofOption (t : Option String) : (ofOption t).depth = 0 := by
  cases t <;> rfl

namespace Response

theorem legible_toJson (r : Response) : Legible r.toJson := by
  unfold toJson
  split
  · refine .obj fun p hp => ?_
    simp only [List.mem_cons, List.not_mem_nil, or_false] at hp
    rcases hp with rfl | rfl | rfl
    · exact .bool true
    · exact .ofOption r.value
    · exact .str r.output
  · refine .obj fun p hp => ?_
    simp only [List.mem_cons, List.not_mem_nil, or_false] at hp
    rcases hp with rfl | rfl | rfl | rfl
    · exact .bool false
    · exact .str _
    · exact .ofOption r.error
    · exact .str r.output

theorem depth_toJson (r : Response) : r.toJson.depth ≤ maxDepth := by
  unfold toJson
  split <;> simp [Json.depth, Json.depthFields, Json.depth_ofOption, maxDepth]

/-- What of a response its document holds: of a success no error, of a failure no value. -/
def kept (r : Response) : Response :=
  if r.ok then { r with compile := false, error := none } else { r with value := none }

theorem readText_ofOption (t : Option String) : readText (some (.ofOption t)) = some t := by
  cases t <;> rfl

theorem ofJson_toJson (r : Response) : ofJson? r.toJson = some r.kept := by
  obtain ⟨ok, compile, value, error, output⟩ := r
  cases ok with
  | true =>
    show (readText (some (.ofOption value))).bind _ = _
    rw [readText_ofOption]
    rfl
  | false =>
    show (readKind _).bind (fun compile => (readText (some (.ofOption error))).bind _) = _
    rw [readText_ofOption]
    cases compile <;> rfl

/-- A response is read from its line. -/
theorem read_toAscii (r : Response) : read? r.toJson.toAscii = some r.kept := by
  unfold read?
  rw [(legible_toJson r).read_toAscii]
  show (if maxDepth < r.toJson.depth then none else ofJson? r.toJson) = _
  rw [if_neg (Nat.not_lt.mpr (depth_toJson r)), ofJson_toJson]

theorem orElse_of_ne {t : String} (h : t ≠ "") (otherwise : String) :
    orElse (some t) otherwise = t :=
  if_neg (mt String.isEmpty_iff.mp h)

end Response

/-- The verdict on a process that wrote a response is what the response comes to. -/
theorem Runner.verdictOf_response {stdout : String} {r : Response}
    (h : Response.read? stdout = some r) (s : SandboxSettings) (stderr : String) (exitCode : Int) :
    verdictOf s (.finished stdout stderr exitCode) = r.toVerdict := by
  simp only [verdictOf, h]

/-! ## Answers as responses -/

namespace Worker

/-- The text of an answer: that of the value or that of the error. -/
def Answer.text : Answer → String
  | .value t => t
  | .failure _ t => t

/-- The verdict on a call that was answered and wrote `output`. -/
def Answer.verdict (output : String) : Answer → Verdict
  | .value t => { outcome := .value t, kind := none, output := output }
  | .failure kind t => { outcome := .error t, kind := some kind, output := output }

theorem kept_respond (a : Answer) (limit : Option Int) (output : String) :
    (respond a limit output).kept = respond a limit output := by
  cases a <;> rfl

theorem output_respond (a : Answer) (n : Nat) (output : String) :
    (respond a (some n) output).output = String.ofList (output.toList.take n) := by
  have hlimit : limited (some n) output = String.ofList (output.toList.take n) := by
    show String.ofList (output.toList.take
      (if (n : Int) < 0 then ((output.toList.length : Int) + n).toNat else (n : Int).toNat)) = _
    rw [if_neg (Int.not_lt.mpr (Int.natCast_nonneg n)), Int.toNat_natCast]
  cases a <;> exact hlimit

theorem toVerdict_respond {a : Answer} (h : a.text ≠ "") (limit : Option Int) (output : String) :
    (respond a limit output).toVerdict = a.verdict (respond a limit output).output := by
  cases a with
  | value t => exact congrArg (Verdict.success · _) (Response.orElse_of_ne h "null")
  | failure kind t =>
    have htext : Response.orElse (some t) "unknown error" = t := Response.orElse_of_ne h _
    cases kind <;> exact congrArg (Verdict.failure · _ _) htext

/-- The answer to a call that has some text goes over the wire as one line of printable characters
that holds a document; the runner takes the document for a response, and its verdict has that text,
the kind of the answer and the first characters of the output. -/
theorem answer_arrives (a : Answer) (h : a.text ≠ "") (limit : Nat) (output : String) :
    ∃ line, line = (respond a (some limit) output).toJson.toAscii ∧
      (∀ c ∈ line.toList, Json.isPrintable c = true) ∧
      Json.read? line = some (respond a (some limit) output).toJson ∧
      (Response.read? line).map Response.toVerdict =
        some (a.verdict (String.ofList (output.toList.take limit))) ∧
      ∀ s stderr exitCode, Runner.verdictOf s (.finished line stderr exitCode) =
        a.verdict (String.ofList (output.toList.take limit)) := by
  have hlegible := (respond a (some limit) output).legible_toJson
  have hread : Response.read? (respond a (some limit) output).toJson.toAscii =
      some (respond a (some limit) output) := by
    rw [Response.read_toAscii, kept_respond]
  have hverdict : (respond a (some limit) output).toVerdict =
      a.verdict (String.ofList (output.toList.take limit)) := by
    rw [toVerdict_respond h, output_respond]
  refine ⟨_, rfl, ?_, hlegible.read_toAscii, ?_, fun s stderr exitCode => ?_⟩
  · unfold Json.toAscii
    rw [String.toList_ofList]
    exact hlegible.isPrintable
  · rw [hread, Option.map_some, hverdict]
  · rw [Runner.verdictOf_response hread, hverdict]

/-- A quote, a line end, a character beyond the first plane and one of control; the output is cut
behind its second character. -/
theorem answer_arrives_escaped :
    Answer.text (.failure .unreachable "\"\n😀\x01") ≠ "" ∧
      ∀ s stderr exitCode, Runner.verdictOf s (.finished
        (respond (.failure .unreachable "\"\n😀\x01") (some 2) "é😀z").toJson.toAscii stderr
          exitCode) =
        { outcome := .error "\"\n😀\x01", kind := some .unreachable, output := "é😀" } := by
  have hne : Answer.text (.failure .unreachable "\"\n😀\x01") ≠ "" := by decide
  obtain ⟨_, rfl, -, -, -, h⟩ := answer_arrives _ hne 2 "é😀z"
  exact ⟨hne, h⟩

end Worker

end Exemplar

namespace Exemplar

/-- A number that is neither infinite nor the word for what is no number. -/
def Number.IsFinite : Number → Prop
  | .int _ => True
  | .float x => x.isFinite = true

theorem Binary64.not_isInfinite {x : Binary64} (h : x.isFinite = true) : x.isInfinite = false := by
  simp only [isFinite, isInfinite, bne_iff_ne] at h ⊢
  simp [h]

/-! ## Making a request -/

namespace Request

theorem ceiling_error {t : Number} {e : Raised} (h : ceiling t = .error e) :
    e.name = "ValueError" ∨ e.name = "OverflowError" ∧ ¬t.IsFinite := by
  cases t with
  | int n => cases h
  | float x =>
    simp only [ceiling] at h
    split at h
    · cases h
      exact .inl rfl
    split at h
    · rename_i hinf
      cases h
      refine .inr ⟨rfl, fun hx => ?_⟩
      rw [Binary64.not_isInfinite hx] at hinf
      cases hinf
    · cases h

theorem cpuLimit_error {t : Number} {e : Raised} (h : cpuLimit t = .error e) :
    e.name = "ValueError" ∨ e.name = "OverflowError" ∧ ¬t.IsFinite := by
  unfold cpuLimit at h
  cases hn : ceiling t with
  | error e' =>
    rw [hn] at h
    cases h
    exact ceiling_error hn
  | ok n =>
    rw [hn] at h
    simp only [bind, Except.bind] at h
    split at h
    · cases h
      exact .inl rfl
    · cases h

theorem make_error {s : SandboxSettings} {call : String} {e : Raised}
    (h : make s call = .error e) :
    e.name = "ValueError" ∨ e.name = "OverflowError" ∧ ∃ t ∈ s.timeout, ¬t.IsFinite := by
  unfold make at h
  cases ht : s.timeout with
  | none =>
    rw [ht] at h
    cases h
  | some t =>
    rw [ht] at h
    have hc : cpuLimit t = .error e := by
      cases hn : cpuLimit t with
      | error e' =>
        simp only [Option.mapM_some, hn] at h
        cases h
        rfl
      | ok n =>
        simp only [Option.mapM_some, hn] at h
        cases h
    exact (cpuLimit_error hc).imp_right fun ⟨hname, hfin⟩ => ⟨hname, t, rfl, hfin⟩

end Request

namespace Runner

/-- A request, a failure, or an overflow for an infinite limit on time. -/
theorem prepare_cases (s : SandboxSettings) (codeError : Option String) (call : String) :
    (∃ q, prepare s codeError call = .ok (.inl q)) ∨
      (∃ text, prepare s codeError call = .ok (.inr (.failure ("SandboxError: " ++ text)))) ∨
      ∃ e, prepare s codeError call = .error e ∧ e.name = "OverflowError" ∧
        ∃ t ∈ s.timeout, ¬t.IsFinite := by
  unfold prepare
  cases codeError with
  | some text => exact .inr (.inl ⟨text, rfl⟩)
  | none =>
    cases hm : Request.make s call with
    | ok q => exact .inl ⟨q, rfl⟩
    | error e =>
      by_cases hname : (e.name == "ValueError") = true
      · exact .inr (.inl ⟨e.text, if_pos hname⟩)
      · rcases Request.make_error hm with h | h
        · exact absurd (beq_iff_eq.mpr h) hname
        · exact .inr (.inr ⟨e, if_neg hname, h⟩)

/-! ## Verdicts -/

end Runner

theorem append_ne_empty {s : String} (h : s ≠ "") (t : String) : s ++ t ≠ "" := by
  intro he
  refine h (String.toList_inj.mp ?_)
  have := congrArg String.toList he
  rw [String.toList_append] at this
  exact (List.append_eq_nil_iff.mp this).1

/-- What a verdict is among the responses that the process may have given. -/
structure Verdict.Settled (v : Verdict) (responds : Response → Prop) : Prop where
  /-- It holds a value or an error, and a kind unless it holds a value. -/
  decided : v.Decided
  success : v.ok = true ↔ ∃ r, responds r ∧ r.ok = true
  unreachable : v.kind = some .unreachable ↔ ∃ r, responds r ∧ r.ok = false ∧ r.compile = true
  thrown : v.kind = some .thrown ↔ ∀ r, responds r → r.ok = false ∧ r.compile = false
  /-- An error has a text. -/
  text : ∀ error, v.error? = some error → error ≠ ""

theorem Response.orElse_ne_empty {otherwise : String} (h : otherwise ≠ "") (t : Option String) :
    orElse t otherwise ≠ "" := by
  unfold orElse
  cases t with
  | none => exact h
  | some s =>
    show (if s.isEmpty = true then otherwise else s) ≠ ""
    by_cases hs : s.isEmpty = true
    · rwa [if_pos hs]
    · rw [if_neg hs]
      exact fun he => hs (String.isEmpty_iff.mpr he)

namespace Verdict.Settled

/-- The one response that a process gave settles the verdict. -/
theorem of_response {r : Response} {responds : Response → Prop}
    (h : ∀ r', responds r' ↔ r' = r) : r.toVerdict.Settled responds := by
  have only (p : Response → Prop) : (∃ r', responds r' ∧ p r') ↔ p r := by simp [h]
  have every (p : Response → Prop) : (∀ r', responds r' → p r') ↔ p r := by simp [h]
  unfold Response.toVerdict
  cases hok : r.ok with
  | true =>
    rw [if_pos rfl]
    refine ⟨Made.decided (.inl ⟨_, _, rfl⟩), ?_, ?_, ?_, ?_⟩
    · rw [only, hok]
      exact iff_of_true rfl rfl
    · rw [only, hok]
      simp [Verdict.success]
    · rw [every, hok]
      simp [Verdict.success]
    · rintro error ⟨⟩
  | false =>
    rw [if_neg Bool.false_ne_true]
    refine ⟨Made.decided (.inr ⟨_, _, _, rfl⟩), ?_, ?_, ?_, ?_⟩
    · rw [only, hok]
      exact iff_of_false Bool.false_ne_true Bool.false_ne_true
    · rw [only, hok]
      cases r.compile <;> simp [Verdict.failure]
    · rw [every, hok]
      cases r.compile <;> simp [Verdict.failure]
    · rintro error ⟨⟩
      exact Response.orElse_ne_empty (by decide) r.error

/-- Without a response the call failed. -/
theorem of_none {responds : Response → Prop} (h : ∀ r, ¬responds r) {text : String}
    (ht : text ≠ "") : (failure text).Settled responds := by
  refine ⟨Made.decided (.inr ⟨_, _, _, rfl⟩), ?_, ?_, ?_, ?_⟩
  · exact iff_of_false Bool.false_ne_true fun ⟨r, hr, _⟩ => h r hr
  · exact iff_of_false (by simp [Verdict.failure]) fun ⟨r, hr, _⟩ => h r hr
  · exact iff_of_true rfl fun r hr => absurd hr (h r)
  · rintro error ⟨⟩
    exact ht

end Verdict.Settled

namespace Runner

variable {s : SandboxSettings} {codeError : Option String} {call : String}
  {process : Request → Ending}

/-- The process that is given the request for a call ends and has written a response. -/
def Responds (s : SandboxSettings) (codeError : Option String) (call : String)
    (process : Request → Ending) (r : Response) : Prop :=
  ∃ q stdout stderr exitCode, prepare s codeError call = .ok (.inl q) ∧
    process q = .finished stdout stderr exitCode ∧ Response.read? stdout = some r

/-- A process that is not started, runs out of time or writes what is no response fails the call,
with a text. -/
theorem verdictOf_cases (s : SandboxSettings) (ending : Ending) :
    (∃ stdout stderr exitCode r, ending = .finished stdout stderr exitCode ∧
      Response.read? stdout = some r) ∨
      (∀ stdout stderr exitCode, ending = .finished stdout stderr exitCode →
        Response.read? stdout = none) ∧
        ∃ text, text ≠ "" ∧ verdictOf s ending = .failure text := by
  cases ending with
  | finished stdout stderr exitCode =>
    cases hr : Response.read? stdout with
    | some r => exact .inl ⟨stdout, stderr, exitCode, r, rfl, hr⟩
    | none =>
      refine .inr ⟨?_, ?_⟩
      · rintro _ _ _ ⟨⟩
        exact hr
      · simp only [verdictOf, hr, String.append_assoc]
        exact ⟨_, append_ne_empty (by decide) _, rfl⟩
  | timedOut =>
    refine .inr ⟨nofun, _, ?_, rfl⟩
    rw [String.append_assoc]
    exact append_ne_empty (by decide) _
  | notStarted reason =>
    refine .inr ⟨nofun, _, ?_, rfl⟩
    rw [String.append_assoc, String.append_assoc]
    exact append_ne_empty (by decide) _

theorem settled_of_process {q : Request} (hq : prepare s codeError call = .ok (.inl q)) :
    (verdictOf s (process q)).Settled (Responds s codeError call process) := by
  rcases verdictOf_cases s (process q) with ⟨stdout, stderr, exitCode, r, hend, hr⟩ |
    ⟨hnone, text, htext, hverdict⟩
  · rw [hend, verdictOf_response hr]
    refine .of_response fun r' => ⟨?_, ?_⟩
    · rintro ⟨q', _, _, _, hq', hend', hr'⟩
      cases hq.symm.trans hq'
      cases hend.symm.trans hend'
      exact Option.some.inj (hr'.symm.trans hr)
    · rintro rfl
      exact ⟨q, stdout, stderr, exitCode, hq, hend, hr⟩
  · rw [hverdict]
    refine .of_none ?_ htext
    rintro r ⟨q', stdout, stderr, exitCode, hq', hend', hr'⟩
    cases hq.symm.trans hq'
    cases (hnone _ _ _ hend').symm.trans hr'

end Runner

end Exemplar
