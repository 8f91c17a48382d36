import ConfigTree.Cipher.Fernet
import ConfigTree.Document.File
import ConfigTree.Proofs.Walk.Append

/-!
# The two postures

A tolerant call comes to what a strict one comes to, and tells it differently: where the
strict call fails, the tolerant one has no result and logs the failure at the end.  So one
can always see why a result is absent.

This is so for documents, for files and for texts, with one exception: the tolerant call
for a text that cannot be read has no result either, but logs nothing.

## Main definitions

* `Agree start asDocument strict tolerant` — a strict call and a tolerant call, made with
  the log `start`, agree.
* `AgreeInRun` — the same for calls that always have an outcome, if only an absent result.

## Main results

* `Evaluator.prefix_resolve` — a resolution adds to the log.
* `postures_agree` — which calls agree.
-/

namespace ConfigTree

/-! ### Calls that agree -/

/-- A strict call and a tolerant call agree.  What is logged for a failure is a failure of a
document; `asDocument` tells which. -/
structure Agree (start : Log) (asDocument : Failure → DocumentError)
    (strict : Except Failure Value × Log) (tolerant : Option Value × Log) : Prop where
  /-- They have the same result. -/
  ok_iff (v : Value) : strict.1 = .ok v ↔ tolerant.1 = some v
  /-- With it, they log the same. -/
  log_of_ok (v : Value) : strict.1 = .ok v → tolerant.2 = strict.2
  /-- One fails if the other has no result. -/
  error_iff : (∃ e, strict.1 = .error e) ↔ tolerant.1 = none
  /-- Then the tolerant one logs the failure besides, at the end. -/
  log_of_error (e : Failure) :
    strict.1 = .error e → tolerant.2 = strict.2 ++ [⟨(asDocument e).path, .fatal (asDocument e)⟩]
  /-- The strict one adds to the log. -/
  prefix_strict : start <+: strict.2
  /-- The tolerant one adds to the log. -/
  prefix_tolerant : start <+: tolerant.2

/-- The same for calls whose outcome can be an absent result: the strict one has none such, and
the tolerant one never fails. -/
def AgreeInRun (start : Log) (asDocument : Failure → DocumentError)
    (strict tolerant : Except Failure (Option Value) × Log) : Prop :=
  ∃ (outcome : Except Failure Value) (result : Option Value), strict.1 = outcome.map some
    ∧ tolerant.1 = .ok result ∧ Agree start asDocument (outcome, strict.2) (result, tolerant.2)

variable {start : Log} {asDocument : Failure → DocumentError}

/-- What a tolerant call tells of what a strict one tells. -/
def tolerated (asDocument : Failure → DocumentError) :
    Except Failure Value × Log → Option Value × Log
  | (.ok v, log) => (some v, log)
  | (.error e, log) => (none, log.addFatal (asDocument e))

theorem agree_tolerated {strict : Except Failure Value × Log} (h : start <+: strict.2) :
    Agree start asDocument strict (tolerated asDocument strict) := by
  obtain ⟨e | v, log⟩ := strict
  -- a failure is one entry more
  · have hfatal : log <+: log.addFatal (asDocument e) := List.prefix_append _ _
    exact {
      ok_iff := by simp [tolerated]
      log_of_ok := by simp
      error_iff := by simp [tolerated]
      log_of_error := by
        rintro e' ⟨⟩
        rfl
      prefix_strict := h
      prefix_tolerant := h.trans hfatal }
  · exact {
      ok_iff := by simp [tolerated]
      log_of_ok := fun _ _ => rfl
      error_iff := by simp [tolerated]
      log_of_error := by simp
      prefix_strict := h
      prefix_tolerant := h }

namespace Evaluator

variable (e : Evaluator)

/-! ### Documents -/

/-- The evaluator in another posture. -/
def inPosture (posture : Posture) : Evaluator :=
  { e with config := { e.config with posture := posture } }

/-- A resolution adds to the log. -/
theorem prefix_resolve (document : Value) (file : Option String) (log : Log) :
    log <+: (e.resolve document file log).log :=
  (Walk.appends_walkRoot e.library ⟨e.functions, e.operators, e.keys, e.machine⟩ maxImports document
    e.scope).prefix_log (.start file log)

theorem prefix_strict (document : Value) (log : Log) : log <+: (e.strict document log).2 :=
  e.prefix_resolve document none log

theorem tolerant_eq (file : String) (document : Value) (log : Log) :
    e.tolerant document log = tolerated (Failure.asDocument file) (e.strict document log) := by
  unfold tolerant strict
  rcases e.resolve document none log with ⟨cause | v, log', requests⟩ <;> rfl

theorem agree_strict_tolerant (file : String) (document : Value) (log : Log) :
    Agree log (Failure.asDocument file) (e.strict document log) (e.tolerant document log) := by
  rw [e.tolerant_eq file]
  exact agree_tolerated (e.prefix_strict document log)

theorem agree_run (file : String) (document : Value) (log : Log) :
    AgreeInRun log (Failure.asDocument file) ((e.inPosture .strict).run document log)
      ((e.inPosture .tolerant).run document log) :=
  ⟨(e.strict document log).1, (e.tolerant document log).1, rfl, rfl,
    e.agree_strict_tolerant file document log⟩

/-! ### Files -/

theorem prefix_strictFile (d : Disk) (name : String) (log : Log) :
    log <+: (e.strictFile d name log).2 := by
  unfold strictFile resolveFile
  cases d.read name with
  | error cause => exact List.prefix_refl log
  | ok document => exact e.prefix_resolve document.content document.file log

theorem runFileIn_tolerant_eq (d : Disk) (name : String) (log : Log) :
    let told := tolerated (Failure.asDocument name) (e.strictFile d name log)
    e.runFileIn .tolerant d name log = (.ok told.1, told.2) := by
  unfold runFileIn
  rcases e.strictFile d name log with ⟨cause | v, log'⟩ <;> rfl

theorem runFileIn_strict_eq (d : Disk) (name : String) (log : Log) :
    e.runFileIn .strict d name log
      = ((e.strictFile d name log).1.map some, (e.strictFile d name log).2) := by
  unfold runFileIn
  rcases e.strictFile d name log with ⟨cause | v, log'⟩ <;> rfl

theorem agree_runFile (d : Disk) (name : String) (log : Log) :
    AgreeInRun log (Failure.asDocument name) ((e.inPosture .strict).runFile d name log)
      ((e.inPosture .tolerant).runFile d name log) := by
  -- the posture is all in which the two evaluators differ, and resolving does not look at it
  have hstrict : (e.inPosture .strict).runFile d name log = _ := e.runFileIn_strict_eq d name log
  have htolerant : (e.inPosture .tolerant).runFile d name log = _ :=
    e.runFileIn_tolerant_eq d name log
  rw [hstrict, htolerant]
  exact ⟨_, _, rfl, rfl, agree_tolerated (e.prefix_strictFile d name log)⟩

theorem agree_load (c : Config) (d : Disk) (sealer : Sealer) (name : String) (log : Log) :
    Agree log (Failure.asDocument name) (c.loadStrict d sealer name log)
      (c.load d sealer name log) := by
  have hload : c.load d sealer name log
      = tolerated (Failure.asDocument name) (c.loadStrict d sealer name log) := by
    -- the call sets the posture and then runs the file in it
    have hrun : (onDisk { c with posture := .tolerant } d sealer).runFile d name log = _ :=
      (onDisk c d sealer).runFileIn_tolerant_eq d name log
    simp only [Config.load]
    rw [hrun]
    rfl
  rw [hload]
  exact agree_tolerated ((onDisk c d sealer).prefix_strictFile d name log)

/-! ### Texts -/

theorem agree_text {text : String} {document : Value}
    (h : DocumentFormat.yaml.read textOrigin text = .ok document) (log : Log) :
    Agree log (Failure.asDocument textOrigin) (e.strictText text log)
      (e.tolerantText text log) := by
  unfold strictText tolerantText
  rw [h]
  exact e.agree_strict_tolerant textOrigin document log

theorem text_of_unreadable {text : String} {cause : LoadError}
    (h : DocumentFormat.yaml.read textOrigin text = .error cause) (log : Log) :
    e.strictText text log = (.error (.load cause), log)
      ∧ e.tolerantText text log = (none, log) := by
  unfold strictText tolerantText
  rw [h]
  exact ⟨rfl, rfl⟩

end Evaluator

/-! ### All calls -/

/-- **The two postures agree, and an absent result is never silent but for texts that cannot be
read.**  It is so for documents and files in the posture of an evaluator, for files under a
configuration, and for texts that can be read.  If a text cannot be read, the strict call fails for
that reason, but the tolerant one just has no result: nothing is logged. -/
theorem postures_agree (e : Evaluator) (c : Config) (d : Disk) (sealer : Sealer)
    (document : Value) (name text : String) (log : Log) :
    AgreeInRun log (Failure.asDocument name) ((e.inPosture .strict).run document log)
        ((e.inPosture .tolerant).run document log)
      ∧ AgreeInRun log (Failure.asDocument name) ((e.inPosture .strict).runFile d name log)
        ((e.inPosture .tolerant).runFile d name log)
      ∧ Agree log (Failure.asDocument name) (c.loadStrict d sealer name log)
        (c.load d sealer name log)
      ∧ match DocumentFormat.yaml.read textOrigin text with
        | .ok _ => Agree log (Failure.asDocument textOrigin) (e.strictText text log)
          (e.tolerantText text log)
        | .error cause => e.strictText text log = (.error (.load cause), log)
          ∧ e.tolerantText text log = (none, log) := by
  refine ⟨e.agree_run name document log, e.agree_runFile d name log, ?_, ?_⟩
  · exact Evaluator.agree_load c d sealer name log
  -- the one call that does not log what it could not read
  · cases htext : DocumentFormat.yaml.read textOrigin text with
    | ok v => exact e.agree_text htext log
    | error cause => exact e.text_of_unreadable htext log

/-- A bracket that is not closed cannot be read, and the tolerant call says nothing of it. -/
theorem not_agree_of_open_bracket :
    let e := Evaluator.make .empty .empty (Cipher.fernet [] 0)
    ¬ Agree [] (Failure.asDocument textOrigin) (e.strictText "[" []) (e.tolerantText "[" []) := by
  intro e h
  have hread : DocumentFormat.yaml.read textOrigin "[" = .error (.malformed .yaml "<string>") := rfl
  obtain ⟨hstrict, htolerant⟩ := e.text_of_unreadable hread []
  -- agreement would have it logged, and the log is empty
  have hlog := h.log_of_error _ (congrArg Prod.fst hstrict)
  rw [hstrict, htolerant] at hlog
  cases hlog

/-- A text that can be read, one that cannot, and a file that is not there. -/
theorem postures_agree_of_missing :
    let sealer := Cipher.fernet [] 0
    let e := Evaluator.make .empty .empty sealer
    let d : Disk := fun _ => .nothing .missing
    let missing : DocumentError := ⟨[], .importing "a" (.io "a" .missing)⟩
    Agree [] (Failure.asDocument textOrigin) (e.strictText "R" []) (e.tolerantText "R" [])
      ∧ e.tolerantText "[" [] = (none, [])
      ∧ (Config.empty.load d sealer "a" []).1 = none
      ∧ (Config.empty.load d sealer "a" []).2 = [⟨[], .fatal missing⟩] := by
  intro sealer e d missing
  have hread : DocumentFormat.yaml.read textOrigin "R" = .ok (.str "R") := rfl
  have hunread : DocumentFormat.yaml.read textOrigin "["
      = .error (.malformed .yaml "<string>") := rfl
  obtain ⟨-, -, hload, htext⟩ := postures_agree e .empty d sealer .null "a" "R" []
  obtain ⟨-, -, -, hsilent⟩ := postures_agree e .empty d sealer .null "a" "[" []
  rw [hread] at htext
  rw [hunread] at hsilent
  have hmissing : Config.empty.loadStrict d sealer "a" []
      = (.error (.load (.io "a" .missing)), []) := rfl
  have hlog := hload.log_of_error _ (congrArg Prod.fst hmissing)
  rw [hmissing] at hlog
  exact ⟨htext, hsilent.2, hload.error_iff.mp ⟨_, congrArg Prod.fst hmissing⟩, hlog⟩

end ConfigTree
