import S7cmd.BatchRun.Preparation
import S7cmd.Cmd

/-!
# Validating a line

A parsed line is rejected before anything runs if it is a nested batch, if it transfers to or
from the standard streams, or if it sets tracing flags of its own.
-/

namespace S7cmd.BatchRun

open S7cmd.UtilBin

variable {Rest : Type}

def nestedBatchRun : Text := "nested batch-run is not allowed".toList

def stdioTransfer : Text := "stdin/stdout transfers are not allowed inside batch-run".toList

def tracingError : Text := ("tracing flags are not allowed inside batch-run lines; pass them to " ++
  "batch-run itself, e.g. `s7cmd batch-run --aws-sdk-tracing < cmds.txt`").toList

/-- `check_common!` -/
def checkCommon (flags : TracingFlags) : Except Text Unit :=
  if flags.any then .error tracingError else .ok ()

def rejectNested : Cmd Rest → Except Text Unit
  | .batchRun _ => .error nestedBatchRun
  | _ => .ok ()

def rejectStdio (config : UtilConfig) : Except Text Unit :=
  if config.source = .stdio ∨ config.target = .stdio then .error stdioTransfer else .ok ()

/-- Rejects a copy or a move with one of the standard streams at either end. -/
def rejectStdioTransfer (libraries : Libraries Rest) : Cmd Rest → Except Text Unit
  | .cp args => do rejectStdio (← libraries.cpConfig args)
  | .mv args => do rejectStdio (← libraries.mvConfig args)
  | _ => .ok ()

/-- The operand of a line that may stand for stdin. -/
def stdinArg : Cmd Rest → Option Text
  | .putBucketPolicy args | .putBucketLifecycleConfiguration args | .putBucketEncryption args
  | .putBucketCors args | .putPublicAccessBlock args | .putBucketWebsite args
  | .putBucketLogging args | .putBucketNotificationConfiguration args
  | .putBucketReplication args => args.configuration
  | Cmd.putObjectAnnotation args => args.annotationPayload
  | _ => none

def rejectPerLineStdinConfig (cmd : Cmd Rest) : Except Text Unit :=
  if stdinArg cmd = some ['-'] then .error stdioTransfer else .ok ()

def rejectPerLineTracing (libraries : Libraries Rest) : Cmd Rest → Except Text Unit
  -- rejected before
  | .batchRun _ => .ok ()
  -- the flags are private: read through the conversion, which may fail on its own account
  | .sync args => do
      let config ← libraries.syncConfig args
      match config.tracingConfig with
      | none => return ()
      | some flags => checkCommon flags
  | .ls args | .clean args | .cp args | .mv args | .rename args | .rm args | .createBucket args
  | .deleteBucket args | .headBucket args | .headObject args | .getObjectTagging args
  | .putObjectTagging args | .deleteObjectTagging args | Cmd.getObjectAnnotation args
  | Cmd.putObjectAnnotation args | Cmd.deleteObjectAnnotation args | .listObjectAnnotations args
  | .getBucketTagging args | .putBucketTagging args | .deleteBucketTagging args
  | .getBucketPolicy args | .putBucketPolicy args | .deleteBucketPolicy args
  | .getBucketVersioning args | .putBucketVersioning args
  | .getBucketLifecycleConfiguration args | .putBucketLifecycleConfiguration args
  | .deleteBucketLifecycleConfiguration args | .getBucketEncryption args
  | .putBucketEncryption args | .deleteBucketEncryption args | .getBucketCors args
  | .putBucketCors args | .deleteBucketCors args | .getPublicAccessBlock args
  | .putPublicAccessBlock args | .deletePublicAccessBlock args | .getBucketWebsite args
  | .putBucketWebsite args | .deleteBucketWebsite args | .getBucketLogging args
  | .putBucketLogging args | .getBucketNotificationConfiguration args
  | .putBucketNotificationConfiguration args | .getBucketReplication args
  | .putBucketReplication args | .deleteBucketReplication args
  | .getBucketAccelerateConfiguration args | .putBucketAccelerateConfiguration args
  | .getBucketRequestPayment args | .putBucketRequestPayment args
  | .getBucketPolicyStatus args | .restoreObject args | .presign args => checkCommon args.common

def validate (libraries : Libraries Rest) (_lineNo : Nat) (_raw : Text) (cmd : Cmd Rest) :
    Except Text Unit := do
  rejectNested cmd
  rejectStdioTransfer libraries cmd
  rejectPerLineStdinConfig cmd
  rejectPerLineTracing libraries cmd

/-! ## What an accepted line is -/

theorem bind_eq_ok_iff {ε α β : Type} {first : Except ε α} {next : α → Except ε β} {value : β} :
    (first >>= next) = .ok value ↔ ∃ middle, first = .ok middle ∧ next middle = .ok value := by
  cases first <;> simp [bind, Except.bind]

/-- A line is accepted if every rule accepts it. -/
structure Accepted (libraries : Libraries Rest) (cmd : Cmd Rest) : Prop where
  notNested : rejectNested cmd = .ok ()
  notStdio : rejectStdioTransfer libraries cmd = .ok ()
  notStdin : rejectPerLineStdinConfig cmd = .ok ()
  notTracing : rejectPerLineTracing libraries cmd = .ok ()

theorem validate_eq_ok_iff {libraries : Libraries Rest} {lineNo : Nat} {raw : Text}
    {cmd : Cmd Rest} : validate libraries lineNo raw cmd = .ok () ↔ Accepted libraries cmd := by
  simp only [validate, bind_eq_ok_iff]
  constructor
  · rintro ⟨_, hnested, _, hstdio, _, hstdin, htracing⟩
    exact ⟨hnested, hstdio, hstdin, htracing⟩
  · intro haccepted
    exact ⟨(), haccepted.notNested, (), haccepted.notStdio, (), haccepted.notStdin,
      haccepted.notTracing⟩

@[simp] theorem checkCommon_eq_ok_iff {flags : TracingFlags} :
    checkCommon flags = .ok () ↔ flags.any = false := by
  unfold checkCommon
  split <;> simp_all

theorem rejectStdio_eq_ok_iff {config : UtilConfig} :
    rejectStdio config = .ok () ↔ config.source ≠ .stdio ∧ config.target ≠ .stdio := by
  unfold rejectStdio
  rw [← not_or]
  split
  next hstdio => simp [hstdio]
  next hstdio => simp [hstdio]

/-- A copy is accepted if its conversion succeeds, with neither stream at an end. -/
theorem rejectStdioTransfer_cp {libraries : Libraries Rest} {args : Args Rest} :
    rejectStdioTransfer libraries (.cp args) = .ok () ↔
      ∃ config, libraries.cpConfig args = .ok config ∧
        config.source ≠ .stdio ∧ config.target ≠ .stdio := by
  simp only [rejectStdioTransfer, bind_eq_ok_iff, rejectStdio_eq_ok_iff]

theorem rejectStdioTransfer_mv {libraries : Libraries Rest} {args : Args Rest} :
    rejectStdioTransfer libraries (.mv args) = .ok () ↔
      ∃ config, libraries.mvConfig args = .ok config ∧
        config.source ≠ .stdio ∧ config.target ≠ .stdio := by
  simp only [rejectStdioTransfer, bind_eq_ok_iff, rejectStdio_eq_ok_iff]

/-- A `sync` is accepted only if its conversion succeeds. -/
theorem exists_syncConfig_of_accepted {libraries : Libraries Rest} {args : Rest}
    (haccepted : Accepted libraries (.sync args)) :
    ∃ config, libraries.syncConfig args = .ok config := by
  obtain ⟨config, hconfig, -⟩ := bind_eq_ok_iff.mp haccepted.notTracing
  exact ⟨config, hconfig⟩

theorem stdinArg_ne_of_accepted {libraries : Libraries Rest} {cmd : Cmd Rest}
    (haccepted : Accepted libraries cmd) : stdinArg cmd ≠ some ['-'] := by
  have hstdin := haccepted.notStdin
  unfold rejectPerLineStdinConfig at hstdin
  split at hstdin
  next => cases hstdin
  next hne => exact hne

/-! ## In a script -/

/-- A line that is prepared as a command has been accepted. -/
theorem accepted_of_buildPreparedKind {libraries : Libraries Rest} {checks : LineChecks (Cmd Rest)}
    (hchecks : checks.validate = validate libraries) {lineNo : Nat} {raw : Text}
    {kind : ParsedLineKind} {cmd : Cmd Rest}
    (hkind : buildPreparedKind checks lineNo raw kind = .ok (.cmd cmd)) :
    Accepted libraries cmd := by
  cases kind with
  | tokenizeError message => cases hkind
  | ok argv =>
      simp only [buildPreparedKind] at hkind
      split at hkind
      next => cases hkind
      next cli _ =>
        split at hkind
        next => cases hkind
        next parsed _ =>
          split at hkind
          next => cases hkind
          next hvalid =>
            cases hkind
            rw [hchecks] at hvalid
            exact validate_eq_ok_iff.mp hvalid

/-- Every command of a prepared script has been accepted. -/
theorem accepted_of_prepared {libraries : Libraries Rest} {checks : LineChecks (Cmd Rest)}
    (hchecks : checks.validate = validate libraries) {availableParallelism : Option Nat}
    {parsed : List ParsedLine} {line : PreparedLine (Cmd Rest)}
    (hline : line ∈ parseAndValidate checks availableParallelism parsed) {cmd : Cmd Rest}
    (hcmd : line.kind = .cmd cmd) : Accepted libraries cmd := by
  rw [parseAndValidate_eq] at hline
  obtain ⟨source, -, rfl⟩ := List.mem_map.mp hline
  cases hkind : buildPreparedKind checks source.lineNo source.raw source.kind with
  | error failed => simp [tryPrepare, hkind] at hcmd
  | ok kind =>
      simp only [tryPrepare, hkind] at hcmd
      rw [hcmd] at hkind
      exact accepted_of_buildPreparedKind hchecks hkind

end S7cmd.BatchRun
