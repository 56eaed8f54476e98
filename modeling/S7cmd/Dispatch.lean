import S7cmd.BatchRun.Validate
import S7cmd.CleanBin.Run
import S7cmd.UtilBin.PutConfiguration

/-!
# Dispatching a command

One command is checked, run, and its result turned into an exit code. Checks that fail are
exit code 2.
-/

namespace S7cmd

open S7cmd.BatchRun S7cmd.UtilBin

/-- How a dispatched command ends: its arguments are rejected, or it is run. -/
inductive Dispatched where
  | rejected (message : Text)
  | returned (code : ExitCode)
  | panicked (payload : PanicPayload)
  deriving DecidableEq, Repr

/-- The code of `print_config_error`. -/
def exitCodeConfigError : ExitCode := 2

def Dispatched.result : Dispatched → DispatchResult
  | .rejected _ => .code exitCodeConfigError
  | .returned code => .code code
  | .panicked payload => .panic payload

/-! ## Results as exit codes -/

def exitCodeError : ExitCode := 1

def statusCode : ExitStatus → ExitCode
  | .success => 0
  | .warning => 3
  | .notFound => 4
  | .cancelled => 130

variable {ε : Type}

def statusToExit : Except ε ExitStatus → ExitCode
  | .ok status => statusCode status
  | .error _ => exitCodeError

def unitToExit : Except ε Unit → ExitCode
  | .ok () => 0
  | .error _ => exitCodeError

/-- The code of a frontend that returns one itself. -/
def codeToExit : Except ε ExitCode → ExitCode
  | .ok code => code
  | .error _ => exitCodeError

/-! ## The checks before a run -/

def oneOfEnabledOrSuspended : Text :=
  "one of --enabled or --suspended must be specified".toList

def oneOfRequesterOrBucketOwner : Text :=
  "one of --requester or --bucket-owner must be specified".toList

variable {Rest State : Type}

/-- `check_state_flag` of `put_bucket_versioning` and `put_bucket_accelerate_configuration` -/
def checkStateFlag (args : StateFlagArgs Rest) : Except Text Unit :=
  if args.enabled = false ∧ args.suspended = false then .error oneOfEnabledOrSuspended else .ok ()

/-- `check_state_flag` of `put_bucket_request_payment` -/
def checkPayerFlag (args : PutBucketRequestPaymentArgs Rest) : Except Text Unit :=
  if args.requester = false ∧ args.bucketOwner = false then .error oneOfRequesterOrBucketOwner
  else .ok ()

/-! ## The runners -/

/-- The library that copies objects. Only a transfer from stdin is handed stdin. -/
structure TransferLibrary (State : Type) extends Host where
  detectDirection : Text → Text → Except RunError TransferDirection
  transfer : Config → TransferDirection → Text → Text → State →
    Except RunError TransferOutcome × State
  /-- `stdio_to_s3::transfer`, with what it leaves of stdin -/
  transferStdin : Config → Text → Bytes → State → (Except RunError TransferOutcome × Bytes) × State
  logDryRunAnnotationSync : Config → Text → State → Except RunError Unit
  deleteObject : Config → Text → Option Text → State → Except RunError Unit × State
  ctrlCReceived : Bool
  tokenCancelled : Bool
  tokenCancelledLate : Bool
  hasWarning : Bool
  headObject : Text → Text → Except RunError Bool
  tryExists : Text → Except RunError Bool

/-- The transfers of `run_copy_phase`, each with what it is handed. -/
def TransferLibrary.transferIn (library : TransferLibrary State) (config : Config)
    (direction : TransferDirection) (sourceKey targetKey : Text) (process : Process State) :
    Except RunError TransferOutcome × Process State :=
  match direction with
  | .stdioToS3 =>
      let stdin := process.stdin
      let ((result, bytes), after) :=
        library.transferStdin config targetKey stdin.bytes process.state
      (result, ⟨⟨bytes, stdin.fault, stdin.operandReads + 1⟩, after⟩)
  | _ => apart (library.transfer config direction sourceKey targetKey) process

/-- The library as a copy inside a process meets it. -/
def TransferLibrary.world (library : TransferLibrary State) : CpWorld (Process State) where
  toHost := library.toHost
  detectDirection := library.detectDirection
  transfer := library.transferIn
  logDryRunAnnotationSync config sourceKey process :=
    library.logDryRunAnnotationSync config sourceKey process.state
  deleteObject config key versionId := apart (library.deleteObject config key versionId)
  ctrlCReceived := library.ctrlCReceived
  tokenCancelled := library.tokenCancelled
  tokenCancelledLate := library.tokenCancelledLate
  hasWarning := library.hasWarning
  headObject := library.headObject
  tryExists := library.tryExists

/-- What the runners meet with. Those that are given as functions on `State` never touch
stdin; the outer error of a result is a panic. -/
structure DispatchWorld (Rest State : Type) where
  transfers : TransferLibrary State
  puts : PutWorld Rest State
  batchRun : Rest → Process State → Except PanicPayload ExitCode × Process State
  sync : SyncConfig Rest → State → Except PanicPayload (Except Chain ExitCode) × State
  ls : Rest → State → Except PanicPayload (Except Chain ExitCode) × State
  /-- the pipeline of `clean`, and what its prompt leaves of stdin -/
  deletionPipeline : Rest → Bytes → State →
    (Except PanicPayload (CleanBin.DeletionPipeline RunError) × Bytes) × State
  exitCodeFromError : RunError → ExitCode
  rename : Args Rest → State → Except PanicPayload (Except Chain ExitStatus) × State
  /-- the runners whose result goes through `status_to_exit` -/
  runStatus : Cmd Rest → State → Except PanicPayload (Except Chain ExitStatus) × State
  /-- the runners whose result goes through `unit_to_exit` -/
  runUnit : Cmd Rest → State → Except PanicPayload (Except Chain Unit) × State

/-- A run that may have panicked, as it ends. -/
def ended {α β : Type} (toExit : α → ExitCode) (run : Except PanicPayload α × β) :
    Dispatched × β :=
  match run.1 with
  | .ok result => (.returned (toExit result), run.2)
  | .error payload => (.panicked payload, run.2)

@[simp] theorem ended_snd {α β : Type} (toExit : α → ExitCode) (run : Except PanicPayload α × β) :
    (ended toExit run).2 = run.2 := by
  unfold ended
  split <;> rfl

/-- A run that does not panic, as it ends. -/
def finished {α β : Type} (toExit : α → ExitCode) (run : α × β) : Dispatched × β :=
  (.returned (toExit run.1), run.2)

/-- The prompt of `clean` reads stdin, but not for an operand. -/
def runClean (world : DispatchWorld Rest State) (config : Rest) (process : Process State) :
    Except PanicPayload ExitCode × Process State :=
  let stdin := process.stdin
  let ((pipeline, bytes), after) := world.deletionPipeline config stdin.bytes process.state
  (pipeline.map (CleanBin.run ⟨RunError.isCancelled, world.exitCodeFromError⟩),
    ⟨{ stdin with bytes }, after⟩)

/-- When the status is reported, `sync` never transfers. -/
def reportOnly (config : SyncConfig Rest) : SyncConfig Rest :=
  if config.reportSyncStatus then { config with dryRun := true } else config

def runMvIn (library : TransferLibrary State) (config : UtilConfig) (process : Process State) :
    Except RunError ExitStatus × Process State :=
  let run := runMv library.world.toWorld config.toConfig process
  (run.result, run.state)

/-- What runs once a check has passed. -/
def checked {α β : Type} (check : Except Text α) (state : β) (run : α → Dispatched × β) :
    Dispatched × β :=
  match check with
  | .error message => (.rejected message, state)
  | .ok value => run value

def dispatch (libraries : Libraries Rest) (world : DispatchWorld Rest State) (cmd : Cmd Rest)
    (process : Process State) : Dispatched × Process State :=
  match cmd with
  | .batchRun args => ended id (world.batchRun args process)
  | .sync args =>
      checked (libraries.syncConfig args) process fun config =>
        ended codeToExit (apart (world.sync (reportOnly config)) process)
  | .ls args =>
      checked (libraries.lsConfig args) process fun config =>
        ended codeToExit (apart (world.ls config) process)
  | .clean args =>
      checked (libraries.cleanConfig args) process fun config =>
        ended id (runClean world config process)
  | .cp args =>
      checked (libraries.cpConfig args) process fun config =>
        ended statusToExit (runCp world.transfers.world config process)
  | .mv args =>
      checked (libraries.mvConfig args) process fun config =>
        finished statusToExit (runMvIn world.transfers config process)
  | .rename args =>
      checked (libraries.renameValidate args) process fun _ =>
        ended statusToExit (apart (world.rename args) process)
  | .putBucketVersioning args | .putBucketAccelerateConfiguration args =>
      checked (checkStateFlag args) process fun _ =>
        ended unitToExit (apart (world.runUnit cmd) process)
  | .putBucketRequestPayment args =>
      checked (checkPayerFlag args) process fun _ =>
        ended unitToExit (apart (world.runUnit cmd) process)
  | Cmd.putObjectAnnotation args =>
      finished statusToExit <| runPutObjectAnnotation world.puts args process
  | .putBucketPolicy args => finished unitToExit (runPutBucketPolicy world.puts args process)
  | .putBucketLifecycleConfiguration args =>
      finished unitToExit (runPutBucketLifecycleConfiguration world.puts args process)
  | .putBucketEncryption args =>
      finished unitToExit (runPutBucketEncryption world.puts args process)
  | .putBucketCors args => finished unitToExit (runPutBucketCors world.puts args process)
  | .putPublicAccessBlock args =>
      finished unitToExit (runPutPublicAccessBlock world.puts args process)
  | .putBucketWebsite args => finished unitToExit (runPutBucketWebsite world.puts args process)
  | .putBucketLogging args => finished unitToExit (runPutBucketLogging world.puts args process)
  | .putBucketNotificationConfiguration args =>
      finished unitToExit (runPutBucketNotificationConfiguration world.puts args process)
  | .putBucketReplication args =>
      finished unitToExit (runPutBucketReplication world.puts args process)
  | .createBucket _ | .headBucket _ | .headObject _ | .getObjectTagging _
  | Cmd.getObjectAnnotation _ | Cmd.deleteObjectAnnotation _ | .listObjectAnnotations _
  | .getBucketTagging _ | .getBucketPolicy _ | .getBucketVersioning _
  | .getBucketLifecycleConfiguration _ | .getBucketEncryption _ | .getBucketCors _
  | .getPublicAccessBlock _ | .getBucketWebsite _ | .getBucketLogging _
  | .getBucketNotificationConfiguration _ | .getBucketReplication _
  | .getBucketAccelerateConfiguration _ | .getBucketRequestPayment _ | .getBucketPolicyStatus _
  | .restoreObject _ | .presign _ => ended statusToExit (apart (world.runStatus cmd) process)
  | .rm _ | .deleteBucket _ | .putObjectTagging _ | .deleteObjectTagging _
  | .putBucketTagging _ | .deleteBucketTagging _ | .deleteBucketPolicy _
  | .deleteBucketLifecycleConfiguration _ | .deleteBucketEncryption _ | .deleteBucketCors _
  | .deletePublicAccessBlock _ | .deleteBucketWebsite _ | .deleteBucketReplication _ =>
      ended unitToExit (apart (world.runUnit cmd) process)

end S7cmd
