import S7cmd.BatchRun.Run
import S7cmd.CtrlC.Endings
import S7cmd.DispatchedDryRun

/-!
# The status of the process

`main` dispatches one command and hands its exit code to the shell, as a single byte. A line
of a batch run is dispatched in the same way, but its code is recorded as it is.
-/

namespace S7cmd

open Foundation S7cmd.BatchRun S7cmd.UtilBin S7cmd.CtrlC

variable {Rest State : Type}

/-! ## The frontends that return codes -/

/-- A listing of `ls` as it ends: of the buckets, or below a target. -/
inductive Listing where
  | buckets (result : Except RunError Unit)
  | target (result : Except RunError Unit) (received : Bool)

def Listing.code (errors : ListingErrors RunError) : Listing → ExitCode
  | .buckets (.ok ()) => 0
  | .buckets (.error error) => if errors.isBrokenPipe error then 0 else 1
  | .target result received =>
      if received then exitCodeInterrupted else listingCode errors result

/-- The pipelines behind `sync` and `ls` as they end, with whether Ctrl-C was received. -/
structure Pipelines (Rest State : Type) where
  sync : SyncConfig Rest → State → Except PanicPayload (SyncPipeline × Bool) × State
  ls : Rest → State → Except PanicPayload Listing × State
  listingErrors : ListingErrors RunError

/-- The world with these pipelines behind the frontends. -/
def DispatchWorld.driving (world : DispatchWorld Rest State) (pipelines : Pipelines Rest State) :
    DispatchWorld Rest State :=
  { world with
    sync := fun config state =>
      let (run, after) := pipelines.sync config state
      (run.map fun (pipeline, received) => pipeline.answered received, after)
    ls := fun config state =>
      let (run, after) := pipelines.ls config state
      (run.map fun listing => .ok (listing.code pipelines.listingErrors), after) }

/-! ## How a command ends -/

/-- What dispatching a command may end with. A batch run dispatches the commands of its lines,
under every schedule. -/
inductive DispatchEnds (libraries : Libraries Rest) (world : DispatchWorld Rest State) :
    Cmd Rest → DispatchResult → Prop
  | command {cmd : Cmd Rest} (hcmd : ∀ args, cmd ≠ .batchRun args) (process : Process State) :
      DispatchEnds libraries world cmd (dispatch libraries world cmd process).1.result
  | batchRun (args : Rest) (checks : LineChecks (Cmd Rest)) (runWorld : RunWorld)
      (runArgs : RunArgs)
      (hprocessors : ∀ count, runWorld.availableParallelism = some count → 1 ≤ count)
      (results : Nat → DispatchResult) (runEnd : RunEnd (Cmd Rest))
      (hruns : Runs checks results runWorld runArgs runEnd)
      (hresults : ∀ index lineNo raw cmd,
        runEnd.dispatched[index]? = some ⟨lineNo, raw, .cmd cmd⟩ →
          DispatchEnds libraries world cmd (results index)) :
      DispatchEnds libraries world (.batchRun args) (.code runEnd.code)

/-- The code that a dispatched command is recorded with. -/
def recordedCode : DispatchResult → ExitCode
  | .code code => code
  | .panic _ => exitCodePanic

/-- `exit_code as u8` -/
def asU8 (code : ExitCode) : Nat := (code % 256).toNat

/-- The status that a process exits with if its main task unwinds. -/
def panicStatus : Nat := 101

/-- The status of a process that has dispatched a command. -/
def exitStatus : DispatchResult → Nat
  | .code code => asU8 code
  | .panic _ => panicStatus

/-! ## The codes there are -/

/-- The codes of this program: success, an error, invalid arguments, a warning, something not
found, a panic and an interruption. -/
def ownCodes : List ExitCode := [0, 1, 2, 3, 4, 101, 130]

/-- A code of this program, or one that a library has for an error of `clean` or `ls`. -/
inductive Known (world : DispatchWorld Rest State) (pipelines : Pipelines Rest State) :
    ExitCode → Prop
  | own {code : ExitCode} (hcode : code ∈ ownCodes) : Known world pipelines code
  | clean (error : RunError) : Known world pipelines (world.exitCodeFromError error)
  | ls (error : RunError) :
      Known world pipelines (pipelines.listingErrors.exitCodeFromError error)

/-- A fold of `max` picks one of the codes, unless a cancellation decides. -/
theorem codeOfErrors_cases {E : Type} (errorCodes : CleanBin.ErrorCodes E) (errors : List E)
    (code : ExitCode) :
    CleanBin.codeOfErrors errorCodes code errors = 0 ∨
      CleanBin.codeOfErrors errorCodes code errors = code ∨
      ∃ error ∈ errors, CleanBin.codeOfErrors errorCodes code errors =
        errorCodes.exitCodeFromError error := by
  induction errors generalizing code with
  | nil => exact Or.inr (Or.inl rfl)
  | cons error errors ih =>
      rw [CleanBin.codeOfErrors]
      split
      next => exact Or.inl rfl
      next =>
        rcases ih (max code (errorCodes.exitCodeFromError error)) with
          hzero | hmax | ⟨other, hother, hcode⟩
        · exact Or.inl hzero
        · rcases max_choice code (errorCodes.exitCodeFromError error) with hleft | hright
          · exact Or.inr (Or.inl (hmax.trans hleft))
          · exact Or.inr (Or.inr ⟨error, List.mem_cons_self, hmax.trans hright⟩)
        · exact Or.inr (Or.inr ⟨other, List.mem_cons_of_mem _ hother, hcode⟩)

variable {world : DispatchWorld Rest State} {pipelines : Pipelines Rest State}

namespace Known

theorem codeOfErrors (errors : List RunError) :
    Known world pipelines
      (CleanBin.codeOfErrors ⟨RunError.isCancelled, world.exitCodeFromError⟩ 1 errors) := by
  rcases codeOfErrors_cases ⟨RunError.isCancelled, world.exitCodeFromError⟩ errors 1 with
    hzero | hone | ⟨error, -, hcode⟩
  · exact .own (by rw [hzero]; decide)
  · exact .own (by rw [hone]; decide)
  · rw [hcode]
    exact .clean error

theorem clean_run (pipeline : CleanBin.DeletionPipeline RunError) :
    Known world pipelines
      (CleanBin.run ⟨RunError.isCancelled, world.exitCodeFromError⟩ pipeline) := by
  unfold CleanBin.run
  split
  next error herror =>
    split
    next => exact .own (by decide)
    next => exact .clean error
  next =>
    split
    next => exact .own (by decide)
    next =>
      split
      next => exact .own (by decide)
      next =>
        split
        next =>
          split
          next => exact .own (by decide)
          next =>
            split
            next => exact .own (by decide)
            next errors herrors => exact codeOfErrors errors
        next =>
          split
          next => exact .own (by decide)
          next => exact .own (by decide)

theorem listing (listing : Listing) :
    Known world pipelines (listing.code pipelines.listingErrors) := by
  unfold Listing.code
  split
  next => exact .own (by decide)
  next =>
    split
    next => exact .own (by decide)
    next => exact .own (by decide)
  next =>
    split
    next => exact .own (by decide)
    next =>
      unfold listingCode
      split
      next => exact .own (by decide)
      next error =>
        split
        next => exact .own (by decide)
        next =>
          split
          next => exact .own (by decide)
          next => exact .ls error

theorem sync (pipeline : SyncPipeline) (received : Bool) :
    Known world pipelines (codeToExit (pipeline.answered received)) := by
  apply own
  unfold SyncPipeline.answered
  split
  next => exact (by decide : exitCodeError ∈ ownCodes)
  next =>
    split
    next => exact (by decide : exitCodeInterrupted ∈ ownCodes)
    next =>
      unfold SyncPipeline.result
      split
      next => exact (by decide : exitCodeError ∈ ownCodes)
      next =>
        split
        next => exact (by decide : (3 : ExitCode) ∈ ownCodes)
        next => exact (by decide : (0 : ExitCode) ∈ ownCodes)

theorem status {ε : Type} (result : Except ε ExitStatus) :
    Known world pipelines (statusToExit result) := by
  apply own
  cases result with
  | error error => exact (by decide : exitCodeError ∈ ownCodes)
  | ok status => exact (by cases status <;> decide : statusCode status ∈ ownCodes)

theorem unit {ε : Type} (result : Except ε Unit) : Known world pipelines (unitToExit result) := by
  apply own
  cases result with
  | error error => exact (by decide : exitCodeError ∈ ownCodes)
  | ok _ => exact (by decide : (0 : ExitCode) ∈ ownCodes)

/-! ## Dispatching -/

theorem ended {α β : Type} {toExit : α → ExitCode} {run : Except PanicPayload α × β}
    (hrun : ∀ result, run.1 = .ok result → Known world pipelines (toExit result)) :
    Known world pipelines (recordedCode (S7cmd.ended toExit run).1.result) := by
  unfold S7cmd.ended
  split
  next result hresult => exact hrun result hresult
  next => exact .own (by decide : exitCodePanic ∈ ownCodes)

theorem checked {α β : Type} {check : Except Text α} {state : β} {run : α → Dispatched × β}
    (hrun : ∀ value, Known world pipelines (recordedCode (run value).1.result)) :
    Known world pipelines (recordedCode (S7cmd.checked check state run).1.result) := by
  unfold S7cmd.checked
  split
  next => exact .own (by decide : exitCodeConfigError ∈ ownCodes)
  next value => exact hrun value

theorem endedStatus {ε β : Type} (run : Except PanicPayload (Except ε ExitStatus) × β) :
    Known world pipelines (recordedCode (S7cmd.ended statusToExit run).1.result) :=
  ended fun result _ => status result

theorem endedUnit {ε β : Type} (run : Except PanicPayload (Except ε Unit) × β) :
    Known world pipelines (recordedCode (S7cmd.ended unitToExit run).1.result) :=
  ended fun result _ => unit result

/-- Every command but a batch run ends with a known code. -/
theorem dispatch (libraries : Libraries Rest) {cmd : Cmd Rest}
    (hcmd : ∀ args, cmd ≠ .batchRun args) (process : Process State) :
    Known world pipelines
      (recordedCode (S7cmd.dispatch libraries (world.driving pipelines) cmd process).1.result) := by
  cases cmd
  case batchRun args => exact absurd rfl (hcmd args)
  case sync args =>
    apply checked
    intro config
    apply ended
    intro result hresult
    obtain ⟨⟨pipeline, received⟩, -, rfl⟩ := exists_of_map_eq_ok hresult
    exact sync pipeline received
  case ls args =>
    apply checked
    intro config
    apply ended
    intro result hresult
    obtain ⟨ended, -, rfl⟩ := exists_of_map_eq_ok hresult
    exact listing ended
  case clean args =>
    apply checked
    intro config
    apply ended
    intro code hcode
    obtain ⟨pipeline, -, rfl⟩ := exists_of_map_eq_ok hcode
    exact clean_run pipeline
  case cp | rename => exact checked fun _ => endedStatus _
  case mv => exact checked fun _ => status _
  case putBucketVersioning | putBucketAccelerateConfiguration | putBucketRequestPayment =>
    exact checked fun _ => endedUnit _
  case putObjectAnnotation => exact status _
  case putBucketPolicy | putBucketLifecycleConfiguration | putBucketEncryption | putBucketCors
    | putPublicAccessBlock | putBucketWebsite | putBucketLogging
    | putBucketNotificationConfiguration | putBucketReplication => exact unit _
  case rm | deleteBucket | putObjectTagging | deleteObjectTagging | putBucketTagging
    | deleteBucketTagging | deleteBucketPolicy | deleteBucketLifecycleConfiguration
    | deleteBucketEncryption | deleteBucketCors | deletePublicAccessBlock
    | deleteBucketWebsite | deleteBucketReplication => exact endedUnit _
  all_goals exact endedStatus _

end Known

/-! ## Batch runs -/

/-- A line is recorded with 2 if it is invalid, and else with what its command ends with. -/
theorem lineCode_eq {Cmd : Type} (line : PreparedLine Cmd) (result : DispatchResult) :
    lineCode line result = exitCodeInvalidLine ∨
      (∃ cmd, line.kind = .cmd cmd) ∧ lineCode line result = recordedCode result := by
  obtain ⟨lineNo, raw, kind⟩ := line
  cases kind with
  | invalid kind reason => exact Or.inl rfl
  | cmd cmd =>
      right
      refine ⟨⟨cmd, rfl⟩, ?_⟩
      cases result <;> rfl

/-- However deep the batch runs and whatever their schedules, the codes are known. -/
theorem DispatchEnds.known {libraries : Libraries Rest} {cmd : Cmd Rest} {result : DispatchResult}
    (hends : DispatchEnds libraries (world.driving pipelines) cmd result) :
    Known world pipelines (recordedCode result) := by
  induction hends with
  | command hcmd process => exact Known.dispatch libraries hcmd process
  | batchRun args checks runWorld runArgs hprocessors results runEnd hruns hresults ih =>
      rcases hruns.code_mem hprocessors with hzero | hone | hmem
      · exact .own (by rw [recordedCode, hzero]; decide)
      · exact .own (by rw [recordedCode, hone]; decide)
      · obtain ⟨index, hindex, hcode⟩ := List.getElem_of_mem hmem
        simp only [lineCodes, List.getElem_mapIdx] at hcode
        rw [recordedCode, ← hcode]
        rcases lineCode_eq _ (results index) with hinvalid | ⟨⟨lineCmd, hkind⟩, hrecorded⟩
        · exact .own (by rw [hinvalid]; decide)
        · rw [hrecorded]
          rw [lineCodes_length] at hindex
          -- the command of this line is the one that was dispatched for it
          apply ih index _ _ lineCmd
          rw [List.getElem?_eq_getElem hindex, ← hkind]

/-! ## The status -/

theorem asU8_of_lt {code : ExitCode} (hnonneg : 0 ≤ code) (hlt : code < 256) :
    (asU8 code : ExitCode) = code := by
  rw [asU8, Int.emod_eq_of_lt hnonneg hlt, Int.toNat_of_nonneg hnonneg]

theorem Known.byte {code : ExitCode} (hknown : Known world pipelines code)
    (hclean : ∀ error, 0 ≤ world.exitCodeFromError error ∧ world.exitCodeFromError error < 256)
    (hls : ∀ error, 0 ≤ pipelines.listingErrors.exitCodeFromError error ∧
      pipelines.listingErrors.exitCodeFromError error < 256) : 0 ≤ code ∧ code < 256 := by
  cases hknown with
  | own hcode =>
      have hall : ∀ code ∈ ownCodes, 0 ≤ code ∧ code < 256 := by decide
      exact hall _ hcode
  | clean error => exact hclean error
  | ls error => exact hls error

/-- If the libraries' codes are bytes, the shell is told the code of every command as it is: the
code that a batch run would record for a line with the command. So a failure is never taken
for success, nor one failure for another. -/
theorem status_exact {libraries : Libraries Rest} {cmd : Cmd Rest} {result : DispatchResult}
    (hclean : ∀ error, 0 ≤ world.exitCodeFromError error ∧ world.exitCodeFromError error < 256)
    (hls : ∀ error, 0 ≤ pipelines.listingErrors.exitCodeFromError error ∧
      pipelines.listingErrors.exitCodeFromError error < 256)
    (hends : DispatchEnds libraries (world.driving pipelines) cmd result) :
    Known world pipelines (exitStatus result) ∧
      ∀ lineNo raw, (exitStatus result : ExitCode) = lineCode ⟨lineNo, raw, .cmd cmd⟩ result := by
  have hknown := hends.known
  have hbyte := hknown.byte hclean hls
  have hstatus : (exitStatus result : ExitCode) = recordedCode result := by
    cases result with
    | code code => exact asU8_of_lt hbyte.1 hbyte.2
    | panic payload => rfl
  refine ⟨hstatus ▸ hknown, fun lineNo raw => ?_⟩
  cases result <;> exact hstatus

/-- Pipelines whose listings are interrupted. -/
def interruptedListings : Pipelines Text (List Text) where
  sync _ buckets := (.ok (⟨none, false, false⟩, false), buckets)
  ls _ buckets := (.ok (.target (.ok ()) true), buckets)
  listingErrors := ⟨fun _ => false, fun _ => false, fun _ => 1⟩

/-- `ls s3://logs` -/
def lsLogs : Cmd Text := .ls ⟨{}, "logs".toList⟩

/-- Checks that take every line for this command. -/
def lsLogsOnly : LineChecks (Cmd Text) where
  shlexSplit line := some line.splitWhitespace
  parseLineArgv _ := .ok ⟨some lsLogs⟩
  validate _ _ _ := .ok ()
  utf8ErrorText _ := "invalid utf-8".toList

theorem interrupted_ls_ends :
    DispatchEnds bucketLibraries (bucketWorld.driving interruptedListings) lsLogs (.code 130) :=
  .command (by simp [lsLogs]) ⟨⟨[], none, 0⟩, []⟩

/-- A batch run of one line that is interrupted. -/
theorem interrupted_batch_ends :
    DispatchEnds bucketLibraries (bucketWorld.driving interruptedListings) (.batchRun [])
      (.code 130) := by
  obtain ⟨state, hreach, htest⟩ := System.exists_reachable
    ((runSequential ⟨1, none, false⟩ [⟨1, "ls".toList, .cmd lsLogs⟩]).system fun _ => .code 130)
    [.exec, .complete 0, .exec]
    (fun state => decide
      ((runSequential ⟨1, none, false⟩ [⟨1, "ls".toList, .cmd lsLogs⟩]).result state =
        some (130, ⟨0, 0, 0, 1⟩)))
    (by decide +kernel)
  have hlines : runReadAllLines lsLogsOnly (some 2) (oneLineWorld.opened (continueArgs 1 false)) =
      .ok [⟨1, "ls".toList, .cmd lsLogs⟩] := by
    have hread := runReadAllLines_of_failure_eq_none lsLogsOnly (some 2)
      (congrArg Script.failure readScript_oneLine)
    rw [readScript_oneLine] at hread
    exact hread
  refine .batchRun [] lsLogsOnly oneLineWorld (continueArgs 1 false) (by simp [oneLineWorld])
    (fun _ => .code 130) _ (.readAll rfl rfl ⟨1, none, false⟩ rfl _ hlines state hreach 130 _
      (of_decide_eq_true htest)) ?_
  intro index lineNo raw cmd hline
  have hsound := Executor.sound .sequential ⟨1, none, false⟩ (by decide)
    [(⟨1, "ls".toList, .cmd lsLogs⟩ : PreparedLine (Cmd Text))]
  have hmem := (hsound.inFlight_inOrder hreach).subset (List.mem_of_getElem? hline)
  cases List.mem_singleton.mp hmem
  exact interrupted_ls_ends

theorem status_exact_interrupted_batch :
    Known bucketWorld interruptedListings (exitStatus (.code 130)) ∧
      ∀ lineNo raw, (exitStatus (.code 130) : ExitCode) =
        lineCode ⟨lineNo, raw, .cmd (Cmd.batchRun ([] : Text))⟩ (.code 130) := by
  have hone : (0 : ExitCode) ≤ 1 ∧ (1 : ExitCode) < 256 := by decide
  exact status_exact (fun _ => hone) (fun _ => hone) interrupted_batch_ends

end S7cmd
