import S7cmd.BatchRun.Signals
import S7cmd.Dispatch
import S7cmd.Foundation.Latch

/-!
# How an interruptible command ends

When its pipeline has stopped, a command first looks whether Ctrl-C was received, and only
then at what the pipeline recorded. `cp` and `mv` look at the token of the pipeline as well,
and `mv` looks at it again just before it deletes the source.
-/

namespace S7cmd.CtrlC

open Foundation S7cmd.BatchRun S7cmd.UtilBin

variable {State E : Type}

/-- What a command looks at when its pipeline has stopped. -/
inductive Latch where
  /-- the flag that the handlers of the command's family store -/
  | ctrlCReceived
  /-- the token of the command's own pipeline -/
  | token
  deriving DecidableEq, Repr

/-! ## `cp` and `mv` -/

/-- What is left of the pipeline of `run_copy_phase`. -/
structure Transfer where
  transferResult : Except RunError TransferOutcome
  sourceKey : Text
  hasWarning : Bool

/-- The token is not looked at once Ctrl-C was seen. -/
def Transfer.cancelled (transfer : Transfer) : Reading Latch Bool := do
  if ← .look .ctrlCReceived then return true
  else
    let token ← .look .token
    return isUserCancellation token transfer.transferResult

def Transfer.copyPhase (transfer : Transfer) : Reading Latch CopyPhase := do
  let cancelled ← transfer.cancelled
  return { transfer with cancelled }

def endCp (transfer : Transfer) : Reading Latch (Except RunError ExitStatus) := do
  let phase ← transfer.copyPhase
  return cpStatus phase

/-- The deletion behind the last gate. -/
def deleteSource (world : World State) (config : Config) (phase : CopyPhase)
    (outcome : TransferOutcome) (state : State) : MvRun State :=
  let versionId := config.versionId.or outcome.sourceVersionId
  if config.dryRun then ⟨.ok .success, [], state⟩
  else
    let (deleted, after) := world.deleteObject config phase.sourceKey versionId state
    ⟨deleted.map fun _ => .success, [⟨phase.sourceKey, versionId⟩], after⟩

/-- `apply_mv_decision_tree`, with its own look at the token. -/
def decideMv (world : World State) (config : Config) (phase : CopyPhase) (state : State) :
    Reading Latch (MvRun State) :=
  if phase.cancelled then return ⟨.ok .cancelled, [], state⟩
  else match phase.transferResult with
  | .error error => return ⟨.error error, [], state⟩
  | .ok outcome =>
      if phase.hasWarning && !config.noFailOnVerifyError then
        return ⟨.error verificationFailed, [], state⟩
      else do
        if ← .look .token then return ⟨.ok .cancelled, [], state⟩
        else return deleteSource world config phase outcome state

def endMv (world : World State) (config : Config) (transfer : Transfer) (state : State) :
    Reading Latch (MvRun State) := do
  let phase ← transfer.copyPhase
  decideMv world config phase state

/-! ## `sync`, `ls` and `clean` -/

/-- What is left of the pipeline of `sync`. -/
structure SyncPipeline where
  /-- the error of the indicator task, if it panicked -/
  indicatorFault : Option Chain
  hasError : Bool
  hasWarning : Bool

def syncFailed : Chain := ["s7cmd sync failed.".toList]

/-- What `sync` returns for what its pipeline recorded. -/
def SyncPipeline.result (pipeline : SyncPipeline) : Except Chain ExitCode :=
  if pipeline.hasError then .error syncFailed
  else if pipeline.hasWarning then .ok 3
  else .ok 0

/-- Ctrl-C goes before whatever the pipeline recorded. -/
def unlessReceived {α : Type} (interrupted recorded : α) : Reading Latch α := do
  if ← .look .ctrlCReceived then return interrupted
  else return recorded

def endSync (pipeline : SyncPipeline) : Reading Latch (Except Chain ExitCode) :=
  match pipeline.indicatorFault with
  | some chain => return .error chain
  | none => unlessReceived (.ok exitCodeInterrupted) pipeline.result

/-- What the library of `ls` answers about an error. -/
structure ListingErrors (E : Type) where
  isBrokenPipe : E → Bool
  isCancelledError : E → Bool
  exitCodeFromError : E → ExitCode

/-- The code of a listing that nobody interrupted. -/
def listingCode (errors : ListingErrors E) : Except E Unit → ExitCode
  | .ok () => 0
  | .error error =>
      -- the reader of stdout has gone
      if errors.isBrokenPipe error then 0
      else if errors.isCancelledError error then 0
      else errors.exitCodeFromError error

def endLs (errors : ListingErrors E) (result : Except E Unit) : Reading Latch ExitCode :=
  unlessReceived exitCodeInterrupted (listingCode errors result)

/-- The handler of `clean` is not there before its prompt is answered. -/
def endClean (errorCodes : CleanBin.ErrorCodes E) (pipeline : CleanBin.DeletionPipeline E) :
    Reading Latch ExitCode :=
  if pipeline.indicatorPanicked then return CleanBin.exitCodeAbnormalTermination
  else do
    let received ← .look .ctrlCReceived
    return CleanBin.run errorCodes
      { pipeline with checkPrerequisites := .ok (), ctrlCReceived := received }

/-! ## The five commands -/

/-- What a command returns, and the deletions that it asked for behind its pipeline. -/
structure Ended where
  code : ExitCode
  deletes : List DeleteCall := []
  deriving DecidableEq, Repr

def endedMv (run : MvRun State) : Ended where
  code := statusToExit run.result
  deletes := run.deletes

/-- A command whose pipeline has stopped. -/
inductive Stopped (State E : Type) where
  | cp (transfer : Transfer)
  | mv (world : World State) (config : Config) (transfer : Transfer) (state : State)
  | sync (pipeline : SyncPipeline)
  /-- the listing of a target; without one `ls` lists the buckets, and has no handler -/
  | ls (errors : ListingErrors E) (result : Except E Unit)
  | clean (errorCodes : CleanBin.ErrorCodes E) (pipeline : CleanBin.DeletionPipeline E)

namespace Stopped

def family : Stopped State E → HandlerFamily
  | .cp _ | .mv _ _ _ _ => .util
  | .sync _ => .sync
  | .ls _ _ => .ls
  | .clean _ _ => .clean

/-- What the command does from here, with the codes that `dispatch` gives to its results. -/
def ending : Stopped State E → Reading Latch Ended
  | .cp transfer => do
      let result ← endCp transfer
      return { code := statusToExit result }
  | .mv world config transfer state => do
      let run ← endMv world config transfer state
      return endedMv run
  | .sync pipeline => do
      let result ← endSync pipeline
      return { code := codeToExit result }
  | .ls errors result => do
      let code ← endLs errors result
      return { code }
  | .clean errorCodes pipeline => do
      let code ← endClean errorCodes pipeline
      return { code }

end Stopped

/-! ## The sequential model -/

/-- The end of a copy whose two looks were answered so. -/
def Transfer.answered (transfer : Transfer) (received token : Bool) : CopyPhase :=
  { transfer with cancelled := received || isUserCancellation token transfer.transferResult }

/-- `sync`, if its look at the flag was answered so. -/
def SyncPipeline.answered (pipeline : SyncPipeline) (received : Bool) : Except Chain ExitCode :=
  match pipeline.indicatorFault with
  | some chain => .error chain
  | none => if received then .ok exitCodeInterrupted else pipeline.result

/-- What a command returns if its looks are answered so: at the flag, at the token, and at the
token for the last gate of `mv`. -/
def Stopped.sequential (received token late : Bool) : Stopped State E → Ended
  | .cp transfer => { code := statusToExit (cpStatus (transfer.answered received token)) }
  | .mv world config transfer state =>
      endedMv (applyMvDecisionTree { world with tokenCancelledLate := late } config
        (transfer.answered received token) state)
  | .sync pipeline => { code := codeToExit (pipeline.answered received) }
  | .ls errors result =>
      { code := if received then exitCodeInterrupted else listingCode errors result }
  | .clean errorCodes pipeline =>
      { code := CleanBin.run errorCodes
          { pipeline with checkPrerequisites := .ok (), ctrlCReceived := received } }

/-- Answers that the looks can have had between two states of the latches. -/
structure Seen (before later : Latch → Bool) (received token late : Bool) : Prop where
  le_received : before .ctrlCReceived ≤ received
  received_le : received ≤ later .ctrlCReceived
  le_token : before .token ≤ token
  token_le : token ≤ late
  late_le : late ≤ later .token

/-- The answers that the latches give where the look is not made. -/
theorem Seen.unlooked {before later : Latch → Bool} {received : Bool}
    (hle : before .token ≤ later .token) (hbefore : before .ctrlCReceived ≤ received)
    (hlater : received ≤ later .ctrlCReceived) :
    Seen before later received (before .token) (before .token) :=
  ⟨hbefore, hlater, le_rfl, le_rfl, hle⟩

theorem ensures_cancelled (transfer : Transfer) (latches : Latch → Bool) :
    transfer.cancelled.Ensures (fun later cancelled =>
      ∃ received token, Seen latches later received token token ∧
        cancelled = (transfer.answered received token).cancelled) latches := by
  unfold Transfer.cancelled
  rw [Reading.look_bind]
  apply Reading.ensures_read
  · intro middle hmiddle hreceived later hlater
    exact ⟨true, latches .token, .unlooked ((hmiddle.trans hlater) .token) (Bool.le_true _)
      (hreceived ▸ hlater .ctrlCReceived), rfl⟩
  · intro hreceived middle hmiddle later hlater
    exact ⟨false, middle .token, ⟨hreceived.le, Bool.false_le _, hmiddle .token, le_rfl,
      hlater .token⟩, rfl⟩

/-- The gates, with an answer to the look of the last one. -/
theorem ensures_decideMv (world : World State) (config : Config) (phase : CopyPhase)
    (state : State) (latches : Latch → Bool) :
    (decideMv world config phase state).Ensures (fun later run =>
      ∃ late, latches .token ≤ late ∧ late ≤ later .token ∧
        run = applyMvDecisionTree { world with tokenCancelledLate := late } config phase state)
      latches := by
  have hearly : ∀ run : MvRun State,
      (∀ late, run = applyMvDecisionTree { world with tokenCancelledLate := late } config phase
        state) → (Reading.done run).Ensures (fun later run => ∃ late, latches .token ≤ late ∧
          late ≤ later .token ∧ run =
            applyMvDecisionTree { world with tokenCancelledLate := late } config phase state)
        latches :=
    fun run hrun later hle => ⟨latches .token, le_rfl, hle .token, hrun _⟩
  unfold decideMv
  split
  next hcancelled =>
    apply hearly
    intro late
    simp only [applyMvDecisionTree, hcancelled, if_true]
  next hcancelled =>
    split
    next error hresult =>
      apply hearly
      intro late
      simp only [applyMvDecisionTree, hcancelled, hresult, Bool.false_eq_true, if_false]
    next outcome hresult =>
      split
      next hwarned =>
        apply hearly
        intro late
        simp only [applyMvDecisionTree, hcancelled, hresult, hwarned, Bool.false_eq_true, if_false,
          if_true]
      next hwarned =>
        rw [Reading.look_bind]
        apply Reading.ensures_read
        · intro later hle htoken last hlast
          refine ⟨true, Bool.le_true _, htoken ▸ hlast .token, ?_⟩
          simp only [applyMvDecisionTree, hcancelled, hresult, hwarned, Bool.false_eq_true, if_false,
            if_true]
        · intro htoken last hlast
          refine ⟨false, htoken.le, Bool.false_le _, ?_⟩
          simp only [applyMvDecisionTree, hcancelled, hresult, hwarned, Bool.false_eq_true, if_false,
            deleteSource]

theorem ensures_endMv (world : World State) (config : Config) (transfer : Transfer)
    (state : State) (latches : Latch → Bool) :
    (endMv world config transfer state).Ensures (fun later run =>
      ∃ received token late, Seen latches later received token late ∧
        run = applyMvDecisionTree { world with tokenCancelledLate := late } config
          (transfer.answered received token) state) latches := by
  apply Reading.Ensures.bind
  apply Reading.Ensures.bind
  apply (ensures_cancelled transfer latches).imp
  rintro middle cancelled hmiddle ⟨received, token, hseen, rfl⟩ later hlater
  apply (ensures_decideMv world config _ state later).imp
  rintro last run hlast ⟨late, hlate, hle, rfl⟩
  exact ⟨received, token, late,
    ⟨hseen.le_received, hseen.received_le.trans ((hlater.trans hlast) .ctrlCReceived),
      hseen.le_token, (hseen.late_le.trans (hlater .token)).trans hlate, hle⟩, rfl⟩

/-- A look at the flag, with its answer. -/
theorem ensures_unlessReceived {α : Type} (interrupted recorded : α) (latches : Latch → Bool) :
    (unlessReceived interrupted recorded).Ensures (fun later value =>
      ∃ received token late, Seen latches later received token late ∧
        value = if received then interrupted else recorded) latches := by
  apply Reading.ensures_read
  · intro middle hmiddle hreceived later hlater
    exact ⟨true, _, _, .unlooked ((hmiddle.trans hlater) .token) (Bool.le_true _)
      (hreceived ▸ hlater .ctrlCReceived), rfl⟩
  · intro hreceived later hlater
    exact ⟨false, _, _, .unlooked (hlater .token) hreceived.le (Bool.false_le _), rfl⟩

/-- However its looks are interleaved with what the others do, a command ends as the
sequential model has it, for answers that the latches allow. -/
theorem ensures_sequential (stopped : Stopped State E) (latches : Latch → Bool) :
    stopped.ending.Ensures (fun later ended => ∃ received token late,
      Seen latches later received token late ∧
        ended = stopped.sequential received token late) latches := by
  cases stopped with
  | cp transfer =>
      apply Reading.Ensures.map
      apply Reading.Ensures.map
      apply Reading.Ensures.map
      apply (ensures_cancelled transfer latches).imp
      rintro later cancelled - ⟨received, token, hseen, rfl⟩
      exact ⟨received, token, token, hseen, rfl⟩
  | mv world config transfer state =>
      apply Reading.Ensures.map
      apply (ensures_endMv world config transfer state latches).imp
      rintro later run - ⟨received, token, late, hseen, rfl⟩
      exact ⟨received, token, late, hseen, rfl⟩
  | sync pipeline =>
      apply Reading.Ensures.map
      unfold endSync
      split
      next chain hfault =>
        intro later hle
        refine ⟨_, _, _, .unlooked (hle .token) le_rfl (hle .ctrlCReceived), ?_⟩
        simp only [Stopped.sequential, SyncPipeline.answered, hfault]
      next hfault =>
        apply (ensures_unlessReceived _ pipeline.result latches).imp
        rintro later result - ⟨received, token, late, hseen, rfl⟩
        refine ⟨received, token, late, hseen, ?_⟩
        simp only [Stopped.sequential, SyncPipeline.answered, hfault]
  | ls errors result =>
      apply Reading.Ensures.map
      apply (ensures_unlessReceived _ (listingCode errors result) latches).imp
      rintro later code - ⟨received, token, late, hseen, rfl⟩
      exact ⟨received, token, late, hseen, rfl⟩
  | clean errorCodes pipeline =>
      apply Reading.Ensures.map
      unfold endClean
      split
      next hpanicked =>
        intro later hle
        refine ⟨_, _, _, .unlooked (hle .token) le_rfl (hle .ctrlCReceived), ?_⟩
        simp only [Stopped.sequential, CleanBin.run, hpanicked, if_true]
      next =>
        intro middle hmiddle later hlater
        exact ⟨_, _, _, .unlooked ((hmiddle.trans hlater) .token) (hmiddle .ctrlCReceived)
          (hlater .ctrlCReceived), rfl⟩

end S7cmd.CtrlC
