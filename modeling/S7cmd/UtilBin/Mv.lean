import S7cmd.UtilBin.Keys

/-!
# Moving an object

`mv` copies an object and then deletes the source. It refuses to move an object onto
itself, and deletes nothing unless four gates are passed.
-/

namespace S7cmd.UtilBin

inductive ExitStatus where
  | success
  | warning
  | notFound
  | cancelled
  deriving DecidableEq, Repr

/-- The version that the transfer read, as far as the store reports it. -/
structure TransferOutcome where
  sourceVersionId : Option Text := none
  deriving DecidableEq, Repr

inductive TransferDirection where
  | localToS3
  | s3ToLocal
  | s3ToS3
  | stdioToS3
  | s3ToStdio
  deriving DecidableEq, Repr

/-- What a run meets with outside this program: the library that transfers objects and
deletes them, and whether and when the run is cancelled. -/
structure World (State : Type) extends Host where
  detectDirection : Text → Text → Except RunError TransferDirection
  /-- the transfer between two resolved keys -/
  transfer : Config → TransferDirection → Text → Text → State →
    Except RunError TransferOutcome × State
  logDryRunAnnotationSync : Config → Text → State → Except RunError Unit
  /-- the deletion of a key, or of a version of it, on the source side -/
  deleteObject : Config → Text → Option Text → State → Except RunError Unit × State
  /-- whether Ctrl-C was received by the end of the copy -/
  ctrlCReceived : Bool
  /-- whether the pipeline's token is cancelled by the end of the copy -/
  tokenCancelled : Bool
  /-- whether it is when the last gate looks at it -/
  tokenCancelledLate : Bool
  /-- whether the transfer has warned about its verification -/
  hasWarning : Bool

variable {State : Type}

/-! ## The guard -/

def Config.sourceEndpoint (config : Config) : Option Text :=
  config.sourceClientConfig.bind ClientConfig.endpointUrl

def Config.targetEndpoint (config : Config) : Option Text :=
  config.targetClientConfig.bind ClientConfig.endpointUrl

/-- The id under which a store keeps the version that is not kept apart. -/
def nullVersion : Text := "null".toList

def selfMoveError (bucket key : Text) : RunError where
  message := "cannot mv an object onto itself: source and target both resolve to s3://".toList ++
    bucket ++ '/' :: key ++ (". mv is copy-then-delete, so this would delete the object it " ++
      "just wrote; use cp to rewrite an object in place").toList

def checkNotSelfMove (host : Host) (config : Config) : Except RunError Unit :=
  match config.source, config.target with
  | .s3 sourceBucket _, .s3 targetBucket _ =>
      if sourceBucket ≠ targetBucket then .ok ()
      else if config.sourceEndpoint ≠ config.targetEndpoint then .ok ()
      else match extractKeys host config with
        | .error error => .error error
        | .ok (sourceKey, targetKey) =>
            if sourceKey ≠ targetKey then .ok ()
            -- a version of its own is promoted, not destroyed
            else if config.versionId.any fun versionId => versionId ≠ nullVersion then .ok ()
            else .error (selfMoveError sourceBucket sourceKey)
  | _, _ => .ok ()

/-! ## The copy -/

structure CopyPhase where
  transferResult : Except RunError TransferOutcome
  sourceKey : Text
  cancelled : Bool
  hasWarning : Bool

def pathString : StoragePath → Text
  | .s3 bucket keyPrefix =>
      if keyPrefix = [] then "s3://".toList ++ bucket
      else "s3://".toList ++ bucket ++ '/' :: keyPrefix
  | .localFile path => path
  | .stdio => ['-']

def getPathStrings (source target : StoragePath) : Text × Text :=
  (pathString source, pathString target)

def sourceIsDirectory (path : Text) : RunError where
  message := "source is a directory: ".toList ++ path ++ ". cp command copies a single file.".toList

def checkLocalSourceNotDirectory (host : Host) (source : StoragePath)
    (direction : TransferDirection) : Except RunError Unit :=
  match direction, source with
  | .localToS3, .localFile path =>
      if host.isDir path then .error (sourceIsDirectory path) else .ok ()
  | _, _ => .ok ()

/-- A cancelled token stands for the user only if the transfer was not stopped by
another error. -/
def isUserCancellation (tokenCancelled : Bool)
    (transferResult : Except RunError TransferOutcome) : Bool :=
  tokenCancelled && match transferResult with
    | .ok _ => true
    | .error error => error.isCancelled

/-- `run_copy_phase` up to its test for a dry run. -/
def planCopy (world : World State) (config : Config) :
    Except RunError (TransferDirection × Text × Text) := do
  let (source, target) := getPathStrings config.source config.target
  let direction ← world.detectDirection source target
  checkLocalSourceNotDirectory world.toHost config.source direction
  let keys ← extractKeys world.toHost config
  return (direction, keys)

def runCopyPhase (world : World State) (config : Config) (state : State) :
    Except RunError CopyPhase × State :=
  match planCopy world config with
  | .error error => (.error error, state)
  | .ok (direction, sourceKey, targetKey) =>
      if config.dryRun then
        let transferResult : Except RunError TransferOutcome :=
          if config.enableSyncObjectAnnotations && direction = .s3ToS3 then
            (world.logDryRunAnnotationSync config sourceKey state).map fun _ => {}
          else .ok {}
        (.ok
          { transferResult
            sourceKey
            cancelled := world.ctrlCReceived ||
              isUserCancellation world.tokenCancelled transferResult
            hasWarning := false }, state)
      else
        let (transferResult, after) := world.transfer config direction sourceKey targetKey state
        (.ok
          { transferResult
            sourceKey
            cancelled := world.ctrlCReceived ||
              isUserCancellation world.tokenCancelled transferResult
            hasWarning := world.hasWarning }, after)

/-! ## The deletion -/

/-- A call of `delete_object`. -/
structure DeleteCall where
  key : Text
  versionId : Option Text
  deriving DecidableEq, Repr

/-- What a run returns, the deletions it asked for and the state it leaves. -/
structure MvRun (State : Type) where
  result : Except RunError ExitStatus
  deletes : List DeleteCall
  state : State

def verificationFailed : RunError where
  message := ("verification failed; source not deleted (use --no-fail-on-verify-error " ++
    "to override)").toList

def applyMvDecisionTree (world : World State) (config : Config) (phase : CopyPhase)
    (state : State) : MvRun State :=
  -- gate 1: cancelled during or after the transfer
  if phase.cancelled then ⟨.ok .cancelled, [], state⟩
  else match phase.transferResult with
  -- gate 2: the transfer failed
  | .error error => ⟨.error error, [], state⟩
  | .ok outcome =>
      -- gate 3: verification warned
      if phase.hasWarning && !config.noFailOnVerifyError then
        ⟨.error verificationFailed, [], state⟩
      -- gate 4: cancelled while the other gates were passed
      else if world.tokenCancelledLate then ⟨.ok .cancelled, [], state⟩
      else
        let versionId := config.versionId.or outcome.sourceVersionId
        if config.dryRun then ⟨.ok .success, [], state⟩
        else
          let (deleted, after) := world.deleteObject config phase.sourceKey versionId state
          ⟨deleted.map fun _ => .success, [⟨phase.sourceKey, versionId⟩], after⟩

def runMv (world : World State) (config : Config) (state : State) : MvRun State :=
  match checkNotSelfMove world.toHost config with
  | .error error => ⟨.error error, [], state⟩
  | .ok () =>
      match runCopyPhase world config state with
      | (.error error, after) => ⟨.error error, [], after⟩
      | (.ok phase, after) => applyMvDecisionTree world config phase after

/-! ## What each part can do -/

variable {world : World State} {config : Config} {state : State}

/-- A move that the guard lets pass is between different objects, or of a version
with a name of its own. -/
theorem not_self_of_check {host : Host} {sourceBucket targetBucket sourcePrefix targetPrefix : Text}
    {sourceKey targetKey : Text} (hsource : config.source = .s3 sourceBucket sourcePrefix)
    (htarget : config.target = .s3 targetBucket targetPrefix)
    (hkeys : extractKeys host config = .ok (sourceKey, targetKey))
    (hcheck : checkNotSelfMove host config = .ok ()) :
    sourceBucket ≠ targetBucket ∨ config.sourceEndpoint ≠ config.targetEndpoint ∨
      sourceKey ≠ targetKey ∨ ∃ versionId, config.versionId = some versionId ∧
        versionId ≠ nullVersion := by
  unfold checkNotSelfMove at hcheck
  rw [hsource, htarget] at hcheck
  dsimp only at hcheck
  split at hcheck
  next hbucket => exact Or.inl hbucket
  next =>
    split at hcheck
    next hendpoint => exact Or.inr (Or.inl hendpoint)
    next =>
      rw [hkeys] at hcheck
      dsimp only at hcheck
      split at hcheck
      next hkey => exact Or.inr (Or.inr (Or.inl hkey))
      next =>
        split at hcheck
        next hversion =>
          obtain ⟨versionId, hsome, hne⟩ := (Option.any_eq_true _ _).mp hversion
          exact Or.inr (Or.inr (Or.inr ⟨versionId, hsome, of_decide_eq_true hne⟩))
        next => cases hcheck

/-- How the copy phase ends. -/
inductive Copied (world : World State) (config : Config) (state : State) :
    Except RunError CopyPhase × State → Prop
  | unplanned (error : RunError) : Copied world config state (.error error, state)
  | dryRun (phase : CopyPhase) (hdryRun : config.dryRun = true) :
      Copied world config state (.ok phase, state)
  | transferred (direction : TransferDirection) (sourceKey targetKey : Text)
      (transferResult : Except RunError TransferOutcome) (cancelled hasWarning : Bool)
      (after : State) (hdryRun : config.dryRun = false)
      (hplan : planCopy world config = .ok (direction, sourceKey, targetKey))
      (htransfer : world.transfer config direction sourceKey targetKey state =
        (transferResult, after)) :
      Copied world config state (.ok ⟨transferResult, sourceKey, cancelled, hasWarning⟩, after)

theorem copied (world : World State) (config : Config) (state : State) :
    Copied world config state (runCopyPhase world config state) := by
  unfold runCopyPhase
  cases hplan : planCopy world config with
  | error error => exact .unplanned error
  | ok plan =>
      obtain ⟨direction, sourceKey, targetKey⟩ := plan
      dsimp only
      split
      next hdryRun => exact .dryRun _ hdryRun
      next hdryRun =>
        exact .transferred direction sourceKey targetKey _ _ _ _ (by simpa using hdryRun) hplan rfl

/-- How the gates end: nothing is deleted, or one call goes out and decides. -/
inductive Decided (world : World State) (config : Config) (phase : CopyPhase) (state : State) :
    MvRun State → Prop
  | kept (result : Except RunError ExitStatus)
      (hresult : result = .ok .success → config.dryRun = true) :
      Decided world config phase state ⟨result, [], state⟩
  | deleted (outcome : TransferOutcome) (deleted : Except RunError Unit) (after : State)
      (hdryRun : config.dryRun = false) (htransfer : phase.transferResult = .ok outcome)
      (hdelete : world.deleteObject config phase.sourceKey
        (config.versionId.or outcome.sourceVersionId) state = (deleted, after)) :
      Decided world config phase state
        ⟨deleted.map fun _ => .success,
          [⟨phase.sourceKey, config.versionId.or outcome.sourceVersionId⟩], after⟩

theorem decided (world : World State) (config : Config) (phase : CopyPhase) (state : State) :
    Decided world config phase state (applyMvDecisionTree world config phase state) := by
  unfold applyMvDecisionTree
  split
  next => exact .kept _ nofun
  next =>
    cases htransfer : phase.transferResult with
    | error error => exact .kept _ nofun
    | ok outcome =>
        dsimp only
        split
        next => exact .kept _ nofun
        next =>
          split
          next => exact .kept _ nofun
          next =>
            split
            next hdryRun => exact .kept _ fun _ => hdryRun
            next hdryRun => exact .deleted outcome _ _ (by simpa using hdryRun) htransfer rfl

end S7cmd.UtilBin
