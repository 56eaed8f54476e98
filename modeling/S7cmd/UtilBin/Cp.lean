import S7cmd.BatchRun.Line
import S7cmd.UtilBin.Mv

/-!
# Copying an object

`cp` is the copy phase alone. With `--skip-existing` it first looks whether the target is
there already.
-/

namespace S7cmd.UtilBin

open S7cmd.BatchRun

/-- `s3util_rs::Config`: what the copy reads, and a flag that only `cp` reads. -/
structure UtilConfig extends Config where
  skipExisting : Bool
  deriving DecidableEq, Repr

/-- What `cp` asks beyond the copy: whether an object or a file exists. -/
structure CpWorld (State : Type) extends World State where
  /-- `head_object`; that nothing was found is an answer, not an error -/
  headObject : Text → Text → Except RunError Bool
  tryExists : Text → Except RunError Bool

variable {State : Type}

def targetClientConfigMissing : RunError where
  message := "internal error: target_client_config missing for s3 target".toList

def stdoutTargetUnreachable : PanicPayload :=
  .string ("internal error: entered unreachable code: validate_storage_config rejects " ++
    "--skip-existing with stdout target").toList

/-- The outer error is a panic. -/
def targetExists (world : CpWorld State) (config : UtilConfig) :
    Except PanicPayload (Except RunError Bool) :=
  match extractKeys world.toHost config.toConfig with
  | .error error => .ok (.error error)
  | .ok (_, targetKey) =>
      match config.target with
      | .s3 bucket _ =>
          match config.targetClientConfig with
          | none => .ok (.error targetClientConfigMissing)
          | some _ => .ok (world.headObject bucket targetKey)
      | .localFile _ => .ok (world.tryExists targetKey)
      | .stdio => .error stdoutTargetUnreachable

/-- What `cp` returns for a copy phase that ended. -/
def cpStatus (phase : CopyPhase) : Except RunError ExitStatus :=
  if phase.cancelled then .ok .cancelled
  else match phase.transferResult with
    | .error error => .error error
    | .ok _ => if phase.hasWarning then .ok .warning else .ok .success

def runCp (world : CpWorld State) (config : UtilConfig) (state : State) :
    Except PanicPayload (Except RunError ExitStatus) × State :=
  match if config.skipExisting then targetExists world config else .ok (.ok false) with
  | .error payload => (.error payload, state)
  | .ok (.error error) => (.ok (.error error), state)
  | .ok (.ok true) =>
      (.ok ((extractKeys world.toHost config.toConfig).map fun _ => .success), state)
  | .ok (.ok false) =>
      match runCopyPhase world.toWorld config.toConfig state with
      | (.error error, after) => (.ok (.error error), after)
      | (.ok phase, after) => (.ok (cpStatus phase), after)

/-- `cp` changes nothing, or what the copy phase changes. -/
theorem runCp_state (world : CpWorld State) (config : UtilConfig) (state : State) :
    (runCp world config state).2 = state ∨
      (runCp world config state).2 = (runCopyPhase world.toWorld config.toConfig state).2 := by
  unfold runCp
  split
  next => exact Or.inl rfl
  next => exact Or.inl rfl
  next => exact Or.inl rfl
  next =>
    right
    split
    next hphase => rw [hphase]
    next hphase => rw [hphase]

end S7cmd.UtilBin
