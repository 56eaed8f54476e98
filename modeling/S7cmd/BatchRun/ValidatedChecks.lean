import S7cmd.Dispatch

/-!
# The checks of a validated line

Validation and dispatch look at a command one after the other, each with a table of its own.
Dispatch checks the arguments of nine subcommands before it runs them, and validation makes
the checks of three of these in advance.
-/

namespace S7cmd

open S7cmd.BatchRun S7cmd.UtilBin

variable {Rest State : Type} {libraries : Libraries Rest} {cmd : Cmd Rest}

/-! ## The checks of dispatch -/

/-- The check that dispatch makes of a command before it runs it. -/
def checkArguments (libraries : Libraries Rest) : Cmd Rest → Except Text Unit
  | .sync args => (libraries.syncConfig args).map fun _ => ()
  | .ls args => (libraries.lsConfig args).map fun _ => ()
  | .clean args => (libraries.cleanConfig args).map fun _ => ()
  | .cp args => (libraries.cpConfig args).map fun _ => ()
  | .mv args => (libraries.mvConfig args).map fun _ => ()
  | .rename args => libraries.renameValidate args
  | .putBucketVersioning args | .putBucketAccelerateConfiguration args => checkStateFlag args
  | .putBucketRequestPayment args => checkPayerFlag args
  | _ => .ok ()

theorem ended_ne_rejected {α β : Type} (toExit : α → ExitCode) (run : Except PanicPayload α × β)
    (message : Text) : (ended toExit run).1 ≠ .rejected message := by
  unfold ended
  split <;> simp

theorem finished_ne_rejected {α β : Type} (toExit : α → ExitCode) (run : α × β)
    (message : Text) : (finished toExit run).1 ≠ .rejected message := by
  simp [finished]

theorem map_eq_error_iff {α β : Type} {result : Except Text α} {f : α → β} {message : Text} :
    result.map f = .error message ↔ result = .error message := by
  cases result <;> simp [Except.map]

/-- A run behind a check is rejected by the check alone. -/
theorem checked_rejected_iff {α β : Type} {check : Except Text α} {state : β}
    {run : α → Dispatched × β} {message : Text}
    (hrun : ∀ value, (run value).1 ≠ .rejected message) :
    (checked check state run).1 = .rejected message ↔ check = .error message := by
  cases check with
  | error other => simp [checked]
  | ok value => simp [checked, hrun value]

/-- Dispatch rejects a command exactly when its check does. -/
theorem dispatch_rejected_iff (world : DispatchWorld Rest State) (process : Process State)
    (message : Text) :
    (dispatch libraries world cmd process).1 = .rejected message ↔
      checkArguments libraries cmd = .error message := by
  cases cmd
  case ls | cp | clean | sync =>
    exact (checked_rejected_iff fun _ => ended_ne_rejected _ _ _).trans map_eq_error_iff.symm
  case mv =>
    exact (checked_rejected_iff fun _ => finished_ne_rejected _ _ _).trans map_eq_error_iff.symm
  case rename | putBucketVersioning | putBucketAccelerateConfiguration |
      putBucketRequestPayment =>
    exact checked_rejected_iff fun _ => ended_ne_rejected _ _ _
  -- every other command runs unchecked
  all_goals
    refine iff_of_false ?_ nofun
    first
    | exact ended_ne_rejected _ _ _
    | exact finished_ne_rejected _ _ _

/-! ## The checks that validation repeats -/

/-- The tracing flags of a command whose check validation does not repeat. -/
def uncheckedFlags : Cmd Rest → Option TracingFlags
  | .ls args | .clean args | .rename args | .putBucketVersioning args
  | .putBucketAccelerateConfiguration args | .putBucketRequestPayment args => some args.common
  | _ => none

/-- Whether the arguments are such that a check validation does not repeat accepts them. -/
def PassesUnchecked (libraries : Libraries Rest) : Cmd Rest → Prop
  | .ls args => ∃ config, libraries.lsConfig args = .ok config
  | .clean args => ∃ config, libraries.cleanConfig args = .ok config
  | .rename args => libraries.renameValidate args = .ok ()
  | .putBucketVersioning args | .putBucketAccelerateConfiguration args =>
      args.enabled = true ∨ args.suspended = true
  | .putBucketRequestPayment args => args.requester = true ∨ args.bucketOwner = true
  | _ => True

theorem checkStateFlag_eq_ok_iff {args : StateFlagArgs Rest} :
    checkStateFlag args = .ok () ↔ args.enabled = true ∨ args.suspended = true := by
  unfold checkStateFlag
  cases args.enabled <;> cases args.suspended <;> simp

theorem checkPayerFlag_eq_ok_iff {args : PutBucketRequestPaymentArgs Rest} :
    checkPayerFlag args = .ok () ↔ args.requester = true ∨ args.bucketOwner = true := by
  unfold checkPayerFlag
  cases args.requester <;> cases args.bucketOwner <;> simp

theorem map_eq_ok_iff {α : Type} {result : Except Text α} :
    result.map (fun _ => ()) = .ok () ↔ ∃ value, result = .ok value := by
  cases result <;> simp [Except.map]

/-- Of an accepted command only a check that validation does not repeat is open. -/
theorem checkArguments_eq_ok_iff (haccepted : Accepted libraries cmd) :
    checkArguments libraries cmd = .ok () ↔ PassesUnchecked libraries cmd := by
  cases cmd
  case ls | clean => exact map_eq_ok_iff
  case rename => exact Iff.rfl
  case putBucketVersioning | putBucketAccelerateConfiguration => exact checkStateFlag_eq_ok_iff
  case putBucketRequestPayment => exact checkPayerFlag_eq_ok_iff
  case cp args =>
    obtain ⟨config, hconfig, -⟩ := rejectStdioTransfer_cp.mp haccepted.notStdio
    exact iff_of_true (map_eq_ok_iff.mpr ⟨config, hconfig⟩) trivial
  case mv args =>
    obtain ⟨config, hconfig, -⟩ := rejectStdioTransfer_mv.mp haccepted.notStdio
    exact iff_of_true (map_eq_ok_iff.mpr ⟨config, hconfig⟩) trivial
  case sync args =>
    exact iff_of_true (map_eq_ok_iff.mpr (exists_syncConfig_of_accepted haccepted)) trivial
  all_goals exact iff_of_true rfl trivial

/-- Of a command whose check validation does not repeat, it looks at the tracing flags only. -/
theorem accepted_iff_of_unchecked {flags : TracingFlags} (hflags : uncheckedFlags cmd = some flags) :
    Accepted libraries cmd ↔ flags.any = false := by
  constructor
  · intro haccepted
    have htracing := haccepted.notTracing
    cases cmd
    case ls | clean | rename | putBucketVersioning | putBucketAccelerateConfiguration |
        putBucketRequestPayment =>
      cases hflags
      exact checkCommon_eq_ok_iff.mp htracing
    all_goals cases hflags
  · intro hany
    cases cmd
    case ls | clean | rename | putBucketVersioning | putBucketAccelerateConfiguration |
        putBucketRequestPayment =>
      cases hflags
      exact ⟨rfl, rfl, rfl, checkCommon_eq_ok_iff.mpr hany⟩
    all_goals cases hflags

theorem passesUnchecked_of_none (hflags : uncheckedFlags cmd = none) :
    PassesUnchecked libraries cmd := by
  cases cmd
  case ls | clean | rename | putBucketVersioning | putBucketAccelerateConfiguration |
      putBucketRequestPayment => cases hflags
  all_goals trivial

/-- Dispatch lets an accepted command run exactly when the check that validation does not
repeat passes. -/
theorem dispatch_runs_iff (haccepted : Accepted libraries cmd) (world : DispatchWorld Rest State)
    (process : Process State) :
    (∀ message, (dispatch libraries world cmd process).1 ≠ .rejected message) ↔
      PassesUnchecked libraries cmd := by
  rw [← checkArguments_eq_ok_iff haccepted]
  simp only [ne_eq, dispatch_rejected_iff]
  cases checkArguments libraries cmd <;> simp

/-- A line of a prepared script fails a check of dispatch only if validation does not repeat
that check. -/
theorem exists_unchecked_of_prepared {checks : LineChecks (Cmd Rest)}
    (hchecks : checks.validate = validate libraries) {availableParallelism : Option Nat}
    {parsed : List ParsedLine} {line : PreparedLine (Cmd Rest)}
    (hline : line ∈ parseAndValidate checks availableParallelism parsed)
    (hcmd : line.kind = .cmd cmd) {world : DispatchWorld Rest State} {process : Process State}
    {message : Text} (hrejected : (dispatch libraries world cmd process).1 = .rejected message) :
    ∃ flags, uncheckedFlags cmd = some flags := by
  have haccepted := accepted_of_prepared hchecks hline hcmd
  cases hflags : uncheckedFlags cmd with
  | some flags => exact ⟨flags, rfl⟩
  | none =>
      have hruns := (dispatch_runs_iff haccepted world process).mpr
        (passesUnchecked_of_none hflags)
      exact absurd hrejected (hruns message)

/-- That a command was validated keeps dispatch from rejecting it exactly when the command sets
a tracing flag, and so is not validated, or passes the check that validation does not repeat. -/
theorem validate_covers_dispatch_iff (libraries : Libraries Rest) (world : DispatchWorld Rest State)
    (lineNo : Nat) (raw : Text) (cmd : Cmd Rest) (process : Process State) :
    (validate libraries lineNo raw cmd = .ok () →
        ∀ message, (dispatch libraries world cmd process).1 ≠ .rejected message) ↔
      (∃ flags, uncheckedFlags cmd = some flags ∧ flags.any = true) ∨
        PassesUnchecked libraries cmd := by
  rw [validate_eq_ok_iff]
  constructor
  · intro hcovers
    cases hflags : uncheckedFlags cmd with
    | none => exact Or.inr (passesUnchecked_of_none hflags)
    | some flags =>
        cases hany : flags.any with
        | true => exact Or.inl ⟨flags, rfl, hany⟩
        | false =>
            have haccepted := (@accepted_iff_of_unchecked _ libraries _ _ hflags).mpr hany
            exact Or.inr ((dispatch_runs_iff haccepted world process).mp (hcovers haccepted))
  · rintro (⟨flags, hflags, hany⟩ | hpasses) haccepted
    · rw [(accepted_iff_of_unchecked hflags).mp haccepted] at hany
      cases hany
    · exact (dispatch_runs_iff haccepted world process).mpr hpasses

/-- `put-bucket-versioning s3://bucket`, with neither of the two flags, is validated whatever
the libraries say, and then always ends with code 2. -/
theorem dispatch_rejects_validated :
    (∀ libraries : Libraries Unit, validate libraries 1 "put-bucket-versioning s3://bucket".toList
        (.putBucketVersioning ⟨⟨{}, ()⟩, false, false⟩) = .ok ()) ∧
      ∀ (libraries : Libraries Unit) (world : DispatchWorld Unit Unit) (process : Process Unit),
        (dispatch libraries world (.putBucketVersioning ⟨⟨{}, ()⟩, false, false⟩) process).1 =
            .rejected oneOfEnabledOrSuspended ∧
          (Dispatched.rejected oneOfEnabledOrSuspended).result = .code 2 := by
  constructor
  · intro libraries
    rfl
  · intro libraries world process
    exact ⟨rfl, rfl⟩

end S7cmd
