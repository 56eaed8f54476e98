import S7cmd.CtrlC.Endings

/-!
# What an interrupt does to a command

In the sequential model: a command that sees the flag returns the code of an interrupt, nothing
else but a copy that yields to its token returns it, and `mv` deletes nothing when its last gate
sees the token cancelled. The last of these holds at each look that is still to come.
-/

namespace S7cmd.CtrlC

open Foundation S7cmd.BatchRun S7cmd.UtilBin

variable {State E : Type}

/-- The code of an interrupt, and nothing deleted. -/
def interrupted : Ended := { code := exitCodeInterrupted }

namespace Stopped

/-- A panic of the indicator task is reported before anything is looked at. -/
def indicatorPanicked : Stopped State E → Bool
  | .sync pipeline => pipeline.indicatorFault.isSome
  | .clean _ pipeline => pipeline.indicatorPanicked
  | _ => false

/-- Whether a cancelled token alone makes a copy report a cancellation: it has no genuine
error to report. -/
def yieldsToToken : Stopped State E → Bool
  | .cp transfer | .mv _ _ transfer _ => isUserCancellation true transfer.transferResult
  | _ => false

/-- The libraries of `ls` and `clean` give no error the code of an interrupt. -/
def CodesApart : Stopped State E → Prop
  | .ls errors _ => ∀ error, errors.exitCodeFromError error ≠ exitCodeInterrupted
  | .clean errorCodes _ => ∀ error, errorCodes.exitCodeFromError error ≠ exitCodeInterrupted
  | _ => True

/-! ## The flag is seen -/

theorem sequential_of_received {stopped : Stopped State E} {token late : Bool}
    (hindicator : stopped.indicatorPanicked = false) :
    stopped.sequential true token late = interrupted := by
  cases stopped with
  | cp transfer => rfl
  | mv world config transfer state => rfl
  | sync pipeline =>
      have hfault : pipeline.indicatorFault = none := by
        simpa [indicatorPanicked] using hindicator
      simp only [sequential, SyncPipeline.answered, hfault]
      rfl
  | ls errors result => rfl
  | clean errorCodes pipeline =>
      have hpanicked : pipeline.indicatorPanicked = false := hindicator
      simp only [sequential, CleanBin.run, hpanicked, Bool.false_eq_true, if_false, if_true]
      rfl

end Stopped

/-! ## The code is returned -/

theorem statusToExit_eq_interrupted {result : Except RunError ExitStatus} :
    statusToExit result = exitCodeInterrupted ↔ result = .ok .cancelled := by
  rcases result with _ | (_ | _ | _ | _) <;>
    simp [statusToExit, statusCode, exitCodeInterrupted, exitCodeError]

theorem cpStatus_eq_cancelled {phase : CopyPhase} :
    cpStatus phase = .ok .cancelled ↔ phase.cancelled = true := by
  unfold cpStatus
  split
  next hcancelled => simp [hcancelled]
  next hcancelled =>
    split
    next => simp [hcancelled]
    next => split <;> simp [hcancelled]

theorem map_success_ne_cancelled (deleted : Except RunError Unit) :
    (deleted.map fun _ => ExitStatus.success) ≠ .ok .cancelled := by
  cases deleted <;> nofun

/-- A move is cancelled at its first gate or at its last. -/
theorem decision_eq_cancelled {world : World State} {config : Config} {phase : CopyPhase}
    {state : State}
    (hresult : (applyMvDecisionTree world config phase state).result = .ok .cancelled) :
    phase.cancelled = true ∨
      world.tokenCancelledLate = true ∧ ∃ outcome, phase.transferResult = .ok outcome := by
  unfold applyMvDecisionTree at hresult
  split at hresult
  next hcancelled => exact Or.inl hcancelled
  next =>
    split at hresult
    next => cases hresult
    next outcome htransfer =>
      split at hresult
      next => cases hresult
      next =>
        split at hresult
        next hlate => exact Or.inr ⟨hlate, outcome, htransfer⟩
        next =>
          dsimp only at hresult
          split at hresult
          next => cases hresult
          next => exact absurd hresult (map_success_ne_cancelled _)

theorem sync_ne_interrupted (pipeline : SyncPipeline) :
    codeToExit (pipeline.answered false) ≠ exitCodeInterrupted := by
  unfold SyncPipeline.answered
  split
  next => exact show (1 : ExitCode) ≠ 130 by decide
  next =>
    simp only [Bool.false_eq_true, if_false]
    unfold SyncPipeline.result
    split
    next => decide
    next => split <;> decide

theorem listingCode_ne_interrupted {errors : ListingErrors E}
    (hcodes : ∀ error, errors.exitCodeFromError error ≠ exitCodeInterrupted)
    (result : Except E Unit) : listingCode errors result ≠ exitCodeInterrupted := by
  unfold listingCode
  split
  next => decide
  next error =>
    split
    next => decide
    next =>
      split
      next => decide
      next => exact hcodes error

/-- The fold of `clean` makes up no code. -/
theorem codeOfErrors_ne_interrupted {errorCodes : CleanBin.ErrorCodes E} {errors : List E}
    (hcodes : ∀ error, errorCodes.exitCodeFromError error ≠ exitCodeInterrupted) {code : ExitCode}
    (hcode : code ≠ exitCodeInterrupted) :
    CleanBin.codeOfErrors errorCodes code errors ≠ exitCodeInterrupted := by
  induction errors generalizing code with
  | nil => exact hcode
  | cons error errors ih =>
      unfold CleanBin.codeOfErrors
      split
      next => decide
      next =>
        apply ih
        rcases le_total code (errorCodes.exitCodeFromError error) with hle | hle
        · rw [max_eq_right hle]
          exact hcodes error
        · rw [max_eq_left hle]
          exact hcode

theorem cleanRun_ne_interrupted {errorCodes : CleanBin.ErrorCodes E}
    {pipeline : CleanBin.DeletionPipeline E} (hquiet : pipeline.ctrlCReceived = false)
    (hmet : pipeline.checkPrerequisites = .ok ())
    (hcodes : ∀ error, errorCodes.exitCodeFromError error ≠ exitCodeInterrupted) :
    CleanBin.run errorCodes pipeline ≠ exitCodeInterrupted := by
  simp only [CleanBin.run, hmet, hquiet, Bool.false_eq_true, if_false]
  split
  next => decide
  next =>
    split
    next =>
      split
      next => decide
      next =>
        split
        next => decide
        next => exact codeOfErrors_ne_interrupted hcodes (by decide)
    next => split <;> decide

/-- The first gate of a copy has seen the flag, or a token to which the copy yields. -/
theorem received_or_token_of_cancelled {transfer : Transfer} {received token : Bool}
    (hcancelled : (transfer.answered received token).cancelled = true) :
    received = true ∨ token = true ∧ isUserCancellation true transfer.transferResult = true := by
  rcases Bool.or_eq_true_iff.mp hcancelled with hreceived | hyields
  · exact Or.inl hreceived
  · unfold isUserCancellation at hyields ⊢
    obtain ⟨htoken, hresult⟩ := Bool.and_eq_true_iff.mp hyields
    exact Or.inr ⟨htoken, hresult⟩

theorem received_or_yields {stopped : Stopped State E} {received token late : Bool}
    (hcodes : stopped.CodesApart) (hle : token ≤ late)
    (hcode : (stopped.sequential received token late).code = exitCodeInterrupted) :
    received = true ∨ late = true ∧ stopped.yieldsToToken = true := by
  cases stopped with
  | cp transfer =>
      have hcancelled := cpStatus_eq_cancelled.mp (statusToExit_eq_interrupted.mp hcode)
      exact (received_or_token_of_cancelled hcancelled).imp_right fun ⟨htoken, hyields⟩ =>
        ⟨hle htoken, hyields⟩
  | mv world config transfer state =>
      rcases decision_eq_cancelled (statusToExit_eq_interrupted.mp hcode) with
        hcancelled | ⟨hlate, outcome, htransfer⟩
      · exact (received_or_token_of_cancelled hcancelled).imp_right fun ⟨htoken, hyields⟩ =>
          ⟨hle htoken, hyields⟩
      · have hok : transfer.transferResult = .ok outcome := htransfer
        refine Or.inr ⟨hlate, ?_⟩
        simp only [Stopped.yieldsToToken, isUserCancellation, hok, Bool.and_self]
  | sync pipeline =>
      cases received with
      | true => exact Or.inl rfl
      | false => exact absurd hcode (sync_ne_interrupted pipeline)
  | ls errors result =>
      cases received with
      | true => exact Or.inl rfl
      | false => exact absurd hcode (listingCode_ne_interrupted hcodes result)
  | clean errorCodes pipeline =>
      cases received with
      | true => exact Or.inl rfl
      | false =>
          have hquiet := @cleanRun_ne_interrupted E errorCodes
            { pipeline with checkPrerequisites := .ok (), ctrlCReceived := false } rfl rfl hcodes
          exact absurd hcode hquiet

/-! ## The token is cancelled -/

theorem deletes_of_late {world : World State} (hlate : world.tokenCancelledLate = true)
    (config : Config) (phase : CopyPhase) (state : State) :
    (applyMvDecisionTree world config phase state).deletes = [] := by
  unfold applyMvDecisionTree
  split
  next => rfl
  next =>
    split
    next => rfl
    next => split <;> rfl

theorem sequential_deletes_of_late (stopped : Stopped State E) (received token : Bool) :
    (stopped.sequential received token true).deletes = [] := by
  cases stopped with
  | mv world config transfer state => exact deletes_of_late rfl config _ state
  | _ => rfl

/-- Whatever is seen from here on, nothing is deleted. -/
def Keeps (rest : Reading Latch Ended) : Prop :=
  ∀ latches, latches .token = true → rest.Ensures (fun _ ended => ended.deletes = []) latches

theorem keeps_ending (stopped : Stopped State E) : Keeps stopped.ending := by
  intro latches htoken
  apply (ensures_sequential stopped latches).imp
  rintro later ended - ⟨received, token, late, hseen, rfl⟩
  rw [show late = true from hseen.token_le (hseen.le_token htoken)]
  exact sequential_deletes_of_late stopped received token

theorem keeps_bind {α : Type} {next : α → Reading Latch Ended} (hkeeps : ∀ value, Keeps (next value))
    (rest : Reading Latch α) : Keeps (rest >>= next) := by
  intro latches htoken
  apply Reading.Ensures.bind
  apply Reading.ensures_of_forall
  exact fun later value hle => hkeeps value later (hle .token htoken)

/-- The last gate holds, whatever was seen before it. -/
theorem keeps_decideMv (world : World State) (config : Config) (phase : CopyPhase)
    (state : State) :
    Keeps (decideMv world config phase state >>= fun run => .done (endedMv run)) := by
  intro latches htoken
  apply Reading.Ensures.map
  apply (ensures_decideMv world config phase state latches).imp
  rintro later run - ⟨late, hlate, -, rfl⟩
  exact deletes_of_late (hlate htoken) config phase state

theorem atLooks_decideMv (world : World State) (config : Config) (phase : CopyPhase)
    (state : State) :
    (decideMv world config phase state >>= fun run => .done (endedMv run)).AtLooks Keeps := by
  have hkeeps := keeps_decideMv world config phase state
  unfold decideMv at hkeeps ⊢
  split
  next => trivial
  next hcancelled =>
    split
    next => trivial
    next outcome htransfer =>
      split
      next => trivial
      next hwarned =>
        rw [if_neg hcancelled, htransfer] at hkeeps
        dsimp only at hkeeps
        rw [if_neg hwarned] at hkeeps
        refine ⟨hkeeps, fun seen => ?_⟩
        cases seen <;> trivial

/-- A command that deletes nothing behind its pipeline. -/
theorem atLooks_map {α : Type} (code : α → ExitCode) (rest : Reading Latch α) :
    (rest >>= fun value => (.done { code := code value } : Reading Latch Ended)).AtLooks Keeps := by
  apply Reading.AtLooks.bind_of_forall
  · intro rest
    apply keeps_bind
    intro value latches _ later _
    rfl
  · exact fun _ => trivial

/-- At each of its looks a command keeps the source if its token is cancelled, whatever it has
seen before. -/
theorem atLooks_ending (stopped : Stopped State E) : stopped.ending.AtLooks Keeps := by
  cases stopped with
  | cp transfer => exact atLooks_map statusToExit (endCp transfer)
  | mv world config transfer state =>
      have hlooks := Reading.AtLooks.bind_of_forall
        (keeps_bind (keeps_decideMv world config · state))
        (atLooks_decideMv world config · state) transfer.copyPhase
      rwa [← Reading.bind_assoc] at hlooks
  | sync pipeline => exact atLooks_map codeToExit (endSync pipeline)
  | ls errors result => exact atLooks_map id (endLs errors result)
  | clean errorCodes pipeline => exact atLooks_map id (endClean errorCodes pipeline)

end S7cmd.CtrlC
