import S7cmd.BatchRun.Outcome

/-!
# The exit code of a clean

`clean` drives a deletion pipeline and folds the errors that the pipeline recorded into one
exit code. The fold keeps the highest code, but it leaves at the first cancellation it meets,
and leaves with success.
-/

namespace S7cmd.CleanBin

open S7cmd.BatchRun

def exitCodeSuccess : ExitCode := 0

def exitCodeWarning : ExitCode := 3

def exitCodeAbnormalTermination : ExitCode := 101

def sigintExitCode : ExitCode := 130

/-- What the library of the pipeline answers about an error. -/
structure ErrorCodes (E : Type) where
  isCancelledError : E → Bool
  exitCodeFromError : E → ExitCode

/-- The pipeline of one run, and what happens beside it. -/
structure DeletionPipeline (E : Type) where
  /-- the confirmation prompt, asked before anything is deleted -/
  checkPrerequisites : Except E Unit
  indicatorPanicked : Bool
  ctrlCReceived : Bool
  hasError : Bool
  hasPanic : Bool
  getErrorsAndConsume : Option (List E)
  hasWarning : Bool

variable {E : Type}

/-- The loop of `run` over the errors, from the code that it holds. -/
def codeOfErrors (errorCodes : ErrorCodes E) : ExitCode → List E → ExitCode
  | code, [] => code
  | code, error :: errors =>
      if errorCodes.isCancelledError error then exitCodeSuccess
      else codeOfErrors errorCodes (max code (errorCodes.exitCodeFromError error)) errors

def run (errorCodes : ErrorCodes E) (pipeline : DeletionPipeline E) : ExitCode :=
  match pipeline.checkPrerequisites with
  | .error error =>
      if errorCodes.isCancelledError error then exitCodeSuccess
      else errorCodes.exitCodeFromError error
  | .ok () =>
      if pipeline.indicatorPanicked then exitCodeAbnormalTermination
      else if pipeline.ctrlCReceived then sigintExitCode
      else if pipeline.hasError then
        if pipeline.hasPanic then exitCodeAbnormalTermination
        else match pipeline.getErrorsAndConsume with
          | none => 1
          | some errors => codeOfErrors errorCodes 1 errors
      else if pipeline.hasWarning then exitCodeWarning
      else exitCodeSuccess

/-- The errors of a run: the one that kept it from starting, or those that the pipeline
recorded. -/
def DeletionPipeline.recorded (pipeline : DeletionPipeline E) : List E :=
  match pipeline.checkPrerequisites with
  | .error error => [error]
  | .ok () => pipeline.getErrorsAndConsume.getD []

/-! ## The loop -/

variable {errorCodes : ErrorCodes E}

/-- One cancellation, wherever it stands, decides. -/
theorem codeOfErrors_of_cancelled {errors : List E} (code : ExitCode)
    (hcancelled : ∃ error ∈ errors, errorCodes.isCancelledError error = true) :
    codeOfErrors errorCodes code errors = exitCodeSuccess := by
  induction errors generalizing code with
  | nil => simp at hcancelled
  | cons error errors ih =>
      simp only [codeOfErrors]
      split
      next => rfl
      next herror =>
        apply ih
        simpa [herror] using hcancelled

/-- Without one the loop is the fold of `max` that its comment describes. -/
theorem codeOfErrors_of_genuine {errors : List E} (code : ExitCode)
    (hgenuine : ∀ error ∈ errors, errorCodes.isCancelledError error = false) :
    codeOfErrors errorCodes code errors =
      (errors.map errorCodes.exitCodeFromError).foldl max code := by
  induction errors generalizing code with
  | nil => rfl
  | cons error errors ih =>
      have herror := hgenuine error List.mem_cons_self
      simp only [codeOfErrors, herror, Bool.false_eq_true, if_false, List.map_cons,
        List.foldl_cons]
      exact ih _ fun later hlater => hgenuine later (List.mem_cons_of_mem _ hlater)

theorem le_codeOfErrors {errors : List E} (code : ExitCode)
    (hgenuine : ∀ error ∈ errors, errorCodes.isCancelledError error = false) :
    code ≤ codeOfErrors errorCodes code errors := by
  rw [codeOfErrors_of_genuine code hgenuine]
  generalize errors.map errorCodes.exitCodeFromError = codes
  induction codes generalizing code with
  | nil => exact Int.le_refl code
  | cons next codes ih => exact Int.le_trans (Int.le_max_left code next) (ih (max code next))

/-! ## What the exit code says about the errors -/

/-- An exit code that never reports success over a genuine error. -/
structure Honest (errorCodes : ErrorCodes E) (recorded : List E) (code : ExitCode) : Prop where
  cancelled_of_success : code = exitCodeSuccess →
    ∀ error ∈ recorded, errorCodes.isCancelledError error = true
  failed_of_genuine : ∀ error ∈ recorded, errorCodes.isCancelledError error = false →
    code ≠ exitCodeSuccess
  not_succeeded : ∀ error ∈ recorded, errorCodes.isCancelledError error = false →
    ∀ summary : Summary, (summary.record code).ok = summary.ok

theorem record_ok {code : ExitCode} (hcode : code ≠ exitCodeSuccess) (summary : Summary) :
    (summary.record code).ok = summary.ok := by
  unfold Summary.record
  split
  next => exact absurd rfl hcode
  all_goals rfl

theorem honest_iff {recorded : List E} {code : ExitCode} :
    Honest errorCodes recorded code ↔
      (code = exitCodeSuccess → ∀ error ∈ recorded, errorCodes.isCancelledError error = true) := by
  constructor
  · exact Honest.cancelled_of_success
  · intro hcode
    have hfailed : ∀ error ∈ recorded, errorCodes.isCancelledError error = false →
        code ≠ exitCodeSuccess := by
      intro error herror hgenuine hsuccess
      have hcancelled := hcode hsuccess error herror
      rw [hgenuine] at hcancelled
      cases hcancelled
    exact ⟨hcode, hfailed, fun error herror hgenuine => record_ok (hfailed error herror hgenuine)⟩

/-- What the code relies on: an error has a code of at least 1, and a pipeline that has
recorded an error says so. -/
structure Reports (errorCodes : ErrorCodes E) (pipeline : DeletionPipeline E) : Prop where
  one_le : ∀ error, 1 ≤ errorCodes.exitCodeFromError error
  hasError : pipeline.getErrorsAndConsume.getD [] ≠ [] → pipeline.hasError = true

/-- Neither a signal nor a panic cut the run short. -/
structure DeletionPipeline.Undisturbed (pipeline : DeletionPipeline E) : Prop where
  ctrlC : pipeline.ctrlCReceived = false
  panic : pipeline.hasPanic = false
  indicator : pipeline.indicatorPanicked = false

variable {pipeline : DeletionPipeline E}

/-- A run that failed to start is a run with one error. -/
theorem run_of_unmet {error : E} (hprerequisites : pipeline.checkPrerequisites = .error error) :
    run errorCodes pipeline = codeOfErrors errorCodes (errorCodes.exitCodeFromError error)
      pipeline.recorded := by
  simp only [run, DeletionPipeline.recorded, hprerequisites, codeOfErrors, Int.max_self]

/-- An undisturbed run that recorded an error is the loop. -/
theorem run_of_recorded (hreports : Reports errorCodes pipeline) (hquiet : pipeline.Undisturbed)
    (hprerequisites : pipeline.checkPrerequisites = .ok ()) (hrecorded : pipeline.recorded ≠ []) :
    run errorCodes pipeline = codeOfErrors errorCodes 1 pipeline.recorded := by
  simp only [DeletionPipeline.recorded, hprerequisites] at hrecorded
  have herror := hreports.hasError hrecorded
  simp only [run, DeletionPipeline.recorded, hprerequisites, hquiet.ctrlC, hquiet.panic,
    hquiet.indicator, herror, Bool.false_eq_true, if_false, if_true]
  cases herrors : pipeline.getErrorsAndConsume with
  | none => simp [herrors] at hrecorded
  | some errors => rfl

/-- Either way the run is the loop, from a code that is no success. -/
theorem exists_run_eq_codeOfErrors (hreports : Reports errorCodes pipeline)
    (hquiet : pipeline.Undisturbed) (hrecorded : pipeline.recorded ≠ []) :
    ∃ code, 1 ≤ code ∧
      run errorCodes pipeline = codeOfErrors errorCodes code pipeline.recorded := by
  cases hprerequisites : pipeline.checkPrerequisites with
  | error error => exact ⟨_, hreports.one_le error, run_of_unmet hprerequisites⟩
  | ok => exact ⟨1, Int.le_refl 1, run_of_recorded hreports hquiet hprerequisites hrecorded⟩

/-- An undisturbed run is honest exactly when its errors are all cancellations or all
genuine: of a mix it hides the genuine ones. -/
theorem run_honest_iff (hreports : Reports errorCodes pipeline) (hquiet : pipeline.Undisturbed) :
    Honest errorCodes pipeline.recorded (run errorCodes pipeline) ↔
      (∀ error ∈ pipeline.recorded, errorCodes.isCancelledError error = true) ∨
        ∀ error ∈ pipeline.recorded, errorCodes.isCancelledError error = false := by
  rw [honest_iff]
  constructor
  · intro hhonest
    by_cases hcancelled : ∃ error ∈ pipeline.recorded, errorCodes.isCancelledError error = true
    · have hrecorded : pipeline.recorded ≠ [] := by
        obtain ⟨error, herror, -⟩ := hcancelled
        exact List.ne_nil_of_mem herror
      obtain ⟨code, -, hrun⟩ := exists_run_eq_codeOfErrors hreports hquiet hrecorded
      left
      apply hhonest
      rw [hrun, codeOfErrors_of_cancelled code hcancelled]
    · right
      simpa using hcancelled
  · rintro (hcancelled | hgenuine) hsuccess
    · exact hcancelled
    · intro error herror
      have hrecorded := List.ne_nil_of_mem herror
      obtain ⟨code, hone, hrun⟩ := exists_run_eq_codeOfErrors hreports hquiet hrecorded
      have hle := le_codeOfErrors code hgenuine
      rw [← hrun, hsuccess] at hle
      exact absurd (Int.le_trans hone hle) (by decide)

/-! ## A failure followed by the shutdown it caused -/

/-- An error is its exit code here, and a cancellation has none. -/
def shutdownCodes : ErrorCodes (Option Nat) where
  isCancelledError := Option.isNone
  exitCodeFromError error := max 1 (error.getD 1)

def pipelineWith (errors : List (Option Nat)) : DeletionPipeline (Option Nat) where
  checkPrerequisites := .ok ()
  indicatorPanicked := false
  ctrlCReceived := false
  hasError := !errors.isEmpty
  hasPanic := false
  getErrorsAndConsume := some errors
  hasWarning := false

theorem reports_pipelineWith (errors : List (Option Nat)) :
    Reports shutdownCodes (pipelineWith errors) where
  one_le error := Int.le_max_left 1 _
  hasError herrors := by simpa [pipelineWith] using herrors

theorem undisturbed_pipelineWith (errors : List (Option Nat)) :
    (pipelineWith errors).Undisturbed := ⟨rfl, rfl, rfl⟩

/-- Two failures of which one is severe: the run keeps the severe code. -/
theorem run_honest_two_failures :
    Honest shutdownCodes [some 3, some 1] (run shutdownCodes (pipelineWith [some 3, some 1])) :=
  (run_honest_iff (reports_pipelineWith _) (undisturbed_pipelineWith _)).mpr
    (Or.inr (by decide))

/-- The same severe failure and the cancellation that the shutdown records after it: the run
returns success, and a batch counts the line as succeeded. -/
theorem run_hides_failure :
    Reports shutdownCodes (pipelineWith [some 3, none]) ∧
      (pipelineWith [some 3, none]).Undisturbed ∧
      run shutdownCodes (pipelineWith [some 3, none]) = exitCodeSuccess ∧
      ¬ Honest shutdownCodes (pipelineWith [some 3, none]).recorded
        (run shutdownCodes (pipelineWith [some 3, none])) := by
  refine ⟨reports_pipelineWith _, undisturbed_pipelineWith _, rfl, ?_⟩
  intro hhonest
  exact absurd (hhonest.cancelled_of_success rfl (some 3) List.mem_cons_self) (by decide)

end S7cmd.CleanBin
