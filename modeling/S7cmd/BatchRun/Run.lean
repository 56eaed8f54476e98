import S7cmd.BatchRun.ExitStatus
import S7cmd.BatchRun.StreamingRun

/-!
# A whole batch run

`run` checks the format of a script, streams it, or reads it whole first, and picks
an executor by the number of workers. What it may end with is a relation: every
schedule of the parties at work gives one end.
-/

namespace S7cmd.BatchRun

open Foundation

variable {Cmd : Type}

/-! ## The workers -/

/-- All logical processors for 0; their number may be unknown. -/
def resolveWorkers (availableParallelism : Option Nat) (parallel : Nat) : Nat :=
  if parallel = 0 then availableParallelism.getD 1 else parallel

/-- There is at least one worker, as the hardware has at least one processor. -/
theorem one_le_resolveWorkers {availableParallelism : Option Nat}
    (hprocessors : ∀ count, availableParallelism = some count → 1 ≤ count) (parallel : Nat) :
    1 ≤ resolveWorkers availableParallelism parallel := by
  unfold resolveWorkers
  split
  · cases hknown : availableParallelism with
    | none => exact Nat.le_refl 1
    | some count => exact hprocessors count hknown
  next hparallel => exact Nat.one_le_iff_ne_zero.mpr hparallel

/-! ## What a run may end with -/

/-- The arguments of `batch-run` that decide what it reads and how it runs it. -/
structure RunArgs extends BatchRunArgs where
  script : Text
  parallel : Nat
  streaming : Bool
  checkFormat : Bool

/-- What a run meets with. -/
structure RunWorld where
  stdin : Reader
  openFile : Text → Except Text Reader
  availableParallelism : Option Nat

def RunWorld.opened (world : RunWorld) (args : RunArgs) : Except Text Reader :=
  openScript world.stdin world.openFile args.script

def RunWorld.executorOptions (world : RunWorld) (args : RunArgs) : ExecutorOptions where
  workers := resolveWorkers world.availableParallelism args.parallel
  errorThreshold := errorThreshold args.toBatchRunArgs
  continueOnWarning := args.continueOnWarning

/-- The executor that `run_read_all` drives. -/
def readAllExecutor (opts : ExecutorOptions) : Executor :=
  if opts.workers = 1 then .sequential else .parallel

theorem readAllExecutor_streams (opts : ExecutorOptions) :
    (readAllExecutor opts).streams = false := by
  unfold readAllExecutor
  split <;> rfl

/-- An executor that does not stream is given its script at once. -/
theorem Executor.given_of_not_streams {executor : Executor} (hwhole : executor.streams = false)
    {opts : ExecutorOptions} {script : List (PreparedLine Cmd)}
    (state : (executor.machine opts script).State) :
    (executor.machine opts script).given state = script := by
  cases executor with
  | sequential => rfl
  | parallel => rfl
  | sequentialStreaming => cases hwhole
  | parallelStreaming => cases hwhole

/-- The end of a run. -/
structure RunEnd (Cmd : Type) where
  code : ExitCode
  /-- none if the run does not come to an executor -/
  summary : Option Summary := none
  dispatched : List (PreparedLine Cmd) := []
  interrupted : Bool := false
  /-- what joining the reader yields, if there is one -/
  joined : ReaderJoin := .ok (.ok ())

/-- The ends of the runs with these arguments, over all schedules. -/
inductive Runs (checks : LineChecks Cmd) (dispatch : Nat → DispatchResult) (world : RunWorld)
    (args : RunArgs) : RunEnd Cmd → Prop
  | checked (hcheck : args.checkFormat = true) :
      Runs checks dispatch world args
        { code := (runCheckFormat checks world.stdin world.openFile args.script).1 }
  | unread (hcheck : args.checkFormat = false) (hstreaming : args.streaming = false)
      (code : ExitCode)
      (hlines : runReadAllLines checks world.availableParallelism (world.opened args) =
        .error code) :
      Runs checks dispatch world args { code }
  | readAll (hcheck : args.checkFormat = false) (hstreaming : args.streaming = false)
      (opts : ExecutorOptions) (hopts : world.executorOptions args = opts)
      (lines : List (PreparedLine Cmd))
      (hlines : runReadAllLines checks world.availableParallelism (world.opened args) = .ok lines)
      (state : ((readAllExecutor opts).machine opts lines).State)
      (hreach : (((readAllExecutor opts).machine opts lines).system dispatch).Reachable state)
      (code : ExitCode) (summary : Summary)
      (hresult : ((readAllExecutor opts).machine opts lines).result state =
        some (code, summary)) :
      Runs checks dispatch world args
        { code
          summary := some summary
          dispatched := ((readAllExecutor opts).machine opts lines).inFlight state
          interrupted := ((readAllExecutor opts).machine opts lines).interrupt state }
  | unopened (hcheck : args.checkFormat = false) (hstreaming : args.streaming = true)
      (error : Text) (hopened : world.opened args = .error error) :
      Runs checks dispatch world args { code := 1 }
  | streamed (hcheck : args.checkFormat = false) (hstreaming : args.streaming = true)
      (opts : ExecutorOptions) (hopts : world.executorOptions args = opts)
      (reader : Reader) (hopened : world.opened args = .ok reader)
      (state : StreamingRun.State (streamingMachine Cmd opts))
      (hreach : (runStreaming checks opts dispatch (scriptSourceLabel args.script)
        reader).Reachable state)
      (code : ExitCode) (summary : Summary)
      (hexit : StreamingRun.exit state = some (code, summary)) (joined : ReaderJoin)
      (hjoined : state.reader = .ended joined) :
      Runs checks dispatch world args
        { code
          summary := some summary
          dispatched := (streamingMachine Cmd opts).inFlight state.executor
          interrupted := (streamingMachine Cmd opts).interrupt state.executor
          joined }

/-! ## The codes of a run -/

theorem finalCode_cases (code : ExitCode) (joined : ReaderJoin) :
    finalCode code joined = code ∨ finalCode code joined = 1 := by
  unfold finalCode
  split
  next => exact Or.inl rfl
  all_goals exact max_choice code 1

/-- A batch run ends with one of its lines' codes, or with 0 or 1. -/
theorem Runs.code_mem {checks : LineChecks Cmd} {results : Nat → DispatchResult}
    {runWorld : RunWorld} {runArgs : RunArgs} {runEnd : RunEnd Cmd}
    (hruns : Runs checks results runWorld runArgs runEnd)
    (hprocessors : ∀ count, runWorld.availableParallelism = some count → 1 ≤ count) :
    runEnd.code = 0 ∨ runEnd.code = 1 ∨
      runEnd.code ∈ lineCodes results runEnd.dispatched := by
  have hworkers : 1 ≤ (runWorld.executorOptions runArgs).workers :=
    one_le_resolveWorkers hprocessors runArgs.parallel
  have hworst : ∀ {order codes : List ExitCode}, order.Perm codes →
      worstOf order = 0 ∨ worstOf order ∈ codes := by
    intro order codes hperm
    rcases List.mem_cons.mp (worstOf_mem order) with hzero | hmem
    · exact Or.inl hzero
    · exact Or.inr (hperm.mem_iff.mp hmem)
  cases hruns with
  | checked hcheck =>
      change (runCheckFormat checks runWorld.stdin runWorld.openFile runArgs.script).1 = 0 ∨ _
      unfold runCheckFormat
      dsimp only
      split
      next => exact Or.inr (Or.inl rfl)
      next =>
        split
        next => exact Or.inr (Or.inl rfl)
        next => exact Or.inl rfl
  | unread hcheck hstreaming code hlines =>
      right
      left
      unfold runReadAllLines at hlines
      split at hlines
      next =>
        cases hlines
        rfl
      next =>
        split at hlines
        next =>
          cases hlines
          rfl
        next => cases hlines
  | readAll hcheck hstreaming opts hopts lines hlines state hreach code summary hresult =>
      subst hopts
      have hsound := (readAllExecutor (runWorld.executorOptions runArgs)).sound _ hworkers lines
      obtain ⟨order, hperm, rfl⟩ := hsound.exitCode_worstOf hreach hresult
      exact (hworst hperm).imp_right Or.inr
  | unopened hcheck hstreaming error hopened => exact Or.inr (Or.inl rfl)
  | streamed hcheck hstreaming opts hopts reader hopened state hreach code summary hexit joined
      hjoined =>
      subst hopts
      have hinv := inv_runStreaming hworkers hreach
      have hsound := (streamingExecutor (runWorld.executorOptions runArgs)).sound _ hworkers
        ([] : List (PreparedLine Cmd))
      obtain ⟨recorded, other, hresult, -, rfl⟩ := StreamingRun.exit_eq_some hexit
      obtain ⟨order, hperm, rfl⟩ := hsound.exitCode_worstOf hinv.reachable hresult
      rcases finalCode_cases (worstOf order) other with hcode | hone
      · change finalCode (worstOf order) other = 0 ∨ _
        rw [hcode]
        exact (hworst hperm).imp_right Or.inr
      · exact Or.inr (Or.inl hone)

/-! ## Runs that nothing disturbs -/

/-- All of the lines were dispatched, each was counted, and the exit code is as severe
as the worst of theirs. -/
structure RunEnd.Complete (dispatch : Nat → DispatchResult) (lines : List (PreparedLine Cmd))
    (runEnd : RunEnd Cmd) : Prop where
  dispatched : runEnd.dispatched = lines
  summary : runEnd.summary = some (tally (lineCodes dispatch lines))
  code : SameSeverity (lineCodes dispatch lines) (worstOf (lineCodes dispatch lines)) runEnd.code

/-- An executor without a threshold that is not interrupted dispatches all it is given. -/
theorem Machine.complete_of_result {executor : Executor} {opts : ExecutorOptions}
    (hworkers : 1 ≤ opts.workers) (hthreshold : opts.errorThreshold = none)
    {script : List (PreparedLine Cmd)} {dispatch : Nat → DispatchResult}
    {state : (executor.machine opts script).State}
    (hreach : ((executor.machine opts script).system dispatch).Reachable state)
    (hquiet : (executor.machine opts script).interrupt state = false) {code : ExitCode}
    {summary : Summary} (hresult : (executor.machine opts script).result state =
      some (code, summary)) :
    let machine := executor.machine opts script
    let codes := lineCodes dispatch (machine.given state)
    machine.inFlight state = machine.given state ∧ summary = tally codes ∧
      SameSeverity codes (worstOf codes) code := by
  intro machine codes
  have hsound := executor.sound opts hworkers script
  have hsame : machine.inFlight state = machine.given state := by
    rcases (hsound.settled_of_result hreach hresult).cause with hall | hinterrupt | htripped
    · exact hall
    · exact absurd (hinterrupt.symm.trans hquiet) (by decide)
    · obtain ⟨threshold, hsome, -⟩ := ExecutorOptions.reached_iff.mp htripped.1
      rw [hthreshold] at hsome
      cases hsome
  obtain ⟨recorded, hcounts, hsummary⟩ := hsound.summary_counts hreach hresult
  obtain ⟨order, hperm, hcode⟩ := hsound.exitCode_worstOf hreach hresult
  change recorded.Counts (lineCodes dispatch (machine.inFlight state)) at hcounts
  change order.Perm (lineCodes dispatch (machine.inFlight state)) at hperm
  rw [hsame] at hcounts hperm
  refine ⟨hsame, ?_, ?_⟩
  · have hnone : (machine.given state).length - (machine.inFlight state).length = 0 := by
      rw [hsame, Nat.sub_self]
    rw [hsummary, hcounts.unique (tally_counts codes)]
    change (tally codes).skip ((machine.given state).length - (machine.inFlight state).length) = _
    rw [hnone]
    rfl
  · rw [hcode]
    exact sameSeverity_worstOf (List.Perm.refl _) hperm

/-- A script that can be read whole gives `run_read_all` lines to execute. -/
theorem runReadAllLines_of_failure_eq_none (checks : LineChecks Cmd)
    (availableParallelism : Option Nat) {reader : Reader}
    (hfailure : (readScript reader).failure = none) :
    runReadAllLines checks availableParallelism (.ok reader) =
      .ok (preparedFrom checks 1 (readScript reader).lines) := by
  have hread := (readAll_eq_ok_iff checks).mpr ⟨hfailure, rfl⟩
  simp only [runReadAllLines, hread, parseAndValidate_eq]
  rfl

/-- A run that nothing disturbs completes a script it can read. -/
theorem Runs.complete {checks : LineChecks Cmd} {dispatch : Nat → DispatchResult}
    {world : RunWorld} {args : RunArgs} {runEnd : RunEnd Cmd}
    (hruns : Runs checks dispatch world args runEnd)
    (hprocessors : ∀ count, world.availableParallelism = some count → 1 ≤ count)
    (hcontinue : args.continueOnError = true) (hcheck : args.checkFormat = false)
    {reader : Reader} (hopened : world.opened args = .ok reader)
    (hfailure : (readScript reader).failure = none) (hquiet : runEnd.interrupted = false)
    (hjoined : ∀ payload, runEnd.joined ≠ .error payload) :
    runEnd.Complete dispatch (preparedFrom checks 1 (readScript reader).lines) := by
  have hworkers : 1 ≤ (world.executorOptions args).workers :=
    one_le_resolveWorkers hprocessors args.parallel
  have hthreshold : (world.executorOptions args).errorThreshold = none := by
    simp only [RunWorld.executorOptions, errorThreshold, hcontinue, if_true]
  cases hruns with
  | checked hother => exact absurd (hcheck.symm.trans hother) Bool.false_ne_true
  | unread hother hstreaming code hlines =>
      rw [hopened, runReadAllLines_of_failure_eq_none checks _ hfailure] at hlines
      cases hlines
  | readAll hother hstreaming opts hopts lines hlines state hreach code summary hresult =>
      subst hopts
      rw [hopened, runReadAllLines_of_failure_eq_none checks _ hfailure] at hlines
      cases hlines
      obtain ⟨hall, hsummary, hcode⟩ :=
        Machine.complete_of_result hworkers hthreshold hreach hquiet hresult
      rw [Executor.given_of_not_streams (readAllExecutor_streams _)] at hall hsummary hcode
      exact ⟨hall, congrArg some hsummary, hcode⟩
  | unopened hother hstreaming error herror =>
      rw [hopened] at herror
      cases herror
  | streamed hother hstreaming opts hopts opened hother' state hreach code summary hexit joined
      hended =>
      subst hopts
      cases hopened.symm.trans hother'
      have hinv := inv_runStreaming hworkers hreach
      obtain ⟨count, hle, hgiven, hat⟩ := hinv.read
      rw [hended] at hat
      obtain ⟨recorded, other, hresult, hreader, hcode⟩ := StreamingRun.exit_eq_some hexit
      cases hended.symm.trans hreader
      obtain ⟨hall, hsummary, hseverity⟩ :=
        Machine.complete_of_result hworkers hthreshold hinv.reachable hquiet hresult
      cases hat with
      | finished hcount hnone =>
          rw [hcount, List.take_length] at hgiven
          rw [hgiven] at hall hsummary hseverity
          exact ⟨hall, congrArg some hsummary, hcode ▸ hseverity⟩
      | failed error hcount herror =>
          rw [hfailure] at herror
          cases herror
      | interrupted hinterrupt => exact absurd (hinterrupt.symm.trans hquiet) (by decide)
      | unwound payload => exact absurd rfl (hjoined payload)

theorem mem_preparedFrom_of_take {checks : LineChecks Cmd} {start count : Nat} {lines : List Text}
    {line : PreparedLine Cmd} (hline : line ∈ preparedFrom checks start (lines.take count)) :
    line ∈ preparedFrom checks start lines := by
  have happend := @preparedFrom_append _ checks start (lines.take count) (lines.drop count)
  rw [List.take_append_drop] at happend
  rw [happend]
  exact List.mem_append_left _ hline

/-- A script of one `ls`. -/
def oneLine : Reader := ⟨[⟨[108, 115, 10], by decide⟩], none⟩

theorem readScript_oneLine : readScript oneLine = ⟨["ls".toList], none⟩ := by decide +kernel

theorem preparedFrom_oneLine :
    preparedFrom lsOnly 1 (readScript oneLine).lines = [lsLine] := by
  rw [readScript_oneLine]
  decide +kernel

/-- A world that has the script on its standard input, and two processors. -/
def oneLineWorld : RunWorld := ⟨oneLine, fun _ => .error "no such file".toList, some 2⟩

/-- `batch-run --continue-on-error -`, with these workers, streaming or not. -/
def continueArgs (parallel : Nat) (streaming : Bool) : RunArgs :=
  ⟨⟨true, false, none⟩, "-".toList, parallel, streaming, false⟩

def endedWell : ReaderTask → Bool
  | .ended (.ok (.ok ())) => true
  | _ => false

theorem eq_ended_of_endedWell {reader : ReaderTask} (hended : endedWell reader = true) :
    reader = .ended (.ok (.ok ())) := by
  unfold endedWell at hended
  split at hended
  next => rfl
  next => cases hended

theorem oneLine_streamed : ∃ runEnd,
    Runs lsOnly (fun _ => .code 3) oneLineWorld (continueArgs 0 true) runEnd ∧
      runEnd.interrupted = false ∧ runEnd.joined = .ok (.ok ()) := by
  obtain ⟨state, hreach, htest⟩ := System.exists_reachable
    (runStreaming lsOnly ⟨2, none, false⟩ (fun _ => .code 3) "stdin".toList oneLine)
    [.executor .exec, .line, .executor .exec, .executor .exec, .line, .drop,
      .executor (.complete 0), .executor .exec, .executor .exec, .executor .exec,
      .executor (.finish 0), .executor (.join 0), .executor .exec]
    (fun state => decide (StreamingRun.exit state = some (3, ⟨0, 0, 1, 0⟩)) &&
      (!(streamingMachine Text ⟨2, none, false⟩).interrupt state.executor &&
        endedWell state.reader))
    (by decide +kernel)
  simp only [Bool.and_eq_true, decide_eq_true_eq, Bool.not_eq_true'] at htest
  obtain ⟨hexit, hquiet, hended⟩ := htest
  exact ⟨_, .streamed rfl rfl ⟨2, none, false⟩ rfl oneLine rfl state hreach 3 _ hexit _
    (eq_ended_of_endedWell hended), hquiet, rfl⟩

/-- After `--check-format` has passed a script, no run of it in any mode dispatches an
invalid line or fails to read a line, however it is disturbed; and unless it only checks
the format again, it comes to an executor. -/
theorem checked_run_dispatches_commands (checks : LineChecks Cmd)
    (dispatch : Nat → DispatchResult) (checkedWorld world : RunWorld) (checkArgs args : RunArgs)
    (checked reader : Reader) (runEnd : RunEnd Cmd)
    (hopenChecked : checkedWorld.opened checkArgs = .ok checked)
    (hopened : world.opened args = .ok reader) (hsame : checked.SameContent reader)
    (hprocessors : ∀ count, world.availableParallelism = some count → 1 ≤ count)
    (hcheck : (runCheckFormat checks checkedWorld.stdin checkedWorld.openFile
      checkArgs.script).1 = 0)
    (hruns : Runs checks dispatch world args runEnd) :
    (∀ line ∈ runEnd.dispatched, ¬ line.Invalid) ∧
      (∀ message, runEnd.joined ≠ .ok (.error message)) ∧
      (args.checkFormat = false → runEnd.summary.isSome = true) := by
  have hpassed := (runCheckFormat_eq_zero_iff checks hopenChecked).mp hcheck
  rw [checkFormatLines_eq_none_iff, readScript_congr hsame] at hpassed
  obtain ⟨hfailure, hvalid⟩ := hpassed
  have hworkers : 1 ≤ (world.executorOptions args).workers :=
    one_le_resolveWorkers hprocessors args.parallel
  cases hruns with
  | checked hother =>
      exact ⟨fun line hline => (List.not_mem_nil hline).elim, by simp, by simp [hother]⟩
  | unread hother hstreaming code hlines =>
      rw [hopened, runReadAllLines_of_failure_eq_none checks _ hfailure] at hlines
      cases hlines
  | readAll hother hstreaming opts hopts lines hlines state hreach code summary hresult =>
      subst hopts
      rw [hopened, runReadAllLines_of_failure_eq_none checks _ hfailure] at hlines
      cases hlines
      refine ⟨fun line hline => ?_, by simp, fun _ => rfl⟩
      have hinOrder := ((readAllExecutor _).sound _ hworkers _).inFlight_inOrder hreach
      rw [Executor.given_of_not_streams (readAllExecutor_streams _)] at hinOrder
      exact hvalid line (hinOrder.subset hline)
  | unopened hother hstreaming error herror =>
      rw [hopened] at herror
      cases herror
  | streamed hother hstreaming opts hopts opened hother' state hreach code summary hexit joined
      hended =>
      subst hopts
      cases hopened.symm.trans hother'
      have hinv := inv_runStreaming hworkers hreach
      obtain ⟨count, hle, hgiven, hat⟩ := hinv.read
      rw [hended] at hat
      refine ⟨fun line hline => ?_, ?_, fun _ => rfl⟩
      · have hinOrder := ((streamingExecutor _).sound _ hworkers _).inFlight_inOrder hinv.reachable
        have hmem := hinOrder.subset hline
        rw [hgiven] at hmem
        exact hvalid line (mem_preparedFrom_of_take hmem)
      · intro message heq
        cases hat with
        | failed error hcount herror =>
            rw [hfailure] at herror
            cases herror
        | finished hcount hnone => simp at heq
        | interrupted hinterrupt => simp at heq
        | unwound payload => simp at heq

theorem checked_run_dispatches_commands_one_line : ∃ runEnd,
    Runs lsOnly (fun _ => .code 3) oneLineWorld (continueArgs 0 true) runEnd ∧
      (∀ line ∈ runEnd.dispatched, ¬ line.Invalid) ∧ runEnd.summary.isSome = true := by
  obtain ⟨runEnd, hruns, -⟩ := oneLine_streamed
  have hcheck : (runCheckFormat lsOnly oneLine oneLineWorld.openFile "-".toList).1 = 0 := by
    have hopen : openScript oneLine oneLineWorld.openFile "-".toList = .ok oneLine := rfl
    rw [runCheckFormat_eq_zero_iff lsOnly hopen, checkFormatLines_eq_none_iff,
      preparedFrom_oneLine]
    refine ⟨congrArg Script.failure readScript_oneLine, ?_⟩
    simp [PreparedLine.Invalid, lsLine]
  obtain ⟨hvalid, -, hexecutor⟩ := checked_run_dispatches_commands lsOnly (fun _ => .code 3)
    oneLineWorld oneLineWorld (continueArgs 1 false) (continueArgs 0 true) oneLine oneLine runEnd
    rfl rfl ⟨rfl, rfl⟩ (by simp [oneLineWorld]) hcheck hruns
  exact ⟨runEnd, hruns, hvalid, hexecutor rfl⟩

end S7cmd.BatchRun
