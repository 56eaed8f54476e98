import S7cmd.BatchRun.Parallel
import S7cmd.BatchRun.ParallelStreaming
import S7cmd.BatchRun.SequentialStreaming

/-!
# What a run accounts for

In every reachable state the lines in flight are a prefix of the lines given,
in order, with no more than `workers` of them unfinished. On return each counter
of the summary counts its codes, the lines never dispatched are skipped, and
there is a cause for each of them. `batch-run` picks an executor by whether it
streams and whether it has more than one worker; what holds of all four is stated
once, over this choice.
-/

namespace S7cmd.BatchRun

open Foundation

variable {Cmd : Type}

/-! ## Laws of every sound machine -/

namespace Machine

variable {machine : Machine Cmd} {opts : ExecutorOptions} {dispatch : Nat → DispatchResult}
  {state : machine.State} {code : ExitCode} {summary : Summary}

theorem Sound.inFlight_inOrder (hsound : machine.Sound opts)
    (hreach : (machine.system dispatch).Reachable state) :
    machine.inFlight state <+: machine.given state := by
  have hinOrder := (hsound.valid hreach).launched_inOrder
  rwa [ledger, Books.ledger_launched] at hinOrder

theorem Sound.unfinished_le (hsound : machine.Sound opts)
    (hreach : (machine.system dispatch).Reachable state) :
    machine.unfinished state ≤ opts.workers := by
  have hbound := (hsound.valid hreach).aloft_le
  rwa [ledger, Books.ledger_aloft] at hbound

theorem Sound.settled_of_result (hsound : machine.Sound opts)
    (hreach : (machine.system dispatch).Reachable state)
    (hresult : machine.result state = some (code, summary)) :
    machine.Settled opts dispatch state :=
  hsound.settled dispatch state hreach (result_eq_some hresult).1

/-- The counters of the summary count the codes of the dispatched lines. -/
theorem Sound.summary_counts (hsound : machine.Sound opts)
    (hreach : (machine.system dispatch).Reachable state)
    (hresult : machine.result state = some (code, summary)) :
    ∃ recorded : Summary, recorded.Counts (lineCodes dispatch (machine.inFlight state)) ∧
      summary =
        recorded.skip ((machine.given state).length - (machine.inFlight state).length) := by
  obtain ⟨order, hperm, hsummary, -⟩ := (hsound.settled_of_result hreach hresult).tallied
  refine ⟨tally order, ?_, (result_eq_some hresult).2.2.symm.trans hsummary⟩
  rw [tally_perm hperm]
  exact tally_counts _

/-- The exit code is the fold of the codes of the dispatched lines, in some
order. -/
theorem Sound.exitCode_worstOf (hsound : machine.Sound opts)
    (hreach : (machine.system dispatch).Reachable state)
    (hresult : machine.result state = some (code, summary)) :
    ∃ order, order.Perm (lineCodes dispatch (machine.inFlight state)) ∧ code = worstOf order := by
  obtain ⟨order, hperm, -, hworst⟩ := (hsound.settled_of_result hreach hresult).tallied
  exact ⟨order, hperm, (result_eq_some hresult).2.1.symm.trans hworst⟩

end Machine

/-! ## The four executors -/

inductive Executor where
  | sequential
  | parallel
  | sequentialStreaming
  | parallelStreaming
  deriving DecidableEq, Repr

namespace Executor

/-- The executor takes its lines from a channel. -/
def streams : Executor → Bool
  | .sequential => false
  | .parallel => false
  | .sequentialStreaming => true
  | .parallelStreaming => true

/-- The executor with its options and, unless it streams, its script. -/
def machine (opts : ExecutorOptions) (script : List (PreparedLine Cmd)) : Executor → Machine Cmd
  | .sequential => runSequential opts script
  | .parallel => runParallel opts script
  | .sequentialStreaming => runSequentialStreaming Cmd opts
  | .parallelStreaming => runParallelStreaming Cmd opts

theorem lawful (executor : Executor) (opts : ExecutorOptions)
    (script : List (PreparedLine Cmd)) : (executor.machine opts script).Lawful := by
  cases executor with
  | sequential => exact runSequential_lawful opts script
  | parallel => exact runParallel_lawful opts script
  | sequentialStreaming => exact runSequentialStreaming_lawful opts
  | parallelStreaming => exact runParallelStreaming_lawful opts

theorem sound (executor : Executor) (opts : ExecutorOptions) (hworkers : 1 ≤ opts.workers)
    (script : List (PreparedLine Cmd)) : (executor.machine opts script).Sound opts := by
  cases executor with
  | sequential => exact runSequential_sound opts script hworkers
  | parallel => exact runParallel_sound opts script
  | sequentialStreaming => exact runSequentialStreaming_sound opts hworkers
  | parallelStreaming => exact runParallelStreaming_sound opts

end Executor

/-! ## Accounting of a batch run -/

/-- A script of command lines. -/
def sampleScript (count : Nat) : List (PreparedLine Unit) :=
  (List.range count).map fun index => ⟨index + 1, "ls".toList, .cmd ()⟩

/-- An executor of a script of command lines. -/
def sampleMachine (executor : Executor) (workers : Nat) (threshold : Option Nat) (count : Nat) :
    Machine Unit :=
  executor.machine ⟨workers, threshold, false⟩ (sampleScript count)

/-- The steps of two workers that run two lines; the tasks finish and are joined
in the order given. -/
def twoLineRun (earlier later : Nat) : List (Action Unit) :=
  [.exec, .exec, .exec, .exec, .exec, .complete earlier, .finish earlier, .complete later,
    .finish later, .join earlier, .join later, .exec]

/-- The reachable states of an executor keep the lines in order and within the
worker bound, and on return every line given is in exactly one counter. -/
theorem run_accounting (executor : Executor) (opts : ExecutorOptions)
    (hworkers : 1 ≤ opts.workers) (script : List (PreparedLine Cmd))
    (dispatch : Nat → DispatchResult) (state : (executor.machine opts script).State)
    (hreach : ((executor.machine opts script).system dispatch).Reachable state) :
    let machine := executor.machine opts script
    machine.inFlight state <+: machine.given state ∧
      machine.unfinished state ≤ opts.workers ∧
      ∀ code summary, machine.result state = some (code, summary) →
        summary.ok + summary.failed + summary.warning + summary.skipped =
            (machine.given state).length ∧
          ∃ recorded : Summary,
            recorded.Counts (lineCodes dispatch (machine.inFlight state)) ∧
              summary = recorded.skip
                ((machine.given state).length - (machine.inFlight state).length) := by
  intro machine
  have hsound : machine.Sound opts := executor.sound opts hworkers script
  have hinOrder := hsound.inFlight_inOrder hreach
  refine ⟨hinOrder, hsound.unfinished_le hreach, ?_⟩
  intro code summary hresult
  obtain ⟨recorded, hcounts, hsummary⟩ := hsound.summary_counts hreach hresult
  refine ⟨?_, recorded, hcounts, hsummary⟩
  have htotal := hcounts.total
  rw [lineCodes_length] at htotal
  have hlength := hinOrder.length_le
  rw [hsummary, Summary.skip]
  dsimp only
  omega

/-- Two workers, two lines: the second line fails, finishes first and is joined
first. -/
theorem run_accounting_two_workers :
    ∃ state, (sampleMachine .parallel 2 (some 1) 2).result state = some (1, ⟨1, 1, 0, 0⟩) ∧
      (sampleMachine .parallel 2 (some 1) 2).inFlight state <+: sampleScript 2 ∧
      (sampleMachine .parallel 2 (some 1) 2).unfinished state ≤ 2 := by
  obtain ⟨state, hreach, -, -, hresult⟩ :=
    (sampleMachine .parallel 2 (some 1) 2).exists_returned (fun index => .code index)
      (twoLineRun 1 0) (sampleScript 2) (sampleScript 2) (1, ⟨1, 1, 0, 0⟩) (by decide +kernel)
  have haccount := run_accounting .parallel ⟨2, some 1, false⟩ (by decide) _ _ state hreach
  exact ⟨state, hresult, haccount.1, haccount.2.1⟩

/-! ## No line is skipped without cause -/

/-- A run that is never interrupted leaves out lines only because enough of the
dispatched lines came back with stop-worthy codes. -/
theorem skipped_has_cause (executor : Executor) (opts : ExecutorOptions)
    (hworkers : 1 ≤ opts.workers) (script : List (PreparedLine Cmd))
    (dispatch : Nat → DispatchResult) (state : (executor.machine opts script).State)
    (hreach : ((executor.machine opts script).system dispatch).Reachable state)
    (hreturned : (executor.machine opts script).returned state = true)
    (hinterrupt : (executor.machine opts script).interrupt state = false) :
    let machine := executor.machine opts script
    let codes := lineCodes dispatch (machine.inFlight state)
    machine.unfinished state = 0 ∧
      (machine.inFlight state ≠ machine.given state → ∃ threshold,
        opts.errorThreshold = some threshold ∧
          threshold ≤ codes.countP fun code =>
            code ≠ 0 ∧ code ≠ 130 ∧ (opts.continueOnWarning = true → code ≠ 3 ∧ code ≠ 4)) ∧
      (opts.errorThreshold = none → machine.inFlight state = machine.given state) := by
  intro machine codes
  have hsettled := (executor.sound opts hworkers script).settled dispatch state hreach hreturned
  have hcause : machine.inFlight state = machine.given state ∨ opts.Tripped codes := by
    refine hsettled.cause.imp id fun hrest => hrest.resolve_left ?_
    rw [hinterrupt]
    exact Bool.false_ne_true
  refine ⟨hsettled.finished, ?_, ?_⟩
  · intro hmissing
    have htripped := hcause.resolve_left hmissing
    obtain ⟨threshold, hthreshold, hle⟩ := ExecutorOptions.reached_iff.mp htripped.1
    refine ⟨threshold, hthreshold, hle.trans (Nat.le_of_eq ?_)⟩
    exact List.countP_congr fun code _ => by rw [isStopWorthy_iff, decide_eq_true_eq]
  · intro hnone
    apply hcause.resolve_right
    intro htripped
    obtain ⟨threshold, hthreshold, -⟩ := ExecutorOptions.reached_iff.mp htripped.1
    rw [hnone] at hthreshold
    cases hthreshold

/-- One failure among two workers stops the third line from being spawned. -/
theorem skipped_has_cause_two_workers :
    ∃ state, (sampleMachine .parallel 2 (some 1) 3).result state = some (1, ⟨1, 1, 0, 1⟩) ∧
      (sampleMachine .parallel 2 (some 1) 3).unfinished state = 0 := by
  obtain ⟨state, hreach, hstate⟩ := System.exists_reachable
    ((sampleMachine .parallel 2 (some 1) 3).system fun index => .code index)
    [.exec, .exec, .exec, .exec, .complete 1, .exec, .complete 0, .finish 0, .finish 1, .join 1,
      .join 0, .exec]
    (fun state => (sampleMachine .parallel 2 (some 1) 3).returned state &&
      !(sampleMachine .parallel 2 (some 1) 3).interrupt state &&
      decide ((sampleMachine .parallel 2 (some 1) 3).result state = some (1, ⟨1, 1, 0, 1⟩)))
    (by decide +kernel)
  simp only [Bool.and_eq_true, Bool.not_eq_true', decide_eq_true_eq] at hstate
  obtain ⟨⟨hreturned, hinterrupt⟩, hresult⟩ := hstate
  have hcause := skipped_has_cause .parallel ⟨2, some 1, false⟩ (by decide) _ _ state hreach
    hreturned hinterrupt
  exact ⟨state, hresult, hcause.1⟩

end S7cmd.BatchRun
