import S7cmd.BatchRun.Accounting

/-!
# The exit code of a run

The exit code is folded over the codes of the dispatched lines in the order in
which they are recorded, which is any order once lines run in parallel. Lines
that were never dispatched have no code and do not take part.
-/

namespace S7cmd.BatchRun

open Foundation

variable {Cmd : Type}

/-! ## The order in which codes are recorded -/

/-- Recording the codes in any other order gives the same exit code. -/
def OrderIndependent (codes : List ExitCode) : Prop :=
  ∀ other : List ExitCode, other.Perm codes → worstOf other = worstOf codes

/-- Behind a first code of rank 1, codes of rank at most 1 change nothing. -/
theorem worstOf_cons_of_rank_le {code : ExitCode} {rest : List ExitCode}
    (hcode : severityRank code = 1) (hrest : ∀ other ∈ rest, severityRank other ≤ 1) :
    worstOf (code :: rest) = code := by
  induction rest using List.reverseRecOn with
  | nil => simp [worstOf, worseOf, hcode, severityRank_zero]
  | append_singleton rest other ih =>
      have hother := hrest other (by simp)
      rw [← List.cons_append, worstOf_append, ih fun code hmem => hrest code (by simp [hmem])]
      unfold worseOf
      rw [hcode, if_neg (by omega)]

/-- The exit code depends on the order exactly when rank 1 is the highest rank
recorded and two different codes of that rank were recorded. -/
theorem orderIndependent_iff (codes : List ExitCode) :
    OrderIndependent codes ↔ severityRank (worstOf codes) ≠ 1 ∨ RankOneAgree codes := by
  constructor
  · intro hindependent
    by_cases hone : severityRank (worstOf codes) = 1
    · refine Or.inr fun first hfirst second hsecond hfirstRank hsecondRank => ?_
      have hle : ∀ code ∈ codes, severityRank code ≤ 1 := fun code hcode =>
        hone ▸ severityRank_le_worstOf hcode
      -- moving a code of rank 1 to the front makes it the exit code
      have hfront : ∀ code ∈ codes, severityRank code = 1 → worstOf codes = code := by
        intro code hcode hrank
        have hperm := List.perm_cons_erase hcode
        rw [← hindependent _ hperm.symm]
        exact worstOf_cons_of_rank_le hrank fun other hother =>
          hle other (List.mem_of_mem_erase hother)
      exact (hfront first hfirst hfirstRank).symm.trans (hfront second hsecond hsecondRank)
    · exact Or.inl hone
  · intro hties other hperm
    exact (worstOf_perm hperm.symm hties).symm

/-- How the exit codes of two runs that recorded the same codes compare. -/
structure SameSeverity (codes : List ExitCode) (first second : ExitCode) : Prop where
  severityRank_eq : severityRank first = severityRank second
  mem : codes ≠ [] → first ∈ codes
  severityRank_le : ∀ code ∈ codes, severityRank code ≤ severityRank first
  eq : severityRank first ≠ 1 ∨ RankOneAgree codes → first = second

theorem sameSeverity_worstOf {codes first second : List ExitCode} (hfirst : first.Perm codes)
    (hsecond : second.Perm codes) : SameSeverity codes (worstOf first) (worstOf second) where
  severityRank_eq := severityRank_worstOf_perm (hfirst.trans hsecond.symm)
  mem := by
    intro hcodes
    refine hfirst.mem_iff.mp (worstOf_mem_of_ne_nil fun hnil => hcodes ?_)
    rw [hnil] at hfirst
    exact hfirst.nil_eq.symm
  severityRank_le := fun code hcode => severityRank_le_worstOf (hfirst.mem_iff.mpr hcode)
  eq := by
    intro hties
    refine worstOf_perm (hfirst.trans hsecond.symm) (hties.imp id fun hagree => ?_)
    intro code hcode other hother
    exact hagree code (hfirst.mem_iff.mp hcode) other (hfirst.mem_iff.mp hother)

/-- In whatever order the codes of a run are recorded, the exit code is one of
them and of maximal severity, and it is the same code unless the highest rank is
shared by different codes. So are the exit codes of two runs, under any executors
and schedules, whose lines came back with the same codes. -/
theorem exitCode_recording_order :
    (∀ codes : List ExitCode,
      (∀ other : List ExitCode, other.Perm codes →
        SameSeverity codes (worstOf codes) (worstOf other)) ∧
      (OrderIndependent codes ↔ severityRank (worstOf codes) ≠ 1 ∨ RankOneAgree codes)) ∧
    ∀ (Cmd : Type) (first second : Executor) (firstOpts secondOpts : ExecutorOptions)
      (firstScript secondScript : List (PreparedLine Cmd))
      (firstDispatch secondDispatch : Nat → DispatchResult)
      (firstState : (first.machine firstOpts firstScript).State)
      (secondState : (second.machine secondOpts secondScript).State),
      1 ≤ firstOpts.workers → 1 ≤ secondOpts.workers →
      ((first.machine firstOpts firstScript).system firstDispatch).Reachable firstState →
      ((second.machine secondOpts secondScript).system secondDispatch).Reachable secondState →
      (lineCodes firstDispatch ((first.machine firstOpts firstScript).inFlight firstState)).Perm
        (lineCodes secondDispatch
          ((second.machine secondOpts secondScript).inFlight secondState)) →
      ∀ firstCode secondCode firstSummary secondSummary,
        (first.machine firstOpts firstScript).result firstState =
          some (firstCode, firstSummary) →
        (second.machine secondOpts secondScript).result secondState =
          some (secondCode, secondSummary) →
        SameSeverity (lineCodes firstDispatch
          ((first.machine firstOpts firstScript).inFlight firstState)) firstCode secondCode := by
  refine ⟨fun codes => ⟨fun other hperm => ?_, orderIndependent_iff codes⟩, ?_⟩
  · exact sameSeverity_worstOf (List.Perm.refl _) hperm
  · intro Cmd first second firstOpts secondOpts firstScript secondScript firstDispatch
      secondDispatch firstState secondState hfirstWorkers hsecondWorkers hfirst hsecond hcodes
      firstCode secondCode firstSummary secondSummary hfirstResult hsecondResult
    have hfirstSound := first.sound firstOpts hfirstWorkers firstScript
    have hsecondSound := second.sound secondOpts hsecondWorkers secondScript
    obtain ⟨order, hperm, rfl⟩ := hfirstSound.exitCode_worstOf hfirst hfirstResult
    obtain ⟨other, hother, rfl⟩ := hsecondSound.exitCode_worstOf hsecond hsecondResult
    exact sameSeverity_worstOf hperm (hother.trans hcodes.symm)

/-- A success and a warning, run in sequence and by two workers that finish in
the other order, exit with the warning. -/
theorem exitCode_recording_order_success_warning :
    ∃ first second, (sampleMachine .sequential 1 none 2).result first = some (3, ⟨1, 0, 1, 0⟩) ∧
      (sampleMachine .parallel 2 none 2).result second = some (3, ⟨1, 0, 1, 0⟩) ∧
      SameSeverity [0, 3] 3 3 := by
  let dispatch : Nat → DispatchResult := fun index => .code (3 * index)
  obtain ⟨first, hfirst, -, hfirstLines, hfirstResult⟩ :=
    (sampleMachine .sequential 1 none 2).exists_returned dispatch
      [.exec, .complete 0, .exec, .complete 1, .exec] (sampleScript 2) (sampleScript 2)
      (3, ⟨1, 0, 1, 0⟩) (by decide +kernel)
  obtain ⟨second, hsecond, -, hsecondLines, hsecondResult⟩ :=
    (sampleMachine .parallel 2 none 2).exists_returned dispatch (twoLineRun 1 0) (sampleScript 2)
      (sampleScript 2) (3, ⟨1, 0, 1, 0⟩) (by decide +kernel)
  have hcodes : lineCodes dispatch (sampleScript 2) = [0, 3] := by decide +kernel
  have hsame := exitCode_recording_order.2 Unit .sequential .parallel ⟨1, none, false⟩
    ⟨2, none, false⟩ (sampleScript 2) (sampleScript 2) dispatch dispatch first second (by decide)
    (by decide) hfirst hsecond
    (List.Perm.of_eq (congrArg (lineCodes dispatch) (hfirstLines.trans hsecondLines.symm)))
    3 3 _ _ hfirstResult hsecondResult
  have hinFlight := congrArg (lineCodes dispatch) hfirstLines
  exact ⟨first, second, hfirstResult, hsecondResult, (hinFlight.trans hcodes) ▸ hsame⟩

/-- The codes 101 and 130 share a rank: the exit code is the one recorded first,
and the same two lines exit with either, by the order in which they are joined. -/
theorem exitCode_depends_on_join_order :
    (¬ ∀ codes other : List ExitCode, other.Perm codes → worstOf other = worstOf codes) ∧
      ∃ first second,
        ((sampleMachine .parallel 2 none 2).system
          fun index => .code (if index = 0 then 101 else 130)).Reachable first ∧
        ((sampleMachine .parallel 2 none 2).system
          fun index => .code (if index = 0 then 101 else 130)).Reachable second ∧
        (sampleMachine .parallel 2 none 2).inFlight first = sampleScript 2 ∧
        (sampleMachine .parallel 2 none 2).inFlight second = sampleScript 2 ∧
        (sampleMachine .parallel 2 none 2).result first = some (101, ⟨0, 1, 0, 1⟩) ∧
        (sampleMachine .parallel 2 none 2).result second = some (130, ⟨0, 1, 0, 1⟩) := by
  constructor
  · intro hindependent
    have hsame := hindependent [101, 130] [130, 101] (List.Perm.swap _ _ _)
    exact absurd hsame (by decide)
  · let dispatch : Nat → DispatchResult := fun index => .code (if index = 0 then 101 else 130)
    obtain ⟨first, hfirst, -, hfirstLines, hfirstResult⟩ :=
      (sampleMachine .parallel 2 none 2).exists_returned dispatch (twoLineRun 0 1)
        (sampleScript 2) (sampleScript 2) (101, ⟨0, 1, 0, 1⟩) (by decide +kernel)
    obtain ⟨second, hsecond, -, hsecondLines, hsecondResult⟩ :=
      (sampleMachine .parallel 2 none 2).exists_returned dispatch (twoLineRun 1 0)
        (sampleScript 2) (sampleScript 2) (130, ⟨0, 1, 0, 1⟩) (by decide +kernel)
    exact ⟨first, second, hfirst, hsecond, hfirstLines, hsecondLines, hfirstResult,
      hsecondResult⟩

/-! ## Exit code zero -/

/-- A run that returns zero dispatched no line that failed, warned or was
cancelled, and leaves out lines only if it was interrupted. -/
theorem exit_zero (executor : Executor) (opts : ExecutorOptions)
    (hworkers : 1 ≤ opts.workers) (script : List (PreparedLine Cmd))
    (dispatch : Nat → DispatchResult) (state : (executor.machine opts script).State)
    (hreach : ((executor.machine opts script).system dispatch).Reachable state)
    (summary : Summary)
    (hresult : (executor.machine opts script).result state = some (0, summary)) :
    let machine := executor.machine opts script
    (∀ code ∈ lineCodes dispatch (machine.inFlight state), code = 0) ∧
      summary.failed = 0 ∧ summary.warning = 0 ∧
      summary.skipped = (machine.given state).length - (machine.inFlight state).length ∧
      (machine.inFlight state = machine.given state ∧ summary.skipped = 0 ∨
        machine.interrupt state = true) := by
  intro machine
  have hsound : machine.Sound opts := executor.sound opts hworkers script
  obtain ⟨order, hperm, hworst⟩ := hsound.exitCode_worstOf hreach hresult
  have hzero : ∀ code ∈ lineCodes dispatch (machine.inFlight state), code = 0 := by
    intro code hcode
    exact (worstOf_eq_zero_iff order).mp hworst.symm code (hperm.mem_iff.mpr hcode)
  have hcount (test : ExitCode → Bool) (htest : test 0 = false) :
      (lineCodes dispatch (machine.inFlight state)).countP test = 0 := by
    rw [List.countP_eq_zero]
    intro code hcode
    rw [hzero code hcode, htest]
    exact Bool.false_ne_true
  obtain ⟨recorded, hcounts, hsummary⟩ := hsound.summary_counts hreach hresult
  have hskipped : summary.skipped =
      (machine.given state).length - (machine.inFlight state).length := by
    rw [hsummary, Summary.skip]
    dsimp only
    rw [hcounts.skipped, hcount _ rfl, Nat.zero_add]
  refine ⟨hzero, ?_, ?_, hskipped, ?_⟩
  · rw [hsummary]
    exact hcounts.failed.trans (hcount _ rfl)
  · rw [hsummary]
    exact hcounts.warning.trans (hcount _ rfl)
  · rcases (hsound.settled_of_result hreach hresult).cause with hall | hinterrupt | htripped
    · rw [hall, Nat.sub_self] at hskipped
      exact Or.inl ⟨hall, hskipped⟩
    · exact Or.inr hinterrupt
    · -- a threshold stop has a stop-worthy code, and zero is not one
      have hnone := hcount (fun code => isStopWorthy code opts.continueOnWarning) rfl
      exact absurd (hnone ▸ htripped.2) (Nat.lt_irrefl 0)

/-- Two workers run two lines to success. -/
theorem exit_zero_two_workers :
    ∃ state, (sampleMachine .parallel 2 (some 1) 2).result state = some (0, ⟨2, 0, 0, 0⟩) ∧
      ∀ code ∈ lineCodes (fun _ => .code 0)
        ((sampleMachine .parallel 2 (some 1) 2).inFlight state), code = 0 := by
  obtain ⟨state, hreach, -, -, hresult⟩ :=
    (sampleMachine .parallel 2 (some 1) 2).exists_returned (fun _ => .code 0) (twoLineRun 1 0)
      (sampleScript 2) (sampleScript 2) (0, ⟨2, 0, 0, 0⟩) (by decide +kernel)
  have hzero := exit_zero .parallel ⟨2, some 1, false⟩ (by decide) _ _ state hreach _ hresult
  exact ⟨state, hresult, hzero.1⟩

/-- An interrupt before the first line leaves the only line out, and the run
returns zero. -/
theorem interrupted_run_returns_zero :
    ¬ ∀ (executor : Executor) (opts : ExecutorOptions) (script : List (PreparedLine Unit))
        (dispatch : Nat → DispatchResult) (state : (executor.machine opts script).State)
        (summary : Summary), 1 ≤ opts.workers →
      ((executor.machine opts script).system dispatch).Reachable state →
      (executor.machine opts script).result state = some (0, summary) →
      (executor.machine opts script).inFlight state =
          (executor.machine opts script).given state ∧
        summary.failed = 0 ∧ summary.warning = 0 ∧ summary.skipped = 0 := by
  intro hclaim
  obtain ⟨state, hreach, -, -, hresult⟩ :=
    (sampleMachine .sequential 1 (some 1) 1).exists_returned (fun _ => .code 0) [.sigint, .exec]
      (sampleScript 1) [] (0, ⟨0, 0, 0, 1⟩) (by decide +kernel)
  have hall := hclaim .sequential ⟨1, some 1, false⟩ _ _ state _ (by decide) hreach hresult
  exact Nat.one_ne_zero hall.2.2.2

end S7cmd.BatchRun
