import S7cmd.BatchRun.Accounting
import S7cmd.BatchRun.ReaderAgreement

/-!
# The exit code of a streaming run

`run_streaming` joins its reader after the executor has returned, and combines the
executor's code with a failure of the reader by `max`. The executor ranks codes by
severity, under which a failure to read, code 1, is the worst of all.
-/

namespace S7cmd.BatchRun

open Foundation

variable {Cmd : Type} (checks : LineChecks Cmd)

/-! ## Joining the reader -/

/-- What awaiting the reader task yields: a join error, or what the reader
returned. -/
abbrev ReaderJoin := Except Text (Except Text Unit)

/-- `final_code` of `run_streaming`. -/
def finalCode (code : ExitCode) : ReaderJoin → ExitCode
  | .ok (.ok ()) => code
  | .ok (.error _) => max code 1
  | .error _ => max code 1

/-- The executor that `run_streaming` drives. -/
def streamingExecutor (opts : ExecutorOptions) : Executor :=
  if opts.workers = 1 then .sequentialStreaming else .parallelStreaming

/-- The reader task fails, with these lines sent: it returns a read error, or it
unwinds on its way through the script. -/
inductive ReaderFails (schedule : StreamingSchedule) (source : Text) (reader : Reader) :
    List (PreparedLine Cmd) → ReaderJoin → Prop
  | returned {message : Text}
      (hresult : (streamingReader checks schedule source reader).result = .error message) :
      ReaderFails schedule source reader (streamingReader checks schedule source reader).sent
        (.ok (.error message))
  | unwound {sent : List (PreparedLine Cmd)} (payload : Text)
      (hsent : sent <+: (streamingReader checks schedule source reader).sent) :
      ReaderFails schedule source reader sent (.error payload)

/-- `run_read_all` before it has an executor: the code it returns at once, or the
lines to execute. -/
def runReadAllLines (availableParallelism : Option Nat) (opened : Except Text Reader) :
    Except ExitCode (List (PreparedLine Cmd)) :=
  match opened with
  | .error _ => .error 1
  | .ok reader =>
      match readAll checks reader with
      | .error _ => .error 1
      | .ok parsed => .ok (parseAndValidate checks availableParallelism parsed)

variable {checks}

/-- The streaming reader returns an error only for a script that cannot be read. -/
theorem failure_of_streamingLoop_error {schedule : StreamingSchedule} {source message : Text}
    {reader : Reader} {lineNo : Nat} {sent : List (PreparedLine Cmd)}
    (hresult : (streamingLoop checks schedule source reader lineNo sent).result =
      .error message) : (readScript reader).failure.isSome = true := by
  fun_induction streamingLoop checks schedule source reader lineNo sent with
  | case1 reader lineNo sent hctrlC => cases hresult
  | case2 reader lineNo sent hctrlC rest hline => cases hresult
  | case3 reader lineNo sent hctrlC error rest hline =>
      rw [readScript_unfold, ← readLineCappedAsync_eq, hline]
      rfl
  | case4 reader lineNo sent hctrlC text rest hline next hkind ih =>
      rw [readScript_unfold, ← readLineCappedAsync_eq, hline]
      exact ih hresult
  | case5 reader lineNo sent hctrlC text rest hline next kind hkind prepared hreceives ih =>
      rw [readScript_unfold, ← readLineCappedAsync_eq, hline]
      exact ih hresult
  | case6 reader lineNo sent hctrlC text rest hline next kind hkind hreceives => cases hresult

/-- In read-all mode such a script is refused with code 1. -/
theorem runReadAllLines_of_error {schedule : StreamingSchedule} {source message : Text}
    {reader whole : Reader} (availableParallelism : Option Nat)
    (hwhole : whole.SameContent reader)
    (hresult : (streamingReader checks schedule source reader).result = .error message) :
    runReadAllLines checks availableParallelism (.ok whole) = .error 1 := by
  have hfailure := failure_of_streamingLoop_error hresult
  rw [← readScript_congr hwhole] at hfailure
  obtain ⟨error, herror⟩ := Option.isSome_iff_exists.mp hfailure
  simp only [runReadAllLines, readAll_eq, herror]

/-! ## Two rules of aggregation -/

/-- Code 1 is the worst of the codes it is among. -/
theorem worstOf_of_mem_one {codes : List ExitCode} (hone : 1 ∈ codes) : worstOf codes = 1 := by
  have hrank := severityRank_le_worstOf hone
  change 5 ≤ severityRank (worstOf codes) at hrank
  unfold severityRank at hrank
  split at hrank <;> simp_all

/-- Among codes of rank at most 1 the first that is not zero is the worst. -/
theorem worstOf_of_rank_le {codes : List ExitCode}
    (hcodes : ∀ code ∈ codes, severityRank code ≤ 1) :
    worstOf codes = (codes.find? (· ≠ 0)).getD 0 := by
  induction codes using List.reverseRecOn with
  | nil => rfl
  | append_singleton codes code ih =>
      have hcode : severityRank code ≤ 1 := hcodes code (by simp)
      rw [worstOf_append, ih fun other hother => hcodes other (by simp [hother]), worseOf,
        List.find?_append]
      cases hfirst : codes.find? (· ≠ 0) with
      | none =>
          by_cases hzero : code = 0
          · subst hzero
            rfl
          · have hrank : severityRank code > 0 :=
              Nat.pos_of_ne_zero fun hrank => hzero ((severityRank_eq_zero_iff code).mp hrank)
            simp [severityRank_zero, hrank, hzero]
      | some first =>
          have hne : first ≠ 0 := by simpa using List.find?_some hfirst
          have hrank : ¬ severityRank first = 0 := fun hrank =>
            hne ((severityRank_eq_zero_iff first).mp hrank)
          simp only [Option.getD_some, Option.some_or]
          rw [if_neg (by omega)]

/-- Nothing recorded outranks a failure to read under `max`: some code is 1, or
none is 2, 3 or 4 and the first that is not zero, if there is one, is negative. -/
def YieldsToReadError (codes : List ExitCode) : Prop :=
  1 ∈ codes ∨ (2 ∉ codes ∧ 3 ∉ codes ∧ 4 ∉ codes ∧
    ∀ first, codes.find? (· ≠ 0) = some first → first < 0)

theorem severityRank_of_two_le {code : ExitCode} (hrank : 2 ≤ severityRank code) :
    code = 1 ∨ code = 2 ∨ code = 3 ∨ code = 4 := by
  unfold severityRank at hrank
  split at hrank <;> simp_all

/-- Taking the larger of the worst code and 1 gives 1 for just these codes. -/
theorem max_worstOf_eq_one_iff (codes : List ExitCode) :
    max (worstOf codes) 1 = 1 ↔ YieldsToReadError codes := by
  rw [max_eq_right_iff]
  by_cases hone : 1 ∈ codes
  · rw [worstOf_of_mem_one hone]
    exact iff_of_true (le_refl 1) (Or.inl hone)
  by_cases hranks : ∀ code ∈ codes, severityRank code ≤ 1
  · have habsent : ∀ code, 1 < severityRank code → code ∉ codes := fun code hrank hmem =>
      absurd (hranks code hmem) (Nat.not_le_of_lt hrank)
    rw [worstOf_of_rank_le hranks]
    constructor
    · intro hle
      refine Or.inr ⟨habsent 2 (by decide), habsent 3 (by decide), habsent 4 (by decide), ?_⟩
      intro first hfirst
      rw [hfirst, Option.getD_some] at hle
      have hnotOne : first ≠ 1 := fun heq => hone (heq ▸ List.mem_of_find?_eq_some hfirst)
      have hnotZero : first ≠ 0 := by simpa using List.find?_some hfirst
      exact lt_of_le_of_ne (Int.lt_add_one_iff.mp (lt_of_le_of_ne hle hnotOne)) hnotZero
    · intro hyields
      obtain ⟨-, -, -, hnegative⟩ := hyields.resolve_left hone
      cases hfirst : codes.find? (· ≠ 0) with
      | none => decide
      | some first => exact (hnegative first hfirst).le.trans (by decide)
  · -- a code of a higher rank is there, so the worst is one of 2, 3 and 4
    push Not at hranks
    obtain ⟨code, hcode, hrank⟩ := hranks
    have hworst := severityRank_of_two_le (hrank.trans_le (severityRank_le_worstOf hcode))
    have hmem : worstOf codes ≠ 1 := by
      intro heq
      exact hone (heq ▸ worstOf_mem_of_ne_nil (List.ne_nil_of_mem hcode))
    have hcases := (severityRank_of_two_le hrank).resolve_left fun heq => hone (heq ▸ hcode)
    apply iff_of_false
    · rcases hworst.resolve_left hmem with heq | heq | heq <;> rw [heq] <;> decide
    rintro (hone' | ⟨htwo, hthree, hfour, -⟩)
    · exact hone hone'
    · rcases hcases with rfl | rfl | rfl
      · exact htwo hcode
      · exact hthree hcode
      · exact hfour hcode

/-! ## A run whose reader fails -/

/-- When the reader fails, `run_streaming` returns the worst of the codes it recorded
and the code of the failure, which is 1 as in read-all mode, exactly if the recorded
codes yield to it. -/
theorem read_failure_exit_iff (checks : LineChecks Cmd) (schedule : StreamingSchedule)
    (source : Text) (reader : Reader) (sent : List (PreparedLine Cmd)) (joined : ReaderJoin)
    (hfails : ReaderFails checks schedule source reader sent joined) (opts : ExecutorOptions)
    (hworkers : 1 ≤ opts.workers) (dispatch : Nat → DispatchResult)
    (state : ((streamingExecutor opts).machine opts []).State)
    (hreach : (((streamingExecutor opts).machine opts []).system dispatch).Reachable state)
    (hsent : ((streamingExecutor opts).machine opts []).given state = sent)
    (code : ExitCode) (summary : Summary)
    (hresult : ((streamingExecutor opts).machine opts []).result state = some (code, summary)) :
    ∃ order : List ExitCode,
      order.Perm (lineCodes dispatch
        (((streamingExecutor opts).machine opts []).inFlight state)) ∧
      ((streamingExecutor opts).machine opts []).inFlight state <+: sent ∧
      code = worstOf order ∧ worstOf (order ++ [1]) = 1 ∧
      (finalCode code joined = worstOf (order ++ [1]) ↔ YieldsToReadError order) ∧
      ∀ (availableParallelism : Option Nat) (whole : Reader) (message : Text),
        whole.SameContent reader → joined = .ok (.error message) →
          runReadAllLines checks availableParallelism (.ok whole) = .error 1 := by
  have hsound := (streamingExecutor opts).sound opts hworkers ([] : List (PreparedLine Cmd))
  obtain ⟨order, hperm, hcode⟩ := hsound.exitCode_worstOf hreach hresult
  have hworst : worstOf (order ++ [1]) = 1 := worstOf_of_mem_one (by simp)
  refine ⟨order, hperm, hsent ▸ hsound.inFlight_inOrder hreach, hcode, hworst, ?_, ?_⟩
  · have hfinal : finalCode code joined = max code 1 := by
      cases hfails with
      | returned hmessage => rfl
      | unwound payload hinit => rfl
    rw [hfinal, hworst, hcode]
    exact max_worstOf_eq_one_iff order
  · intro availableParallelism whole message hwhole hjoined
    cases hfails with
    | returned hmessage => exact runReadAllLines_of_error availableParallelism hwhole hmessage
    | unwound payload hinit => cases hjoined

/-- `ls`, then bytes that are no text. -/
def lsThenBytes : Reader := ⟨[⟨[108, 115, 10, 255], by decide⟩], none⟩

/-- The one line that the reader sends of it. -/
def lsLine : PreparedLine Text := ⟨1, "ls".toList, .cmd "ls".toList⟩

theorem lsThenBytes_fails : ∃ message, ReaderFails lsOnly .quiet "stdin".toList lsThenBytes
    [lsLine] (.ok (.error message)) := by
  have hscript : readScript lsThenBytes = ⟨["ls".toList], some (.invalidUtf8 [255])⟩ := by
    decide +kernel
  have hquiet := streamingLoop_quiet lsOnly "stdin".toList lsThenBytes 0 []
  rw [hscript] at hquiet
  have hsent : (streamingReader lsOnly .quiet "stdin".toList lsThenBytes).sent = [lsLine] :=
    (congrArg StreamingOutcome.sent hquiet).trans (by decide +kernel)
  rw [← hsent]
  exact ⟨_, .returned (congrArg StreamingOutcome.result hquiet)⟩

/-- The steps of one worker over a stream of one line. -/
def oneLineStream : List (Action Text) :=
  [.send lsLine, .close, .exec, .complete 0, .exec]

/-- A line that fails with code 1 before the failure to read. -/
theorem read_failure_exit_one :
    ∃ message order, order.Perm [1] ∧
      (finalCode 1 (.ok (.error message)) = worstOf (order ++ [1]) ↔ YieldsToReadError order) := by
  obtain ⟨message, hfails⟩ := lsThenBytes_fails
  obtain ⟨state, hreach, hgiven, hinFlight, hresult⟩ :=
    (runSequentialStreaming Text ⟨1, some 1, false⟩).exists_returned (fun _ => .code 1)
      oneLineStream [lsLine] [lsLine] (1, ⟨0, 1, 0, 0⟩) (by decide +kernel)
  obtain ⟨order, hperm, -, -, -, hiff, -⟩ := read_failure_exit_iff lsOnly _ _ _ _ _ hfails
    ⟨1, some 1, false⟩ (by decide) (fun _ => .code 1) state hreach hgiven 1 _ hresult
  exact ⟨message, order, (congrArg (order.Perm <| lineCodes (fun _ => .code 1) ·) hinFlight).mp
    hperm, hiff⟩

/-- A line that returns a warning before the failure to read: the run exits with
the warning. -/
theorem warning_survives_read_error :
    ∃ message, ReaderFails lsOnly .quiet "stdin".toList lsThenBytes [lsLine]
        (.ok (.error message)) ∧
      ∃ state, ((runSequentialStreaming Text ⟨1, some 1, false⟩).system
          fun _ => .code 3).Reachable state ∧
        (runSequentialStreaming Text ⟨1, some 1, false⟩).given state = [lsLine] ∧
        (runSequentialStreaming Text ⟨1, some 1, false⟩).inFlight state = [lsLine] ∧
        (runSequentialStreaming Text ⟨1, some 1, false⟩).result state =
          some (3, ⟨0, 0, 1, 0⟩) ∧
        finalCode 3 (.ok (.error message)) = 3 ∧ worstOf ([3] ++ [1]) = 1 := by
  obtain ⟨message, hfails⟩ := lsThenBytes_fails
  obtain ⟨state, hreach, hgiven, hinFlight, hresult⟩ :=
    (runSequentialStreaming Text ⟨1, some 1, false⟩).exists_returned (fun _ => .code 3)
      oneLineStream [lsLine] [lsLine] (3, ⟨0, 0, 1, 0⟩) (by decide +kernel)
  exact ⟨message, hfails, state, hreach, hgiven, hinFlight, hresult, rfl, by decide⟩

end S7cmd.BatchRun
