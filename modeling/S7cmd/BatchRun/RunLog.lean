import S7cmd.BatchRun.Accounting
import S7cmd.BatchRun.EventLog
import S7cmd.Foundation.Interleaving

/-!
# The event log of a run

The log of a run interleaves what its lines write, each its own events in their
order. On return every line has written all its events, so what the log counts is
what the summary counts.
-/

namespace S7cmd.BatchRun

open Foundation

variable {Cmd : Type}

/-! ## The log of a run -/

/-- What a line in flight has written so far. -/
def Flight.story (flight : Flight Cmd) (result : DispatchResult) : List (LogEvent Cmd) :=
  executeLineStart flight.line ++
    if flight.phase.code?.isSome then (executeLineEnd flight.line result).1 else []

/-- The progress bar of a run that has ticked for these codes. -/
def progressOf (codes : List ExitCode) : Progress := codes.foldl Progress.tick {}

namespace Books

/-- The codes the progress bar has seen. -/
def endedCodes (books : Books Cmd) : List ExitCode :=
  books.flights.filterMap fun flight => flight.phase.ended?

/-- The log holds what the lines in flight have written, no task has unwound, and the
progress bar has seen the codes of the lines that ended. -/
structure Logged (dispatch : Nat → DispatchResult) (books : Books Cmd) : Prop where
  log : Interleaving (books.flights.mapIdx fun index flight => flight.story (dispatch index))
    books.log
  returned : ∀ flight ∈ books.flights, ∀ error, flight.phase ≠ .finished (.error error)
  progress : ∃ order, order.Perm books.endedCodes ∧ books.progress = progressOf order

variable {opts : ExecutorOptions} {dispatch : Nat → DispatchResult} {books next : Books Cmd}

theorem logged_empty : ({} : Books Cmd).Logged dispatch :=
  ⟨.empty, by simp, [], List.Perm.refl _, rfl⟩

theorem Logged.skip (hlogged : books.Logged dispatch) (count : Nat) :
    (books.skip count).Logged dispatch :=
  ⟨hlogged.log, hlogged.returned, hlogged.progress⟩

theorem Logged.launch (hlogged : books.Logged dispatch) (line : PreparedLine Cmd) :
    (books.launch line).Logged dispatch := by
  obtain ⟨order, hperm, hprogress⟩ := hlogged.progress
  refine ⟨?_, ?_, order, ?_, hprogress⟩
  · have happend := hlogged.log.append_new (executeLineStart line)
    simpa [Books.launch, List.mapIdx_append, Flight.story] using happend
  · intro flight hflight error
    rw [flights_launch, List.mem_append, List.mem_singleton] at hflight
    rcases hflight with hflight | rfl
    · exact hlogged.returned flight hflight error
    · nofun
  · simpa [endedCodes, Phase.ended?] using hperm

/-- A line in flight moves on: it writes its next events, if it has any, and its
task does not unwind. -/
theorem Logged.moved (hlogged : books.Logged dispatch) {index : Nat} {line : PreparedLine Cmd}
    {before after : Phase} (hold : books.flights[index]? = some ⟨line, before⟩)
    (hflights : next.flights = books.flights.set index ⟨line, after⟩)
    {events : List (LogEvent Cmd)} (hlog : next.log = books.log ++ events)
    (hstory : Flight.story ⟨line, after⟩ (dispatch index) =
      Flight.story ⟨line, before⟩ (dispatch index) ++ events)
    (hreturned : ∀ error, after ≠ .finished (.error error))
    (hprogress : ∃ order, order.Perm next.endedCodes ∧ next.progress = progressOf order) :
    next.Logged dispatch := by
  refine ⟨?_, ?_, hprogress⟩
  · have hstream : (books.flights.mapIdx fun index flight => flight.story (dispatch index))[index]?
        = some (Flight.story ⟨line, before⟩ (dispatch index)) := by
      rw [List.getElem?_mapIdx, hold]
      rfl
    have happend := hlogged.log.append hstream events
    rw [← hstory] at happend
    rw [hflights, hlog, List.mapIdx_set]
    exact happend
  · intro flight hflight error
    rw [hflights] at hflight
    rcases List.mem_or_eq_of_mem_set hflight with hflight | rfl
    · exact hlogged.returned flight hflight error
    · exact hreturned error

/-- The progress bar sees the code of a line that ends. -/
theorem progress_ended (hlogged : books.Logged dispatch) {index : Nat} {line : PreparedLine Cmd}
    {before after : Phase} (hold : books.flights[index]? = some ⟨line, before⟩)
    (hflights : next.flights = books.flights.set index ⟨line, after⟩) {code : ExitCode}
    (hbefore : before.ended? = none) (hafter : after.ended? = some code)
    (hprogress : next.progress = books.progress.tick code) :
    ∃ order, order.Perm next.endedCodes ∧ next.progress = progressOf order := by
  obtain ⟨order, hperm, htick⟩ := hlogged.progress
  refine ⟨order ++ [code], ?_, ?_⟩
  · rw [endedCodes, hflights]
    exact (hperm.append_right [code]).trans
      (filterMap_set_perm hold ⟨line, after⟩ hbefore hafter).symm
  · rw [hprogress, htick, progressOf, progressOf, List.foldl_append]
    rfl

theorem progress_kept (hlogged : books.Logged dispatch) {index : Nat} {line : PreparedLine Cmd}
    {before after : Phase} (hold : books.flights[index]? = some ⟨line, before⟩)
    (hflights : next.flights = books.flights.set index ⟨line, after⟩)
    (hended : after.ended? = before.ended?) (hprogress : next.progress = books.progress) :
    ∃ order, order.Perm next.endedCodes ∧ next.progress = progressOf order := by
  obtain ⟨order, hperm, htick⟩ := hlogged.progress
  refine ⟨order, ?_, hprogress.trans htick⟩
  rw [endedCodes, hflights, filterMap_set_of_eq hold ⟨line, after⟩ hended]
  exact hperm

theorem Logged.complete (hlogged : books.Logged dispatch) {index : Nat}
    {line : PreparedLine Cmd} (hold : books.flights[index]? = some ⟨line, .running⟩) :
    (books.complete opts (dispatch index) index line).Logged dispatch := by
  have hflights := flights_complete opts books (dispatch index) index line
  have hlocals : (books.complete opts (dispatch index) index line).log =
        books.log ++ (executeLineEnd line (dispatch index)).1 ∧
      (books.complete opts (dispatch index) index line).progress = books.progress := by
    simp only [Books.complete, setPhase, countFailure]
    split <;> exact ⟨rfl, rfl⟩
  exact hlogged.moved hold hflights hlocals.1 (by simp [Flight.story]) (by simp)
    (progress_kept hlogged hold hflights rfl hlocals.2)

theorem Logged.finish (hlogged : books.Logged dispatch) {index : Nat} {line : PreparedLine Cmd}
    {code : ExitCode} (hold : books.flights[index]? = some ⟨line, .recorded code⟩) :
    (books.finish code index line).Logged dispatch :=
  hlogged.moved hold (flights_finish books code index line) (List.append_nil _).symm
    (by simp [Flight.story]) (by simp)
    (progress_ended hlogged hold (flights_finish books code index line) rfl rfl rfl)

/-- Every task that is joined has returned, so the join loop logs nothing. -/
theorem Logged.join (hlogged : books.Logged dispatch) {index : Nat} {line : PreparedLine Cmd}
    {result : JoinResult} (hold : books.flights[index]? = some ⟨line, .finished result⟩) :
    (books.join result index line).Logged dispatch := by
  cases result with
  | error error =>
      exact absurd rfl (hlogged.returned _ (List.mem_of_getElem? hold) error)
  | ok value =>
      exact hlogged.moved hold (flights_join books (.ok value) index line)
        (List.append_nil _).symm (by simp [Flight.story]) (by simp)
        (progress_kept hlogged hold (flights_join books (.ok value) index line) rfl rfl)

theorem Logged.settle (hlogged : books.Logged dispatch) {index : Nat} {line : PreparedLine Cmd}
    (hold : books.flights[index]? = some ⟨line, .running⟩) :
    (books.settle opts (dispatch index) index line).Logged dispatch := by
  have hflights := flights_settle opts books (dispatch index) index line
  have hlocals : (books.settle opts (dispatch index) index line).log =
        books.log ++ (executeLineEnd line (dispatch index)).1 ∧
      (books.settle opts (dispatch index) index line).progress =
        books.progress.tick (lineCode line (dispatch index)) := by
    simp only [Books.settle, setPhase, countFailure, recordCode, lineCode]
    split <;> exact ⟨rfl, rfl⟩
  exact hlogged.moved hold hflights hlocals.1 (by simp [Flight.story]) (by simp)
    (progress_ended hlogged hold hflights rfl rfl hlocals.2)

end Books

namespace Pool

variable {opts : ExecutorOptions} {dispatch : Nat → DispatchResult} {pool next : Pool Cmd}

theorem logged_task {action : Action Cmd} (hlogged : pool.books.Logged dispatch)
    (hnext : pool.task opts dispatch action = some next) : next.books.Logged dispatch := by
  cases action with
  | complete index =>
      obtain ⟨line, hflight, rfl⟩ := complete_eq_some hnext
      exact hlogged.complete hflight
  | finish index =>
      obtain ⟨line, code, hflight, rfl⟩ := finish_eq_some hnext
      exact hlogged.finish hflight
  | _ => cases hnext

theorem logged_join {index : Nat} (hlogged : pool.books.Logged dispatch)
    (hnext : pool.join index = some next) : next.books.Logged dispatch := by
  obtain ⟨line, result, hflight, rfl⟩ := join_eq_some hnext
  exact hlogged.join hflight

end Pool

/-- Every step of every executor keeps the log. -/
theorem Executor.logged_step (executor : Executor) (opts : ExecutorOptions)
    (script : List (PreparedLine Cmd)) (dispatch : Nat → DispatchResult)
    (state : (executor.machine opts script).State) (action : Action Cmd)
    (next : (executor.machine opts script).State)
    (hlogged : ((executor.machine opts script).books state).Logged dispatch)
    (hstep : (executor.machine opts script).step dispatch state action = some next) :
    ((executor.machine opts script).books next).Logged dispatch := by
  cases executor with
  | sequential =>
      cases Sequential.step_moves hstep with
      | interrupted => exact hlogged.skip _
      | launched line => exact hlogged.launch line
      | settled index line hpc hflight =>
          have hsettled : (state.books.settle opts (dispatch index) index line).Logged dispatch :=
            Books.Logged.settle hlogged hflight
          simp only [Executor.machine, runSequential, Sequential.afterLine]
          split
          · exact hsettled.skip _
          · exact hsettled
      | _ => exact hlogged
  | sequentialStreaming =>
      cases SequentialStreaming.step_moves hstep with
      | interrupted => exact hlogged.skip 1
      | launched line => exact hlogged.launch line
      | dropped => exact hlogged.skip 1
      | settled index line hpc hflight =>
          have hsettled : (state.books.settle opts (dispatch index) index line).Logged dispatch :=
            Books.Logged.settle hlogged hflight
          simp only [Executor.machine, runSequentialStreaming, SequentialStreaming.afterLine]
          split <;> exact hsettled
      | _ => exact hlogged
  | parallel =>
      cases Parallel.step_moves hstep with
      | spawned line => exact hlogged.launch line
      | returned => exact hlogged.skip _
      | joined index pool hpc hpool => exact Pool.logged_join hlogged hpool
      | task action pool hpool => exact Pool.logged_task hlogged hpool
      | _ => exact hlogged
  | parallelStreaming =>
      cases ParallelStreaming.step_moves hstep with
      | spawned line => exact hlogged.launch line
      | interrupted => exact hlogged.skip 1
      | dropped => exact hlogged.skip 1
      | joined index pool hpc hpool => exact Pool.logged_join hlogged hpool
      | task action pool hpool => exact Pool.logged_task hlogged hpool
      | _ => exact hlogged

theorem Executor.logged (executor : Executor) (opts : ExecutorOptions)
    (script : List (PreparedLine Cmd)) (dispatch : Nat → DispatchResult)
    {state : (executor.machine opts script).State}
    (hreach : ((executor.machine opts script).system dispatch).Reachable state) :
    ((executor.machine opts script).books state).Logged dispatch := by
  apply hreach.invariant fun state =>
    ((executor.machine opts script).books state).Logged dispatch
  · cases executor <;> exact Books.logged_empty
  · intro state action next hlogged hstep
    exact executor.logged_step opts script dispatch state action next hlogged hstep

/-! ## The log on return -/

/-- The counters of a summary, as the progress bar keeps them. -/
def Progress.ofSummary (summary : Summary) : Progress :=
  ⟨summary.ok, summary.failed, summary.warning, summary.skipped⟩

/-- The progress bar classifies a code as the summary does. -/
theorem Progress.tick_ofSummary (summary : Summary) (code : ExitCode) :
    (ofSummary summary).tick code = ofSummary (summary.record code) := by
  unfold tick Summary.record
  split <;> rfl

theorem progressOf_eq (codes : List ExitCode) : progressOf codes = .ofSummary (tally codes) := by
  induction codes using List.reverseRecOn with
  | nil => rfl
  | append_singleton codes code ih =>
      rw [tally_append, ← Progress.tick_ofSummary, ← ih]
      simp only [progressOf, List.foldl_append, List.foldl_cons, List.foldl_nil]

theorem Executor.coded (executor : Executor) (opts : ExecutorOptions)
    (script : List (PreparedLine Cmd)) (dispatch : Nat → DispatchResult)
    {state : (executor.machine opts script).State}
    (hreach : ((executor.machine opts script).system dispatch).Reachable state) :
    ((executor.machine opts script).books state).Coded opts dispatch := by
  cases executor with
  | sequential => exact (Sequential.inv_reachable hreach).coded
  | sequentialStreaming => exact (SequentialStreaming.inv_reachable hreach).coded
  | parallel => exact (Parallel.inv_reachable hreach).pool.coded
  | parallelStreaming =>
      obtain ⟨dropped, hpool, -, -⟩ := (ParallelStreaming.inv_reachable hreach).received
      exact hpool.coded

namespace Books

variable {opts : ExecutorOptions} {dispatch : Nat → DispatchResult} {books : Books Cmd}

/-- A line that no longer occupies a worker has its code. -/
theorem codes_of_unfinished (hfinished : books.unfinished = 0) :
    ∀ flight ∈ books.flights, ∃ code, flight.phase.ended? = some code ∧
      flight.phase.code? = some code := by
  intro flight hflight
  have hended := List.countP_eq_zero.mp hfinished flight hflight
  cases hphase : flight.phase <;> simp_all [Flight.isOpen, Phase.ended?]

/-- Once no line occupies a worker, every line has written all its events. -/
theorem stories_of_unfinished (hfinished : books.unfinished = 0) :
    (books.flights.mapIdx fun index flight => flight.story (dispatch index)) =
      stories dispatch books.inFlight := by
  apply List.ext_getElem?
  intro index
  simp only [stories, inFlight, List.getElem?_mapIdx, List.getElem?_map, Option.map_map]
  cases hflight : books.flights[index]? with
  | none => rfl
  | some flight =>
      obtain ⟨code, -, hcode⟩ := codes_of_unfinished hfinished flight (List.mem_of_getElem? hflight)
      simp only [Option.map_some, Function.comp_apply, Flight.story, hcode, Option.isSome_some,
        if_true, lineEvents]

/-- The log of a run in which no line occupies a worker any more. -/
theorem Logged.log_stories (hlogged : books.Logged dispatch) (hfinished : books.unfinished = 0) :
    Interleaving (stories dispatch books.inFlight) books.log := by
  rw [← stories_of_unfinished hfinished]
  exact hlogged.log

/-- Such a log has as many events of a kind as lines came back with a code in its
table. -/
theorem Logged.count_eq (hlogged : books.Logged dispatch) (hfinished : books.unfinished = 0)
    {kind : EventName → Bool} {table : ExitCode → Bool} (hclassifies : Classifies kind table) :
    eventCount kind books.log = (lineCodes dispatch books.inFlight).countP table := by
  rw [← hclassifies.count dispatch books.inFlight]
  exact (hlogged.log_stories hfinished).perm.countP_eq _

theorem Logged.progress_eq (hlogged : books.Logged dispatch) (hcoded : books.Coded opts dispatch)
    (hfinished : books.unfinished = 0) :
    books.progress = .ofSummary (tally (lineCodes dispatch books.inFlight)) := by
  obtain ⟨order, hperm, hprogress⟩ := hlogged.progress
  have hcodes : books.endedCodes = lineCodes dispatch books.inFlight :=
    hcoded.filterMap_eq (codes_of_unfinished hfinished)
  rw [hprogress, progressOf_eq, tally_perm (hcodes ▸ hperm)]

/-- The failure counter counts the events that count toward the threshold. -/
theorem Logged.failCount_eq (hlogged : books.Logged dispatch)
    (hcoded : books.Coded opts dispatch) (hfinished : books.unfinished = 0) :
    books.failCount = eventCount (EventName.counts opts.continueOnWarning) books.log := by
  rw [hlogged.count_eq hfinished (classifies_stopWorthy opts.continueOnWarning)]
  apply hcoded.failCount_eq_of_codes
  intro flight hflight
  obtain ⟨code, -, hcode⟩ := codes_of_unfinished hfinished flight hflight
  rw [hcode]
  rfl

end Books

/-- A line counts toward the threshold exactly if one of its events does. -/
theorem isStopWorthy_iff_eventCount (line : PreparedLine Cmd) (result : DispatchResult)
    (continueOnWarning : Bool) :
    isStopWorthy (lineCode line result) continueOnWarning = true ↔
      eventCount (EventName.counts continueOnWarning) (lineEvents line result) = 1 := by
  rw [(classifies_stopWorthy continueOnWarning).count_line]
  by_cases hworthy : isStopWorthy (lineCode line result) continueOnWarning = true
  · rw [if_pos hworthy]
    exact iff_of_true hworthy rfl
  · rw [if_neg hworthy]
    exact iff_of_false hworthy Nat.zero_ne_one

/-- On return the log interleaves the events of the dispatched lines, and its events,
the summary, the progress bar and the failure counter count the same outcomes. -/
theorem log_agrees_with_summary (executor : Executor) (opts : ExecutorOptions)
    (hworkers : 1 ≤ opts.workers) (script : List (PreparedLine Cmd))
    (dispatch : Nat → DispatchResult) (state : (executor.machine opts script).State)
    (hreach : ((executor.machine opts script).system dispatch).Reachable state)
    (code : ExitCode) (summary : Summary)
    (hresult : (executor.machine opts script).result state = some (code, summary)) :
    let machine := executor.machine opts script
    let lines := machine.inFlight state
    let books := machine.books state
    let neverDispatched := (machine.given state).length - lines.length
    Interleaving (stories dispatch lines) books.log ∧
      (∀ index line, lines[index]? = some line →
        (lineEvents line (dispatch index)).Sublist books.log ∧
        (∀ cmd, line.kind = .cmd cmd → ∃ outcome name,
          lineEvents line (dispatch index) = [.start line, outcome] ∧
            outcome.line? = some line ∧ outcome.name = some name ∧
            name ≠ .start ∧ name ≠ .invalid) ∧
        (∀ kind reason, line.kind = .invalid kind reason →
          lineEvents line (dispatch index) = [.invalid line kind reason]) ∧
        (isStopWorthy (lineCode line (dispatch index)) opts.continueOnWarning = true ↔
          eventCount (EventName.counts opts.continueOnWarning)
            (lineEvents line (dispatch index)) = 1)) ∧
      eventCount (· == .success) books.log = summary.ok ∧
      eventCount (· == .warning) books.log = summary.warning ∧
      eventCount (· == .failure) books.log + eventCount (· == .panicked) books.log +
        eventCount (· == .invalid) books.log = summary.failed ∧
      eventCount (· == .skipped) books.log + neverDispatched = summary.skipped ∧
      books.failCount = eventCount (EventName.counts opts.continueOnWarning) books.log ∧
      ∃ dispatched : Summary, books.progress = .ofSummary dispatched ∧
        dispatched.Counts (lineCodes dispatch lines) ∧
        summary = dispatched.skip neverDispatched := by
  intro machine lines books neverDispatched
  have hsound : machine.Sound opts := executor.sound opts hworkers script
  have hfinished : books.unfinished = 0 := (hsound.settled_of_result hreach hresult).finished
  have hlogged : books.Logged dispatch := executor.logged opts script dispatch hreach
  have hcoded : books.Coded opts dispatch := executor.coded opts script dispatch hreach
  have hlog : Interleaving (stories dispatch lines) books.log := hlogged.log_stories hfinished
  obtain ⟨recorded, hcounts, hsummary⟩ := hsound.summary_counts hreach hresult
  refine ⟨hlog, ?_, ?_, ?_, ?_, ?_, hlogged.failCount_eq hcoded hfinished, ?_⟩
  · intro index line hline
    have hstory : (stories dispatch lines)[index]? = some (lineEvents line (dispatch index)) := by
      rw [stories, List.getElem?_mapIdx, hline]
      rfl
    obtain ⟨hcmd, hinvalid⟩ := lineEvents_shape line (dispatch index)
    exact ⟨hlog.sublist hstory, hcmd, hinvalid, isStopWorthy_iff_eventCount _ _ _⟩
  · rw [hlogged.count_eq hfinished classifies_ok, hsummary]
    exact hcounts.ok.symm
  · rw [hlogged.count_eq hfinished classifies_warning, hsummary]
    exact hcounts.warning.symm
  · rw [← eventCount_isFailed, hlogged.count_eq hfinished classifies_failed, hsummary]
    exact hcounts.failed.symm
  · rw [hlogged.count_eq hfinished classifies_skipped, hsummary]
    exact congrArg (· + neverDispatched) hcounts.skipped.symm
  · exact ⟨tally (lineCodes dispatch lines), hlogged.progress_eq hcoded hfinished,
      tally_counts _, by rw [hsummary, hcounts.unique (tally_counts _)]⟩

/-- Two workers, two lines: the log of the run in which the second line fails and
finishes first. -/
theorem log_agrees_two_workers :
    ∃ state, (sampleMachine .parallel 2 (some 1) 2).result state = some (1, ⟨1, 1, 0, 0⟩) ∧
      eventCount (· == .failure) ((sampleMachine .parallel 2 (some 1) 2).books state).log +
        eventCount (· == .panicked) ((sampleMachine .parallel 2 (some 1) 2).books state).log +
        eventCount (· == .invalid) ((sampleMachine .parallel 2 (some 1) 2).books state).log = 1 := by
  obtain ⟨state, hreach, -, -, hresult⟩ :=
    (sampleMachine .parallel 2 (some 1) 2).exists_returned (fun index => .code index)
      (twoLineRun 1 0) (sampleScript 2) (sampleScript 2) (1, ⟨1, 1, 0, 0⟩) (by decide +kernel)
  have hagrees := log_agrees_with_summary .parallel ⟨2, some 1, false⟩ (by decide) _ _ state hreach
    _ _ hresult
  exact ⟨state, hresult, hagrees.2.2.2.2.1⟩

end S7cmd.BatchRun
