import S7cmd.BatchRun.Severity
import S7cmd.Foundation.PointUpdate

/-!
# The books of a run

Every executor keeps the same locals: a failure counter, a summary, progress
counters and the worst code so far. Beside them stands the history of the lines
put in flight, in that order, with how far each has come; the executors never
read it. The invariants of the locals are stated against that history.
-/

namespace S7cmd.BatchRun

open Foundation

variable {Cmd : Type}

/-- What `join_next` yields for a task: its line number and code, or the text
of a join error. -/
abbrev JoinResult := Except Text (Nat × ExitCode)

/-- The code the join loop records. A task that unwound counts as code 1. -/
def joinedCode : JoinResult → ExitCode
  | .ok (_, code) => code
  | .error _ => 1

/-- How far a line in flight has come. A sequential executor goes from
`running` to `joined` at once. -/
inductive Phase where
  /-- inside `execute_line` -/
  | running
  /-- the threshold bookkeeping is done; the task awaits the progress lock -/
  | recorded (code : ExitCode)
  /-- the task has returned and dropped its permit -/
  | finished (result : JoinResult)
  /-- the summary has recorded the code -/
  | joined (code : ExitCode)
  deriving DecidableEq, Repr

namespace Phase

/-- The code `execute_line` returned, once it has. -/
def code? : Phase → Option ExitCode
  | .running => none
  | .recorded code => some code
  | .finished result => some (joinedCode result)
  | .joined code => some code

/-- The code of a line that no longer occupies a worker. -/
def ended? : Phase → Option ExitCode
  | .running => none
  | .recorded _ => none
  | .finished result => some (joinedCode result)
  | .joined code => some code

/-- The code the summary has recorded. -/
def joined? : Phase → Option ExitCode
  | .joined code => some code
  | _ => none

@[simp] theorem code?_running : code? .running = none := rfl

@[simp] theorem code?_recorded (code : ExitCode) : code? (.recorded code) = some code := rfl

@[simp] theorem code?_finished (result : JoinResult) :
    code? (.finished result) = some (joinedCode result) := rfl

@[simp] theorem code?_joined (code : ExitCode) : code? (.joined code) = some code := rfl

/-- Whether the line came back with a code that counts toward the threshold. -/
def stopWorthy (opts : ExecutorOptions) (phase : Phase) : Bool :=
  phase.code?.any fun code => isStopWorthy code opts.continueOnWarning

end Phase

structure Flight (Cmd : Type) where
  line : PreparedLine Cmd
  phase : Phase
  deriving DecidableEq, Repr

def Flight.isJoined (flight : Flight Cmd) : Bool := flight.phase.joined?.isSome

def Flight.isOpen (flight : Flight Cmd) : Bool := flight.phase.ended?.isNone

structure Books (Cmd : Type) where
  flights : List (Flight Cmd) := []
  failCount : Nat := 0
  summary : Summary := {}
  progress : Progress := {}
  worst : ExitCode := 0
  log : List (LogEvent Cmd) := []
  deriving DecidableEq, Repr

namespace Books

/-- The lines put in flight, in that order. -/
def inFlight (books : Books Cmd) : List (PreparedLine Cmd) := books.flights.map Flight.line

/-- The codes the summary has recorded, in line order. -/
def joinedCodes (books : Books Cmd) : List ExitCode :=
  books.flights.filterMap fun flight => flight.phase.joined?

/-- How many lines in flight still occupy a worker. -/
def unfinished (books : Books Cmd) : Nat := books.flights.countP Flight.isOpen

/-- How many stop-worthy outcomes have been recorded. -/
def stopWorthyCount (opts : ExecutorOptions) (books : Books Cmd) : Nat :=
  books.flights.countP fun flight => flight.phase.stopWorthy opts

def allJoined (books : Books Cmd) : Bool := books.flights.all Flight.isJoined

/-! ## Operations -/

/-- Put a line in flight: the first half of `execute_line`. -/
def launch (books : Books Cmd) (line : PreparedLine Cmd) : Books Cmd :=
  { books with
    flights := books.flights ++ [⟨line, .running⟩]
    log := books.log ++ executeLineStart line }

/-- `if is_stop_worthy(..) { fail_count += 1; .. }` -/
def countFailure (opts : ExecutorOptions) (code : ExitCode) (books : Books Cmd) : Books Cmd :=
  if isStopWorthy code opts.continueOnWarning then
    { books with failCount := books.failCount + 1 }
  else books

/-- Whether the counting just done has reached the threshold. -/
def trips (opts : ExecutorOptions) (code : ExitCode) (books : Books Cmd) : Bool :=
  isStopWorthy code opts.continueOnWarning && opts.reached books.failCount

/-- The recorded failures have reached the threshold. -/
def Tripped (opts : ExecutorOptions) (books : Books Cmd) : Prop :=
  opts.reached books.failCount = true ∧ 0 < books.failCount

/-- `summary.record(code); worst = worse_of(worst, code);` -/
def recordCode (code : ExitCode) (books : Books Cmd) : Books Cmd :=
  { books with
    summary := books.summary.record code
    worst := worseOf books.worst code }

def setPhase (index : Nat) (flight : Flight Cmd) (books : Books Cmd) : Books Cmd :=
  { books with flights := books.flights.set index flight }

/-- The second half of `execute_line` in a task, then the threshold count. -/
def complete (opts : ExecutorOptions) (result : DispatchResult) (index : Nat)
    (line : PreparedLine Cmd) (books : Books Cmd) : Books Cmd :=
  let (events, _, code) := executeLineEnd line result
  let books := { books with log := books.log ++ events }
  -- summary and worst code wait for the join loop
  (books.countFailure opts code).setPhase index ⟨line, .recorded code⟩

/-- `progress.lock().await.tick(code); (line_no, code)` at the end of a task. -/
def finish (code : ExitCode) (index : Nat) (line : PreparedLine Cmd) (books : Books Cmd) :
    Books Cmd :=
  let books := { books with progress := books.progress.tick code }
  books.setPhase index ⟨line, .finished (.ok (line.lineNo, code))⟩

/-- One iteration of the join loop. -/
def join (result : JoinResult) (index : Nat) (line : PreparedLine Cmd) (books : Books Cmd) :
    Books Cmd :=
  let books := match result with
    | .ok _ => books
    | .error error => { books with log := books.log ++ [LogEvent.taskPanicked error] }
  (books.recordCode (joinedCode result)).setPhase index ⟨line, .joined (joinedCode result)⟩

/-- The body of a sequential loop after its await: tick, record, count. -/
def settle (opts : ExecutorOptions) (result : DispatchResult) (index : Nat)
    (line : PreparedLine Cmd) (books : Books Cmd) : Books Cmd :=
  let (events, _, code) := executeLineEnd line result
  let books := { books with
    log := books.log ++ events
    progress := books.progress.tick code }
  ((books.recordCode code).countFailure opts code).setPhase index ⟨line, .joined code⟩

/-- `summary.skipped += count` -/
def skip (count : Nat) (books : Books Cmd) : Books Cmd :=
  { books with summary := books.summary.skip count }

/-! ## What the operations do to each local -/

variable (opts : ExecutorOptions) (books : Books Cmd)

@[simp] theorem flights_launch (line : PreparedLine Cmd) :
    (books.launch line).flights = books.flights ++ [⟨line, .running⟩] := rfl

@[simp] theorem flights_complete (result : DispatchResult) (index : Nat)
    (line : PreparedLine Cmd) :
    (books.complete opts result index line).flights =
      books.flights.set index ⟨line, .recorded (lineCode line result)⟩ := by
  simp only [complete, setPhase, countFailure, lineCode]
  split <;> rfl

@[simp] theorem flights_finish (code : ExitCode) (index : Nat) (line : PreparedLine Cmd) :
    (books.finish code index line).flights =
      books.flights.set index ⟨line, .finished (.ok (line.lineNo, code))⟩ := rfl

@[simp] theorem flights_join (result : JoinResult) (index : Nat) (line : PreparedLine Cmd) :
    (books.join result index line).flights =
      books.flights.set index ⟨line, .joined (joinedCode result)⟩ := by
  cases result <;> rfl

@[simp] theorem flights_settle (result : DispatchResult) (index : Nat)
    (line : PreparedLine Cmd) :
    (books.settle opts result index line).flights =
      books.flights.set index ⟨line, .joined (lineCode line result)⟩ := by
  simp only [settle, setPhase, countFailure, recordCode, lineCode]
  split <;> rfl

@[simp] theorem flights_skip (count : Nat) : (books.skip count).flights = books.flights := rfl

@[simp] theorem failCount_launch (line : PreparedLine Cmd) :
    (books.launch line).failCount = books.failCount := rfl

/-- The counter after a line has come back with this code. -/
def failCountAfter (code : ExitCode) : Nat :=
  books.failCount + if isStopWorthy code opts.continueOnWarning then 1 else 0

theorem failCount_countFailure (code : ExitCode) :
    (books.countFailure opts code).failCount = books.failCountAfter opts code := by
  unfold countFailure failCountAfter
  by_cases hstop : isStopWorthy code opts.continueOnWarning = true
  · rw [if_pos hstop, if_pos hstop]
  · rw [if_neg hstop, if_neg hstop, Nat.add_zero]

@[simp] theorem failCount_complete (result : DispatchResult) (index : Nat)
    (line : PreparedLine Cmd) :
    (books.complete opts result index line).failCount =
      books.failCountAfter opts (lineCode line result) :=
  failCount_countFailure opts _ _

@[simp] theorem failCount_finish (code : ExitCode) (index : Nat) (line : PreparedLine Cmd) :
    (books.finish code index line).failCount = books.failCount := rfl

@[simp] theorem failCount_join (result : JoinResult) (index : Nat) (line : PreparedLine Cmd) :
    (books.join result index line).failCount = books.failCount := by
  cases result <;> rfl

@[simp] theorem failCount_settle (result : DispatchResult) (index : Nat)
    (line : PreparedLine Cmd) :
    (books.settle opts result index line).failCount =
      books.failCountAfter opts (lineCode line result) :=
  failCount_countFailure opts _ _

@[simp] theorem failCount_skip (count : Nat) :
    (books.skip count).failCount = books.failCount := rfl

/-- Once the threshold is reached, further failures keep it reached. -/
theorem reached_failCountAfter (opts : ExecutorOptions) (books : Books Cmd) (code : ExitCode)
    (hreached : opts.reached books.failCount = true) :
    opts.reached (books.failCountAfter opts code) = true := by
  rw [ExecutorOptions.reached_iff] at hreached ⊢
  obtain ⟨threshold, hthreshold, hle⟩ := hreached
  exact ⟨threshold, hthreshold, hle.trans (Nat.le_add_right _ _)⟩

/-- The failure just counted reaches the threshold, or it was reached before. -/
theorem tripped_iff {opts : ExecutorOptions} {before after : Books Cmd} {code : ExitCode}
    (hcount : after.failCount = before.failCountAfter opts code) :
    after.Tripped opts ↔ before.Tripped opts ∨ after.trips opts code = true := by
  have hmono := reached_failCountAfter opts before code
  rw [← hcount] at hmono
  unfold Tripped trips
  unfold failCountAfter at hcount
  by_cases hstop : isStopWorthy code opts.continueOnWarning = true
  · rw [if_pos hstop] at hcount
    rw [hstop, Bool.true_and]
    constructor
    · intro htripped
      exact Or.inr htripped.1
    · rintro (htripped | htrips)
      · exact ⟨hmono htripped.1, by omega⟩
      · exact ⟨htrips, by omega⟩
  · rw [if_neg hstop, Nat.add_zero] at hcount
    simp only [hcount, hstop, Bool.false_and, Bool.false_eq_true, or_false]

/-! ## The codes in the history are the lines' own -/

/-- Every code in the history is what its line returned, and the failure counter
counts the stop-worthy ones. -/
structure Coded (dispatch : Nat → DispatchResult) : Prop where
  code_eq : ∀ index flight, books.flights[index]? = some flight →
    ∀ code, flight.phase.code? = some code → code = lineCode flight.line (dispatch index)
  failCount_eq : books.failCount = books.stopWorthyCount opts

variable {opts books} {dispatch : Nat → DispatchResult}

theorem coded_empty : ({} : Books Cmd).Coded opts dispatch :=
  ⟨by simp, rfl⟩

theorem Coded.launch (hcoded : books.Coded opts dispatch) (line : PreparedLine Cmd) :
    (books.launch line).Coded opts dispatch := by
  constructor
  · intro index flight hflight code hcode
    rw [flights_launch, List.getElem?_append] at hflight
    split at hflight
    · exact hcoded.code_eq index flight hflight code hcode
    · have hrunning : flight = ⟨line, .running⟩ := by
        simpa using List.mem_of_getElem? hflight
      subst hrunning
      cases hcode
  · simp only [failCount_launch, hcoded.failCount_eq, stopWorthyCount, flights_launch,
      List.countP_append, List.countP_singleton, Phase.stopWorthy, Phase.code?_running,
      Option.any_none, Bool.false_eq_true, if_false, Nat.add_zero]

/-- A line comes back with its code. -/
theorem Coded.returned (hcoded : books.Coded opts dispatch) {next : Books Cmd} {index : Nat}
    {line : PreparedLine Cmd} {phase : Phase}
    (hold : books.flights[index]? = some ⟨line, .running⟩)
    (hcode : phase.code? = some (lineCode line (dispatch index)))
    (hflights : next.flights = books.flights.set index ⟨line, phase⟩)
    (hcount : next.failCount = books.failCountAfter opts (lineCode line (dispatch index))) :
    next.Coded opts dispatch := by
  constructor
  · intro other flight hflight code hcode'
    rw [hflights, List.getElem?_set] at hflight
    split at hflight
    next heq =>
      subst heq
      split at hflight
      · cases hflight
        exact Option.some.inj (hcode'.symm.trans hcode)
      · cases hflight
    next => exact hcoded.code_eq other flight hflight code hcode'
  · have hset := countP_set_add hold ⟨line, phase⟩ fun flight : Flight Cmd =>
      flight.phase.stopWorthy opts
    simp only [Phase.stopWorthy, hcode, Phase.code?_running, Option.any_none, Option.any_some,
      Bool.false_eq_true, if_false, Nat.add_zero] at hset
    rw [hcount, failCountAfter, hcoded.failCount_eq]
    simp only [stopWorthyCount, Phase.stopWorthy, hflights, hset]

/-- A line that has its code moves on. -/
theorem Coded.advanced (hcoded : books.Coded opts dispatch) {next : Books Cmd} {index : Nat}
    {line : PreparedLine Cmd} {before after : Phase}
    (hold : books.flights[index]? = some ⟨line, before⟩)
    (hflights : next.flights = books.flights.set index ⟨line, after⟩)
    (hcode : after.code? = before.code?) (hcount : next.failCount = books.failCount) :
    next.Coded opts dispatch := by
  constructor
  · intro other flight hflight code hcode'
    rw [hflights, List.getElem?_set] at hflight
    split at hflight
    next heq =>
      subst heq
      split at hflight
      · cases hflight
        exact hcoded.code_eq index ⟨line, before⟩ hold code (hcode ▸ hcode')
      · cases hflight
    next => exact hcoded.code_eq other flight hflight code hcode'
  · rw [hcount, hcoded.failCount_eq, stopWorthyCount, stopWorthyCount, hflights]
    exact (countP_set_of_eq hold ⟨line, after⟩ (by simp only [Phase.stopWorthy, hcode])).symm

/-- A joined line occupies no worker. -/
theorem countP_isOpen_of_isJoined {flights : List (Flight Cmd)}
    (hall : flights.all Flight.isJoined = true) : flights.countP Flight.isOpen = 0 := by
  rw [List.countP_eq_zero]
  intro flight hflight
  have hjoined := List.all_eq_true.mp hall flight hflight
  unfold Flight.isJoined at hjoined
  cases hphase : flight.phase <;> simp_all [Flight.isOpen, Phase.joined?, Phase.ended?]

/-- Once every line has its code, these are the codes of the lines. -/
theorem Coded.codes_eq (hcoded : books.Coded opts dispatch)
    (hall : ∀ flight ∈ books.flights, flight.phase.code?.isSome = true) :
    books.flights.map (fun flight => flight.phase.code?) =
      (lineCodes dispatch books.inFlight).map some := by
  apply List.ext_getElem?
  intro index
  simp only [lineCodes, inFlight, List.getElem?_map, List.getElem?_mapIdx, Option.map_map]
  cases hflight : books.flights[index]? with
  | none => rfl
  | some flight =>
      have hsome := hall flight (List.mem_of_getElem? hflight)
      obtain ⟨code, hcode⟩ := Option.isSome_iff_exists.mp hsome
      have heq := hcoded.code_eq index flight hflight code hcode
      simp only [Option.map_some, Function.comp_apply, hcode, heq]

/-- A selection of codes that takes all of them takes the codes of the lines. -/
theorem Coded.filterMap_eq (hcoded : books.Coded opts dispatch) {select : Phase → Option ExitCode}
    (hselect : ∀ flight ∈ books.flights, ∃ code, select flight.phase = some code ∧
      flight.phase.code? = some code) :
    books.flights.filterMap (fun flight => select flight.phase) =
      lineCodes dispatch books.inFlight := by
  have hcodes := hcoded.codes_eq fun flight hflight => by
    obtain ⟨code, -, hcode⟩ := hselect flight hflight
    rw [hcode]
    rfl
  have hsame : books.flights.filterMap (fun flight => select flight.phase) =
      books.flights.filterMap fun flight => flight.phase.code? := by
    apply List.filterMap_congr
    intro flight hflight
    obtain ⟨code, hcode, hcode'⟩ := hselect flight hflight
    rw [hcode, hcode']
  have hselected := congrArg (List.filterMap id) hcodes
  rw [hsame]
  simpa only [List.filterMap_map, Function.id_comp, List.filterMap_some] using hselected

/-- Once every line is joined, the joined codes are the codes of the lines. -/
theorem Coded.joinedCodes_eq (hcoded : books.Coded opts dispatch)
    (hall : books.allJoined = true) :
    books.joinedCodes = lineCodes dispatch books.inFlight := by
  apply hcoded.filterMap_eq
  intro flight hflight
  have hjoined := List.all_eq_true.mp hall flight hflight
  obtain ⟨code, hcode⟩ := Option.isSome_iff_exists.mp hjoined
  refine ⟨code, hcode, ?_⟩
  cases hphase : flight.phase <;> simp_all [Phase.joined?]

/-- Once every line has its code, the failure counter counts the stop-worthy ones. -/
theorem Coded.failCount_eq_of_codes (hcoded : books.Coded opts dispatch)
    (hall : ∀ flight ∈ books.flights, flight.phase.code?.isSome = true) :
    books.failCount = stopWorthyOf opts (lineCodes dispatch books.inFlight) := by
  have hcodes := congrArg
    (List.countP fun code? => code?.any fun code => isStopWorthy code opts.continueOnWarning)
    (hcoded.codes_eq hall)
  rw [List.countP_map, List.countP_map] at hcodes
  rw [hcoded.failCount_eq]
  exact hcodes

/-- Once every line is joined, the failure counter counts the stop-worthy codes. -/
theorem Coded.failCount_eq_stopWorthyOf (hcoded : books.Coded opts dispatch)
    (hall : books.allJoined = true) :
    books.failCount = stopWorthyOf opts (lineCodes dispatch books.inFlight) := by
  apply hcoded.failCount_eq_of_codes
  intro flight hflight
  have hjoined := List.all_eq_true.mp hall flight hflight
  obtain ⟨code, hcode⟩ := Option.isSome_iff_exists.mp hjoined
  cases hphase : flight.phase <;> simp_all [Phase.joined?]

/-! ## The summary and the worst code are folds over the joined codes -/

/-- The codes recorded so far, in recording order, and the lines dropped without
being dispatched account for the summary and the worst code. -/
def Tallied (order : List ExitCode) (dropped : Nat) (books : Books Cmd) : Prop :=
  books.summary = (tally order).skip dropped ∧ books.worst = worstOf order

theorem tallied_empty : Tallied [] 0 ({} : Books Cmd) := ⟨rfl, rfl⟩

/-- Recording one more code. -/
theorem Tallied.recorded {order : List ExitCode} {dropped : Nat} {next : Books Cmd}
    (htallied : Tallied order dropped books) {code : ExitCode}
    (hsummary : next.summary = books.summary.record code)
    (hworst : next.worst = worseOf books.worst code) :
    Tallied (order ++ [code]) dropped next := by
  constructor
  · rw [hsummary, htallied.1, Summary.record_skip, tally_append]
  · rw [hworst, htallied.2, worstOf_append]

theorem Tallied.skip {order : List ExitCode} {dropped : Nat}
    (htallied : Tallied order dropped books) (count : Nat) :
    Tallied order (dropped + count) (books.skip count) :=
  ⟨by rw [Books.skip, htallied.1, Summary.skip_skip], htallied.2⟩

theorem summary_settle (result : DispatchResult) (index : Nat) (line : PreparedLine Cmd) :
    (books.settle opts result index line).summary =
      books.summary.record (lineCode line result) := by
  simp only [settle, setPhase, countFailure, recordCode, lineCode]
  split <;> rfl

theorem worst_settle (result : DispatchResult) (index : Nat) (line : PreparedLine Cmd) :
    (books.settle opts result index line).worst =
      worseOf books.worst (lineCode line result) := by
  simp only [settle, setPhase, countFailure, recordCode, lineCode]
  split <;> rfl

theorem summary_join (result : JoinResult) (index : Nat) (line : PreparedLine Cmd) :
    (books.join result index line).summary = books.summary.record (joinedCode result) := by
  cases result <;> rfl

theorem worst_join (result : JoinResult) (index : Nat) (line : PreparedLine Cmd) :
    (books.join result index line).worst = worseOf books.worst (joinedCode result) := by
  cases result <;> rfl

theorem tallied_complete {order : List ExitCode} {dropped : Nat}
    (htallied : Tallied order dropped books) (result : DispatchResult) (index : Nat)
    (line : PreparedLine Cmd) : Tallied order dropped (books.complete opts result index line) := by
  unfold complete countFailure
  dsimp only
  split
  · exact htallied
  · exact htallied

end Books

end S7cmd.BatchRun
