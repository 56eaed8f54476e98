import S7cmd.BatchRun.Outcome

/-!
# The events of a line

The names of outcome events classify outcomes a fifth time, from what a line ran
into as well as from its exit code. Each table of exit codes counts the events of
one kind: over one line, and so over consecutive lines.
-/

namespace S7cmd.BatchRun

variable {Cmd : Type}

/-! ## Names of events -/

/-- The `event` field. -/
inductive EventName where
  | start
  | success
  | warning
  | skipped
  | failure
  | panicked
  | invalid
  deriving DecidableEq, Repr

/-- A join error is logged without an `event` field. -/
def LogEvent.name : LogEvent Cmd → Option EventName
  | .start _ => some .start
  | .success _ _ => some .success
  | .warning _ _ => some .warning
  | .skipped _ _ => some .skipped
  | .failure _ _ => some .failure
  | .panicked _ _ => some .panicked
  | .invalid _ _ _ => some .invalid
  | .taskPanicked _ => none

/-- The line an event is about. -/
def LogEvent.line? : LogEvent Cmd → Option (PreparedLine Cmd)
  | .start line => some line
  | .success line _ => some line
  | .warning line _ => some line
  | .skipped line _ => some line
  | .failure line _ => some line
  | .panicked line _ => some line
  | .invalid line _ _ => some line
  | .taskPanicked _ => none

/-- The events of lines that failed. -/
def EventName.isFailed : EventName → Bool
  | .failure | .panicked | .invalid => true
  | _ => false

/-- The outcomes that count toward the threshold. -/
def EventName.counts (continueOnWarning : Bool) : EventName → Bool
  | .failure | .panicked | .invalid => true
  | .warning => !continueOnWarning
  | _ => false

/-- How many events of the log have a name of this kind. -/
def eventCount (kind : EventName → Bool) (log : List (LogEvent Cmd)) : Nat :=
  log.countP fun event => event.name.any kind

/-! ## One line -/

/-- A command logs that it starts and then how it ended, an invalid line only that
it is invalid. -/
theorem lineEvents_shape (line : PreparedLine Cmd) (result : DispatchResult) :
    (∀ cmd, line.kind = .cmd cmd → ∃ outcome name,
      lineEvents line result = [.start line, outcome] ∧ outcome.line? = some line ∧
        outcome.name = some name ∧ name ≠ .start ∧ name ≠ .invalid) ∧
      ∀ kind reason, line.kind = .invalid kind reason →
        lineEvents line result = [.invalid line kind reason] := by
  constructor
  · intro cmd hkind
    unfold lineEvents executeLineStart executeLineEnd logStart
    rw [hkind]
    cases result with
    | code code =>
        dsimp only [logEnd]
        split
        · exact ⟨_, .success, rfl, rfl, rfl, by decide, by decide⟩
        · exact ⟨_, .warning, rfl, rfl, rfl, by decide, by decide⟩
        · exact ⟨_, .warning, rfl, rfl, rfl, by decide, by decide⟩
        · exact ⟨_, .skipped, rfl, rfl, rfl, by decide, by decide⟩
        · exact ⟨_, .failure, rfl, rfl, rfl, by decide, by decide⟩
    | panic payload => exact ⟨_, .panicked, rfl, rfl, rfl, by decide, by decide⟩
  · intro kind reason hkind
    unfold lineEvents executeLineStart executeLineEnd
    rw [hkind]
    rfl

/-- A kind of outcome event is that of the exit codes in this table. -/
structure Classifies (kind : EventName → Bool) (table : ExitCode → Bool) : Prop where
  start : kind .start = false
  success : table 0 = kind .success
  warning : table 3 = kind .warning
  notFound : table 4 = kind .warning
  skipped : table 130 = kind .skipped
  failure : ∀ code, code ≠ 0 → code ≠ 3 → code ≠ 4 → code ≠ 130 → table code = kind .failure
  panicked : kind .panicked = kind .failure
  invalid : kind .invalid = kind .failure

theorem eventCount_append (kind : EventName → Bool) (first second : List (LogEvent Cmd)) :
    eventCount kind (first ++ second) = eventCount kind first + eventCount kind second :=
  List.countP_append

/-- The level that `log_end` picks for a code. -/
theorem name_logEnd {kind : EventName → Bool} {table : ExitCode → Bool}
    (hclassifies : Classifies kind table) (line : PreparedLine Cmd) (code : ExitCode) :
    (logEnd line code).name.any kind = table code := by
  unfold logEnd
  split
  · exact hclassifies.success.symm
  · exact hclassifies.warning.symm
  · exact hclassifies.notFound.symm
  · exact hclassifies.skipped.symm
  next hzero hthree hfour hskipped =>
    exact (hclassifies.failure code hzero hthree hfour hskipped).symm

/-- The outcome event of a line classifies the code the line is recorded with. -/
theorem Classifies.count_line {kind : EventName → Bool} {table : ExitCode → Bool}
    (hclassifies : Classifies kind table) (line : PreparedLine Cmd) (result : DispatchResult) :
    eventCount kind (lineEvents line result) =
      if table (lineCode line result) = true then 1 else 0 := by
  have hfailure := fun code => hclassifies.failure code
  have hstart : eventCount kind (executeLineStart line) = 0 := by
    unfold executeLineStart
    cases line.kind with
    | cmd cmd => simp [eventCount, logStart, LogEvent.name, hclassifies.start]
    | invalid reason text => rfl
  rw [lineEvents, eventCount_append, hstart, Nat.zero_add]
  unfold executeLineEnd lineCode executeLineEnd
  cases line.kind with
  | cmd cmd =>
      cases result with
      | code code => simp only [eventCount, List.countP_singleton, name_logEnd hclassifies]
      | panic payload =>
          have hpanic := hclassifies.failure exitCodePanic (by decide) (by decide) (by decide)
            (by decide)
          simp only [eventCount, List.countP_singleton, LogEvent.name, Option.any_some, hpanic,
            hclassifies.panicked]
  | invalid reason text =>
      have hinvalid := hclassifies.failure exitCodeInvalidLine (by decide) (by decide) (by decide)
        (by decide)
      simp only [eventCount, List.countP_singleton, LogEvent.name, Option.any_some, hinvalid,
        hclassifies.invalid]

theorem classifies_ok : Classifies (· == .success) fun code => decide (code = 0) where
  start := rfl
  success := rfl
  warning := rfl
  notFound := rfl
  skipped := rfl
  failure := fun _ hzero _ _ _ => decide_eq_false hzero
  panicked := rfl
  invalid := rfl

theorem classifies_warning :
    Classifies (· == .warning) fun code => decide (code = 3 ∨ code = 4) where
  start := rfl
  success := rfl
  warning := rfl
  notFound := rfl
  skipped := rfl
  failure := fun _ _ hthree hfour _ => decide_eq_false (not_or.mpr ⟨hthree, hfour⟩)
  panicked := rfl
  invalid := rfl

theorem classifies_skipped : Classifies (· == .skipped) fun code => decide (code = 130) where
  start := rfl
  success := rfl
  warning := rfl
  notFound := rfl
  skipped := rfl
  failure := fun _ _ _ _ hskipped => decide_eq_false hskipped
  panicked := rfl
  invalid := rfl

theorem classifies_failed : Classifies EventName.isFailed fun code =>
    decide (code ≠ 0 ∧ code ≠ 3 ∧ code ≠ 4 ∧ code ≠ 130) where
  start := rfl
  success := rfl
  warning := rfl
  notFound := rfl
  skipped := rfl
  failure := fun _ hzero hthree hfour hskipped =>
    decide_eq_true ⟨hzero, hthree, hfour, hskipped⟩
  panicked := rfl
  invalid := rfl

theorem classifies_stopWorthy (continueOnWarning : Bool) :
    Classifies (EventName.counts continueOnWarning) (isStopWorthy · continueOnWarning) where
  start := rfl
  success := rfl
  warning := rfl
  notFound := rfl
  skipped := rfl
  failure := fun code hzero hthree hfour hskipped =>
    (isStopWorthy_iff code continueOnWarning).mpr ⟨hzero, hskipped, fun _ => ⟨hthree, hfour⟩⟩
  panicked := rfl
  invalid := rfl

/-- What consecutive lines write, each with its own dispatch result. -/
def stories (dispatch : Nat → DispatchResult) (lines : List (PreparedLine Cmd)) :
    List (List (LogEvent Cmd)) :=
  lines.mapIdx fun index line => lineEvents line (dispatch index)

/-- Over a run the events of a kind are as many as the codes in its table. -/
theorem Classifies.count {kind : EventName → Bool} {table : ExitCode → Bool}
    (hclassifies : Classifies kind table) (dispatch : Nat → DispatchResult)
    (lines : List (PreparedLine Cmd)) :
    eventCount kind (stories dispatch lines).flatten = (lineCodes dispatch lines).countP table := by
  induction lines using List.reverseRecOn with
  | nil => rfl
  | append_singleton lines line ih =>
      simp only [stories, lineCodes, List.mapIdx_append, List.mapIdx_cons, List.mapIdx_nil,
        List.flatten_append, List.flatten_singleton, Nat.zero_add] at ih ⊢
      rw [eventCount_append, ih, hclassifies.count_line, List.countP_append, List.countP_singleton]

theorem eventCount_cons (kind : EventName → Bool) (event : LogEvent Cmd)
    (log : List (LogEvent Cmd)) :
    eventCount kind (event :: log) =
      eventCount kind log + if event.name.any kind = true then 1 else 0 :=
  List.countP_cons

/-- Failed lines are logged under one of three names. -/
theorem eventCount_isFailed (log : List (LogEvent Cmd)) :
    eventCount EventName.isFailed log = eventCount (· == .failure) log +
      eventCount (· == .panicked) log + eventCount (· == .invalid) log := by
  induction log with
  | nil => rfl
  | cons event log ih =>
      rw [eventCount_cons, eventCount_cons, eventCount_cons, eventCount_cons, ih]
      -- an event has one name
      cases event.name with
      | none => rfl
      | some name =>
          cases name <;> simp [EventName.isFailed] <;> omega

end S7cmd.BatchRun
