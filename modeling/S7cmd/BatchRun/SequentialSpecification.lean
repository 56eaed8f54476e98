import S7cmd.BatchRun.Accounting
import S7cmd.BatchRun.SequentialAgreement

/-!
# What a sequential run without an interrupt does

It dispatches lines until the threshold is reached and exits with the first of the
worst codes. The flags only move the threshold or take warnings out of the count, so
laxer flags never make it stop earlier.
-/

namespace S7cmd.BatchRun

open Foundation

variable {Cmd : Type}

/-- The options of a run, as far as the flags determine them. -/
def BatchRunArgs.executorOptions (args : BatchRunArgs) (workers : Nat) : ExecutorOptions :=
  ⟨workers, errorThreshold args, args.continueOnWarning⟩

/-- The flags as the command line takes them: a number of errors is at least 1. -/
def BatchRunArgs.InRange (args : BatchRunArgs) : Prop :=
  ∀ limit, args.maxErrors = some limit → 1 ≤ limit

/-- The other flags tolerate all that these do: `--continue-on-error`, or at least as
many errors, and warnings if these do. -/
structure BatchRunArgs.LaxerThan (other args : BatchRunArgs) : Prop where
  errors : other.continueOnError = true ∨
    args.continueOnError = false ∧ args.maxErrors.getD 1 ≤ other.maxErrors.getD 1
  warnings : args.continueOnWarning = true → other.continueOnWarning = true

/-- The shortest run of lines from the start of the script with as many stop-worthy
outcomes as the threshold, or all lines if there are fewer. -/
structure UpToThreshold (opts : ExecutorOptions) (dispatch : Nat → DispatchResult)
    (script lines : List (PreparedLine Cmd)) : Prop where
  inOrder : lines <+: script
  shortest : ∀ limit, opts.errorThreshold = some limit → ∀ shorter, shorter <+: lines →
    shorter ≠ lines → stopWorthyOf opts (lineCodes dispatch shorter) < limit
  enough : lines = script ∨ ∃ limit, opts.errorThreshold = some limit ∧
    stopWorthyOf opts (lineCodes dispatch lines) = limit

/-- The first code of maximal severity; 0 if there are no codes. -/
structure FirstOfWorst (codes : List ExitCode) (code : ExitCode) : Prop where
  recorded : codes ≠ [] → code ∈ codes
  worst : ∀ other ∈ codes, severityRank other ≤ severityRank code
  first : ∀ other ∈ codes, severityRank other = severityRank code →
    codes.idxOf code ≤ codes.idxOf other
  empty : codes = [] → code = 0

theorem worstOf_firstOfWorst (codes : List ExitCode) : FirstOfWorst codes (worstOf codes) where
  recorded := worstOf_mem_of_ne_nil
  worst := fun _ hother => severityRank_le_worstOf hother
  first := by
    intro other hother hsame
    have hargmax := argmax_worstOf codes
    by_cases hzero : worstOf codes = 0
    · -- every code is zero, and the first one is at the front
      have hall := (worstOf_eq_zero_iff codes).mp hzero
      rw [hzero, hall other hother]
    · have hindex := List.index_of_argmax (Option.mem_def.mpr hargmax)
        (List.mem_cons_of_mem 0 hother) hsame.ge
      have hne : other ≠ 0 := by
        intro heq
        rw [heq, severityRank_zero] at hsame
        exact hzero ((severityRank_eq_zero_iff _).mp hsame.symm)
      rw [List.idxOf_cons_ne _ (Ne.symm hzero), List.idxOf_cons_ne _ (Ne.symm hne)] at hindex
      exact Nat.le_of_succ_le_succ hindex
  empty := by
    rintro rfl
    rfl

/-! ## The threshold -/

section Threshold

variable {opts : ExecutorOptions} {dispatch : Nat → DispatchResult}
  {script lines : List (PreparedLine Cmd)}

/-- A threshold of at least 1 is only reached by stop-worthy outcomes. -/
theorem ExecutorOptions.tripped_iff (hlimit : ∀ limit, opts.errorThreshold = some limit → 1 ≤ limit)
    (codes : List ExitCode) : opts.Tripped codes ↔
      ∃ limit, opts.errorThreshold = some limit ∧ limit ≤ stopWorthyOf opts codes := by
  rw [Tripped, reached_iff]
  constructor
  · exact And.left
  · rintro ⟨limit, hsome, hle⟩
    exact ⟨⟨limit, hsome, hle⟩, (hlimit limit hsome).trans hle⟩

theorem stopsBehind_uninterrupted :
    StopsBehind opts dispatch (fun _ => false) lines ↔ opts.Tripped (lineCodes dispatch lines) := by
  rw [StopsBehind, or_iff_right Bool.false_ne_true]

theorem lineCodes_concat (dispatch : Nat → DispatchResult) (lines : List (PreparedLine Cmd))
    (line : PreparedLine Cmd) : lineCodes dispatch (lines ++ [line]) =
      lineCodes dispatch lines ++ [lineCode line (dispatch lines.length)] := by
  simp only [lineCodes, List.mapIdx_append, List.mapIdx_cons, List.mapIdx_nil, Nat.zero_add]

/-- One more line adds one stop-worthy outcome at most. -/
theorem stopWorthyOf_concat_le (dispatch : Nat → DispatchResult) (lines : List (PreparedLine Cmd))
    (line : PreparedLine Cmd) : stopWorthyOf opts (lineCodes dispatch (lines ++ [line])) ≤
      stopWorthyOf opts (lineCodes dispatch lines) + 1 := by
  rw [lineCodes_concat, stopWorthyOf, stopWorthyOf, List.countP_append, List.countP_singleton]
  split <;> omega

/-- Where an uninterrupted run is cut off, the threshold is just reached. -/
theorem upToThreshold_of_cutOff (hlimit : ∀ limit, opts.errorThreshold = some limit → 1 ≤ limit)
    (hcut : CutOff (StopsBehind opts dispatch fun _ => false) script lines) :
    UpToThreshold opts dispatch script lines := by
  have hshortest : ∀ limit, opts.errorThreshold = some limit → ∀ shorter, shorter <+: lines →
      shorter ≠ lines → stopWorthyOf opts (lineCodes dispatch shorter) < limit := by
    intro limit hsome shorter hinit hne
    by_contra hle
    apply hcut.going shorter hinit hne
    rw [stopsBehind_uninterrupted, opts.tripped_iff hlimit]
    exact ⟨limit, hsome, Nat.le_of_not_lt hle⟩
  refine ⟨hcut.inOrder, hshortest, hcut.stopped.imp_right fun hstops => ?_⟩
  rw [stopsBehind_uninterrupted, opts.tripped_iff hlimit] at hstops
  obtain ⟨limit, hsome, hle⟩ := hstops
  refine ⟨limit, hsome, Nat.le_antisymm ?_ hle⟩
  rcases List.eq_nil_or_concat' lines with rfl | ⟨front, line, rfl⟩
  · exact Nat.zero_le limit
  · -- the lines before the last one do not reach it
    have hfront := hshortest limit hsome front ⟨[line], rfl⟩ (by simp)
    exact (stopWorthyOf_concat_le dispatch front line).trans hfront

end Threshold

/-! ## Laxer flags -/

namespace BatchRunArgs

variable {args other : BatchRunArgs}

theorem InRange.threshold (hrange : args.InRange) (workers : Nat) :
    ∀ limit, (args.executorOptions workers).errorThreshold = some limit → 1 ≤ limit := by
  intro limit hsome
  simp only [executorOptions, errorThreshold] at hsome
  split at hsome
  · cases hsome
  · cases hmax : args.maxErrors with
    | none =>
        rw [hmax] at hsome
        cases hsome
        exact Nat.le_refl 1
    | some most =>
        rw [hmax] at hsome
        cases hsome
        exact hrange most hmax

/-- Tolerating warnings makes no code stop-worthy. -/
theorem LaxerThan.stopWorthyOf_le (hlaxer : other.LaxerThan args) (workers : Nat)
    (codes : List ExitCode) : stopWorthyOf (other.executorOptions workers) codes ≤
      stopWorthyOf (args.executorOptions workers) codes := by
  apply List.countP_mono_left
  intro code _ hworthy
  obtain ⟨hok, hsigint, hwarning⟩ := (isStopWorthy_iff code _).mp hworthy
  exact (isStopWorthy_iff code _).mpr ⟨hok, hsigint, fun htolerates =>
    hwarning (hlaxer.warnings htolerates)⟩

/-- What reaches the laxer threshold reaches the other one. -/
theorem LaxerThan.tripped (hlaxer : other.LaxerThan args) (workers : Nat)
    {codes : List ExitCode} (htripped : (other.executorOptions workers).Tripped codes) :
    (args.executorOptions workers).Tripped codes := by
  obtain ⟨hreached, hpositive⟩ := htripped
  have hcount := hlaxer.stopWorthyOf_le workers codes
  refine ⟨?_, hpositive.trans_le hcount⟩
  obtain ⟨limit, hsome, hle⟩ := ExecutorOptions.reached_iff.mp hreached
  simp only [executorOptions, errorThreshold] at hsome
  split at hsome
  next => cases hsome
  next hstops =>
    cases hsome
    obtain ⟨hcontinue, hmax⟩ := hlaxer.errors.resolve_left hstops
    refine ExecutorOptions.reached_iff.mpr ⟨args.maxErrors.getD 1, ?_, ?_⟩
    · simp [executorOptions, errorThreshold, hcontinue]
    · exact hmax.trans (hle.trans hcount)

end BatchRunArgs

/-- A sequential run that sees no interrupt dispatches just the lines up to the
threshold and exits with the first of their worst codes, and with laxer flags it never
dispatches fewer lines. -/
theorem runSequential_specified (args : BatchRunArgs) (hrange : args.InRange) (workers : Nat)
    (script : List (PreparedLine Cmd)) (dispatch : Nat → DispatchResult) :
    ∃ lines code summary, UpToThreshold (args.executorOptions workers) dispatch script lines ∧
      FirstOfWorst (lineCodes dispatch lines) code ∧
      (runSequential (args.executorOptions workers) script).ReturnsJust dispatch (fun _ => false)
        script lines (code, summary) ∧
      ∀ (other : BatchRunArgs) (more : List (PreparedLine Cmd)) (account : ExitCode × Summary),
        other.LaxerThan args →
        (runSequential (other.executorOptions workers) script).ReturnsJust dispatch
          (fun _ => false) script more account → lines <+: more := by
  obtain ⟨lines, hcut, hreturns⟩ :=
    runSequential_returnsJust (args.executorOptions workers) script dispatch fun _ => false
  refine ⟨lines, _, _, upToThreshold_of_cutOff (hrange.threshold workers) hcut,
    worstOf_firstOfWorst _, hreturns, ?_⟩
  intro other more account hlaxer hmore
  obtain ⟨farther, hfarther, hother⟩ :=
    runSequential_returnsJust (other.executorOptions workers) script dispatch fun _ => false
  obtain ⟨final, hleads, hgiven, hlines, hresult⟩ := hmore.some_run
  have hsame : more = farther :=
    hlines.symm.trans (hother.every_run final _ hleads hgiven hresult).1
  rw [hsame]
  apply hcut.mono _ hfarther
  intro front hstops
  rw [stopsBehind_uninterrupted] at hstops ⊢
  exact hlaxer.tripped workers hstops

/-- `--max-errors 2 --continue-on-warning`. -/
def twoErrors : BatchRunArgs := ⟨false, true, some 2⟩

def warningsBetween : Nat → DispatchResult := fun index => .code (([3, 1, 4, 1, 0, 0][index]?).getD 0)

/-- Six lines of which the second and the fourth fail and the first and the third
warn: the run ends behind the fourth line with code 1. -/
theorem runSequential_two_errors : ∃ code summary, FirstOfWorst [3, 1, 4, 1] code ∧
    (runSequential (twoErrors.executorOptions 1) (sampleScript 6)).ReturnsJust warningsBetween
      (fun _ => false) (sampleScript 6) ((sampleScript 6).take 4) (code, summary) := by
  obtain ⟨lines, code, summary, hupTo, hfirst, hreturns, -⟩ := runSequential_specified twoErrors
    (by rintro limit hlimit; cases hlimit; decide) 1 (sampleScript 6) warningsBetween
  have hlines : lines = (sampleScript 6).take 4 := by
    have hcount : stopWorthyOf (twoErrors.executorOptions 1)
        (lineCodes warningsBetween ((sampleScript 6).take 4)) = 2 := by decide
    rcases Nat.lt_trichotomy lines.length 4 with hlt | heq | hgt
    · -- three lines have one stop-worthy outcome
      have hthree : ∀ count < 4, stopWorthyOf (twoErrors.executorOptions 1)
          (lineCodes warningsBetween ((sampleScript 6).take count)) ≤ 1 := by decide
      have hle := hthree lines.length hlt
      rw [← List.prefix_iff_eq_take.mp hupTo.inOrder] at hle
      rcases hupTo.enough with hall | ⟨limit, hlimit, heq⟩
      · rw [hall] at hlt
        exact absurd hlt (by decide)
      · have htwo : 2 = limit := Option.some.inj hlimit
        omega
    · rw [← heq]
      exact List.prefix_iff_eq_take.mp hupTo.inOrder
    · have hinit : (sampleScript 6).take 4 <+: lines :=
        List.prefix_of_prefix_length_le (List.take_prefix 4 _) hupTo.inOrder hgt.le
      have hless := hupTo.shortest 2 rfl _ hinit fun heq => by
        rw [← heq] at hgt
        exact absurd hgt (by decide)
      exact absurd hless hcount.not_lt
  subst hlines
  exact ⟨code, summary, hfirst, hreturns⟩

end S7cmd.BatchRun
