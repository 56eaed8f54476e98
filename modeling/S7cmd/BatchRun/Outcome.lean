import S7cmd.BatchRun.Line
import Mathlib.Data.List.MinMax

/-!
# What exit codes mean to a batch

Four tables classify an exit code: whether it counts toward the failure
threshold, how severe it is, and which counter of the summary and of the
progress bar it feeds. The counters of a run are tallies of codes, and the
exit code of a run is the first code of maximal severity.
-/

namespace S7cmd.BatchRun

/-! ## Options -/

/-- The flags of `batch-run` that decide when a run stops. -/
structure BatchRunArgs where
  continueOnError : Bool
  continueOnWarning : Bool
  maxErrors : Option Nat
  deriving DecidableEq, Repr

/-- The failure-stop policy. The flags exclude each other when parsed. -/
def errorThreshold (args : BatchRunArgs) : Option Nat :=
  if args.continueOnError then none else some (args.maxErrors.getD 1)

structure ExecutorOptions where
  workers : Nat
  errorThreshold : Option Nat
  continueOnWarning : Bool
  deriving DecidableEq, Repr

/-- Whether so many stop-worthy outcomes reach the threshold. -/
def ExecutorOptions.reached (opts : ExecutorOptions) (failCount : Nat) : Bool :=
  opts.errorThreshold.any fun threshold => decide (threshold ≤ failCount)

theorem ExecutorOptions.reached_iff {opts : ExecutorOptions} {failCount : Nat} :
    opts.reached failCount = true ↔
      ∃ threshold, opts.errorThreshold = some threshold ∧ threshold ≤ failCount := by
  unfold reached
  cases opts.errorThreshold <;> simp

/-! ## The four tables -/

def isStopWorthy (code : ExitCode) (continueOnWarning : Bool) : Bool :=
  match code with
  | 0 | 130 => false
  | 3 | 4 => !continueOnWarning
  | _ => true

theorem isStopWorthy_iff (code : ExitCode) (continueOnWarning : Bool) :
    isStopWorthy code continueOnWarning = true ↔
      code ≠ 0 ∧ code ≠ 130 ∧ (continueOnWarning = true → code ≠ 3 ∧ code ≠ 4) := by
  unfold isStopWorthy
  split <;> cases continueOnWarning <;> simp_all

/-- How many of these codes count toward the threshold. -/
def stopWorthyOf (opts : ExecutorOptions) (codes : List ExitCode) : Nat :=
  codes.countP fun code => isStopWorthy code opts.continueOnWarning

/-- These codes reach the threshold. -/
def ExecutorOptions.Tripped (opts : ExecutorOptions) (codes : List ExitCode) : Prop :=
  opts.reached (stopWorthyOf opts codes) = true ∧ 0 < stopWorthyOf opts codes

def severityRank (code : ExitCode) : Nat :=
  match code with
  | 0 => 0
  | 1 => 5
  | 2 => 4
  | 3 => 3
  | 4 => 2
  | _ => 1

/-- Ties keep the accumulator `a`. -/
def worseOf (a b : ExitCode) : ExitCode :=
  if severityRank b > severityRank a then b else a

structure Summary where
  ok : Nat := 0
  failed : Nat := 0
  warning : Nat := 0
  skipped : Nat := 0
  deriving DecidableEq, Repr

def Summary.record (summary : Summary) (exitCode : ExitCode) : Summary :=
  match exitCode with
  | 0 => { summary with ok := summary.ok + 1 }
  | 3 | 4 => { summary with warning := summary.warning + 1 }
  | 130 => { summary with skipped := summary.skipped + 1 }
  | _ => { summary with failed := summary.failed + 1 }

/-- The counters of the progress bar; drawing it is left out. -/
structure Progress where
  ok : Nat := 0
  failed : Nat := 0
  warning : Nat := 0
  skipped : Nat := 0
  deriving DecidableEq, Repr

def Progress.tick (progress : Progress) (exitCode : ExitCode) : Progress :=
  match exitCode with
  | 0 => { progress with ok := progress.ok + 1 }
  | 3 | 4 => { progress with warning := progress.warning + 1 }
  | 130 => { progress with skipped := progress.skipped + 1 }
  | _ => { progress with failed := progress.failed + 1 }

/-- `summary.skipped += count` for lines that were never dispatched. -/
def Summary.skip (summary : Summary) (count : Nat) : Summary :=
  { summary with skipped := summary.skipped + count }

@[simp] theorem Summary.skip_skip (summary : Summary) (first second : Nat) :
    (summary.skip first).skip second = summary.skip (first + second) := by
  simp only [skip, Nat.add_assoc]

theorem Summary.record_skip (summary : Summary) (count : Nat) (code : ExitCode) :
    (summary.skip count).record code = (summary.record code).skip count := by
  unfold record skip
  split
  · rfl
  · rfl
  · rfl
  · simp only [Nat.add_right_comm]
  · rfl

/-! ## Tallies -/

/-- The summary of a run in which these codes were recorded. -/
def tally (codes : List ExitCode) : Summary := codes.foldl Summary.record {}

theorem tally_append (codes : List ExitCode) (code : ExitCode) :
    tally (codes ++ [code]) = (tally codes).record code := by
  simp only [tally, List.foldl_append, List.foldl_cons, List.foldl_nil]

/-- Each counter of a summary counts the codes of its bucket. -/
structure Summary.Counts (summary : Summary) (codes : List ExitCode) : Prop where
  ok : summary.ok = codes.countP fun code => code = 0
  warning : summary.warning = codes.countP fun code => code = 3 ∨ code = 4
  skipped : summary.skipped = codes.countP fun code => code = 130
  failed : summary.failed =
    codes.countP fun code => code ≠ 0 ∧ code ≠ 3 ∧ code ≠ 4 ∧ code ≠ 130

theorem Summary.Counts.record {summary : Summary} {codes : List ExitCode}
    (hcounts : summary.Counts codes) (code : ExitCode) :
    (summary.record code).Counts (codes ++ [code]) := by
  obtain ⟨hok, hwarning, hskipped, hfailed⟩ := hcounts
  unfold Summary.record
  split
  all_goals
    constructor <;> simp_all [List.countP_append]

theorem tally_counts (codes : List ExitCode) : (tally codes).Counts codes := by
  induction codes using List.reverseRecOn with
  | nil => exact ⟨rfl, rfl, rfl, rfl⟩
  | append_singleton codes code ih =>
      rw [tally_append]
      exact ih.record code

theorem Summary.Counts.perm {summary : Summary} {first second : List ExitCode}
    (hcounts : summary.Counts first) (hperm : first.Perm second) : summary.Counts second where
  ok := hcounts.ok.trans (hperm.countP_eq _)
  warning := hcounts.warning.trans (hperm.countP_eq _)
  skipped := hcounts.skipped.trans (hperm.countP_eq _)
  failed := hcounts.failed.trans (hperm.countP_eq _)

/-- The counters are determined by the codes they count. -/
theorem Summary.Counts.unique {first second : Summary} {codes : List ExitCode}
    (hfirst : first.Counts codes) (hsecond : second.Counts codes) : first = second := by
  cases first
  cases second
  rw [Summary.mk.injEq]
  exact ⟨hfirst.ok.trans hsecond.ok.symm, hfirst.failed.trans hsecond.failed.symm,
    hfirst.warning.trans hsecond.warning.symm, hfirst.skipped.trans hsecond.skipped.symm⟩

/-- The order in which codes are recorded does not matter to the summary. -/
theorem tally_perm {first second : List ExitCode} (hperm : first.Perm second) :
    tally first = tally second :=
  ((tally_counts first).perm hperm).unique (tally_counts second)

/-- Every recorded code lands in exactly one counter. -/
theorem Summary.Counts.total {summary : Summary} {codes : List ExitCode}
    (hcounts : summary.Counts codes) :
    summary.ok + summary.failed + summary.warning + summary.skipped = codes.length := by
  rw [hcounts.ok, hcounts.failed, hcounts.warning, hcounts.skipped]
  clear hcounts
  induction codes with
  | nil => rfl
  | cons code rest ih =>
      simp only [List.countP_cons, List.length_cons, decide_eq_true_eq]
      -- the four conditions exclude each other and leave no code out
      split_ifs <;> grind

end S7cmd.BatchRun
