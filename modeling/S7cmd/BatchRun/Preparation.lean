import S7cmd.BatchRun.Line
import S7cmd.BatchRun.LineReader
import S7cmd.Foundation.ForkJoin

/-!
# Preparing the lines of a script

A line is split into words, parsed, and validated. Whatever fails becomes part
of the prepared line, so that preparing never does. Many lines are prepared by
several threads that each take a run of them.
-/

namespace S7cmd.BatchRun

open Foundation

/-- What clap makes of an argument vector. -/
structure Cli (Cmd : Type) where
  command : Option Cmd
  deriving DecidableEq, Repr

/-- The code that decides on a single line, and the texts of the errors that are
not this program's own. -/
structure LineChecks (Cmd : Type) where
  shlexSplit : Text → Option (List Text)
  parseLineArgv : List Text → Except Text (Cli Cmd)
  validate : Nat → Text → Cmd → Except Text Unit
  utf8ErrorText : List UInt8 → Text

inductive ParsedLineKind where
  | ok (argv : List Text)
  | tokenizeError (message : Text)
  deriving DecidableEq, Repr

/-- What becomes of the tokens of a line; nothing of a blank line or a comment. -/
def ParsedLineKind.ofTokens : Except Text (Option (List Text)) → Option ParsedLineKind
  | .ok none => none
  | .ok (some argv) => some (.ok argv)
  | .error message => some (.tokenizeError message)

structure ParsedLine where
  lineNo : Nat
  raw : Text
  kind : ParsedLineKind
  deriving DecidableEq, Repr

/-- Collapse a message into one line. -/
def flatten (msg : Text) : Text :=
  Text.join [' '] ((msg.lines.map Text.trim).filter (· ≠ []))

/-- The first line of a clap error that is not empty, without its `error: `. -/
def clapErrorSummary (msg : Text) : Text :=
  let first : Text := ((msg.lines.map Text.trim).find? (· ≠ [])).getD "parse error".toList
  (Text.stripPrefix first "error: ".toList).getD first

variable {Cmd : Type} (checks : LineChecks Cmd)

/-- The words of a line behind the program's name; `none` for a blank line or a
comment. -/
def tokenizeLine (line : Text) : Except Text (Option (List Text)) :=
  let trimmed := line.trim
  if trimmed = [] ∨ trimmed.startsWith '#' then .ok none
  else match checks.shlexSplit trimmed with
    | none => .error "malformed quoting".toList
    | some [] => .ok none
    | some tokens => .ok (some ("s7cmd".toList :: tokens))

/-- The command of a line, or the stage that failed and why. -/
def buildPreparedKind (lineNo : Nat) (raw : Text) :
    ParsedLineKind → Except (InvalidKind × Text) (PreparedLineKind Cmd)
  | .tokenizeError message => .error (.tokenize, message)
  | .ok argv =>
      match checks.parseLineArgv argv with
      | .error message => .error (.parse, clapErrorSummary message)
      | .ok cli =>
          match cli.command with
          | none => .error (.empty, "empty command".toList)
          | some cmd =>
              match checks.validate lineNo raw cmd with
              | .error message => .error (.validate, flatten message)
              | .ok () => .ok (.cmd cmd)

def tryPrepare (parsed : ParsedLine) : PreparedLine Cmd :=
  { lineNo := parsed.lineNo
    raw := parsed.raw
    kind := match buildPreparedKind checks parsed.lineNo parsed.raw parsed.kind with
      | .ok kind => kind
      | .error (kind, reason) => .invalid kind reason }

/-! ## Preparing in parallel -/

/-- Below this many lines the threads are not worth their start. -/
def parallelThreshold : Nat := 256

/-- What each of some workers takes of a list, the same number of items as far
as they last. -/
def takeChunks {α : Type} (size : Nat) : Nat → List α → List (List α)
  | 0, _ => []
  | workers + 1, items => items.take size :: takeChunks size workers (items.drop size)

/-- `parse_and_validate`; the number of hardware threads may be unknown. -/
def parseAndValidate (availableParallelism : Option Nat) (parsed : List ParsedLine) :
    List (PreparedLine Cmd) :=
  let total := parsed.length
  if total < parallelThreshold then parsed.map (tryPrepare checks)
  else
    let workers := min (availableParallelism.getD 1) total
    if workers ≤ 1 then parsed.map (tryPrepare checks)
    else
      let chunkSize := (total + workers - 1) / workers
      let chunks := (takeChunks chunkSize workers parsed).filter (· ≠ [])
      (chunks.map (List.map (tryPrepare checks))).flatten

/-- The workers take the whole list when there is room for it. -/
theorem takeChunks_flatten {α : Type} (size : Nat) {workers : Nat} {items : List α}
    (hroom : items.length ≤ size * workers) : (takeChunks size workers items).flatten = items := by
  induction workers generalizing items with
  | zero =>
      rw [Nat.mul_zero, Nat.le_zero, List.length_eq_zero_iff] at hroom
      rw [hroom]
      rfl
  | succ workers ih =>
      have hrest : (items.drop size).length ≤ size * workers := by
        rw [List.length_drop]
        rw [Nat.mul_succ] at hroom
        omega
      rw [takeChunks, List.flatten_cons, ih hrest, List.take_append_drop]

/-- Rounding the quotient up leaves room for every item. -/
theorem le_ceil_mul {total workers : Nat} (hworkers : 0 < workers) :
    total ≤ (total + workers - 1) / workers * workers := by
  have hdiv := Nat.div_add_mod (total + workers - 1) workers
  have hmod := Nat.mod_lt (total + workers - 1) hworkers
  rw [Nat.mul_comm] at hdiv
  omega

/-- The chunks of the threads, if there are threads. -/
def threadChunks (availableParallelism : Option Nat) (parsed : List ParsedLine) :
    Option (List (List ParsedLine)) :=
  let total := parsed.length
  if total < parallelThreshold then none
  else
    let workers := min (availableParallelism.getD 1) total
    if workers ≤ 1 then none
    else
      let chunkSize := (total + workers - 1) / workers
      some ((takeChunks chunkSize workers parsed).filter (· ≠ []))

theorem threadChunks_flatten {availableParallelism : Option Nat} {parsed : List ParsedLine}
    {chunks : List (List ParsedLine)}
    (hchunks : threadChunks availableParallelism parsed = some chunks) :
    chunks.flatten = parsed := by
  unfold threadChunks at hchunks
  dsimp only at hchunks
  split at hchunks
  next => cases hchunks
  next =>
    split at hchunks
    next => cases hchunks
    next hworkers =>
      cases hchunks
      rw [List.flatten_filter_ne_nil]
      apply takeChunks_flatten
      apply le_ceil_mul
      omega

/-- What the threads return does not depend on their being threads. -/
theorem parseAndValidate_chunks (availableParallelism : Option Nat) (parsed : List ParsedLine) :
    parseAndValidate checks availableParallelism parsed =
      match threadChunks availableParallelism parsed with
      | none => parsed.map (tryPrepare checks)
      | some chunks => (chunks.map (List.map (tryPrepare checks))).flatten := by
  unfold parseAndValidate threadChunks
  dsimp only
  split
  · rfl
  · split <;> rfl

/-- The threads lose no line and keep the order. -/
theorem parseAndValidate_eq (availableParallelism : Option Nat) (parsed : List ParsedLine) :
    parseAndValidate checks availableParallelism parsed = parsed.map (tryPrepare checks) := by
  rw [parseAndValidate_chunks]
  cases hchunks : threadChunks availableParallelism parsed with
  | none => rfl
  | some chunks =>
      dsimp only
      rw [← List.map_flatten, threadChunks_flatten hchunks]

/-- The scoped threads of `parse_and_validate`. -/
abbrev preparingThreads (chunks : List (List ParsedLine)) :
    System (ForkJoin ParsedLine (PreparedLine Cmd)) ForkJoin.Turn :=
  ForkJoin.system (tryPrepare checks) chunks

/-- Some run of `parse_and_validate` returns these lines, in some order of the turns of
its threads. -/
def Prepares (availableParallelism : Option Nat) (parsed : List ParsedLine)
    (prepared : List (PreparedLine Cmd)) : Prop :=
  match threadChunks availableParallelism parsed with
  | none => prepared = parsed.map (tryPrepare checks)
  | some chunks =>
      ∃ state, (preparingThreads checks chunks).Reachable state ∧ state.result = some prepared

/-- Every order of the threads' turns comes to the same end. -/
theorem prepares_iff (availableParallelism : Option Nat) (parsed : List ParsedLine)
    (prepared : List (PreparedLine Cmd)) :
    Prepares checks availableParallelism parsed prepared ↔
      prepared = parsed.map (tryPrepare checks) := by
  unfold Prepares
  cases hchunks : threadChunks availableParallelism parsed with
  | none => exact Iff.rfl
  | some chunks =>
      dsimp only
      have hflatten := threadChunks_flatten hchunks
      constructor
      · rintro ⟨state, hreach, hresult⟩
        rw [ForkJoin.result_eq_map hreach hresult, hflatten]
      · rintro rfl
        obtain ⟨state, hreturned, hreach⟩ :=
          (ForkJoin.inevitably_returns (tryPrepare checks) chunks).exists_goal
            (preparingThreads checks chunks).Reachable
            (fun _ _ _ hstate _ hstep => hstate.step hstep) System.reachable_initial
        obtain ⟨out, hresult⟩ := Option.isSome_iff_exists.mp hreturned
        refine ⟨state, hreach, ?_⟩
        rw [hresult, ForkJoin.result_eq_map hreach hresult, hflatten]

/-- However many lines and threads there are and in whatever order the threads take their
turns, `parse_and_validate` returns, and it returns every line prepared, once and in
order. -/
theorem preparation_is_map (availableParallelism : Option Nat) (parsed : List ParsedLine) :
    parseAndValidate checks availableParallelism parsed = parsed.map (tryPrepare checks) ∧
      (∀ prepared, Prepares checks availableParallelism parsed prepared ↔
        prepared = parsed.map (tryPrepare checks)) ∧
      ∀ chunks, threadChunks availableParallelism parsed = some chunks →
        (preparingThreads checks chunks).Inevitably (fun _ => True)
          (fun state => state.result.isSome = true) { chunks } :=
  ⟨parseAndValidate_eq checks availableParallelism parsed,
    prepares_iff checks availableParallelism parsed,
    fun chunks _ => ForkJoin.inevitably_returns (tryPrepare checks) chunks⟩

end S7cmd.BatchRun
