import S7cmd.Text

/-!
# Prepared lines and the execution of one line

A line is a command ready to dispatch or a line that failed preparation.
Executing it yields an exit code whatever happens: a panic in the dispatched
command and an invalid line have codes of their own.
-/

namespace S7cmd.BatchRun

/-- A process exit code. The source's `i32`; no arithmetic is done on it. -/
abbrev ExitCode := Int

/-- Why a line failed preparation, as logged in `invalid_kind`. -/
inductive InvalidKind where
  | tokenize
  | parse
  | empty
  | validate
  deriving DecidableEq, Repr

def InvalidKind.asStr : InvalidKind → Text
  | .tokenize => "tokenize".toList
  | .parse => "parse".toList
  | .empty => "empty".toList
  | .validate => "validate".toList

inductive PreparedLineKind (Cmd : Type) where
  | cmd (cmd : Cmd)
  | invalid (kind : InvalidKind) (reason : Text)
  deriving DecidableEq, Repr

structure PreparedLine (Cmd : Type) where
  lineNo : Nat
  raw : Text
  kind : PreparedLineKind Cmd
  deriving DecidableEq, Repr

/-- The code of an invalid line, clap's convention for argument errors. -/
def exitCodeInvalidLine : ExitCode := 2

/-- The code of a command that panicked. -/
def exitCodePanic : ExitCode := 101

/-- What a panic carries: the two string types `panic_message` recognises, or
anything else. -/
inductive PanicPayload where
  | staticStr (message : Text)
  | string (message : Text)
  | other
  deriving DecidableEq, Repr

def panicMessage : PanicPayload → Text
  | .staticStr message => message
  | .string message => message
  | .other => "unknown panic payload".toList

/-- How a dispatched command ends: with an exit code, or by unwinding into the
`catch_unwind` around it. -/
inductive DispatchResult where
  | code (code : ExitCode)
  | panic (payload : PanicPayload)
  deriving DecidableEq, Repr

/-- Structured log entries about the lines of a run. Each names the line it is
about; its text fields are rendered from that line. -/
inductive LogEvent (Cmd : Type) where
  | start (line : PreparedLine Cmd)
  | success (line : PreparedLine Cmd) (code : ExitCode)
  | warning (line : PreparedLine Cmd) (code : ExitCode)
  | skipped (line : PreparedLine Cmd) (code : ExitCode)
  | failure (line : PreparedLine Cmd) (code : ExitCode)
  | panicked (line : PreparedLine Cmd) (message : Text)
  | invalid (line : PreparedLine Cmd) (kind : InvalidKind) (reason : Text)
  | taskPanicked (error : Text)
  deriving DecidableEq, Repr

variable {Cmd : Type}

def logStart (line : PreparedLine Cmd) : LogEvent Cmd := .start line

/-- The level and name of the outcome event follow the exit code. -/
def logEnd (line : PreparedLine Cmd) (code : ExitCode) : LogEvent Cmd :=
  match code with
  | 0 => .success line code
  | 3 | 4 => .warning line code
  | 130 => .skipped line code
  | _ => .failure line code

/-- `execute_line` up to its await: only a command logs that it starts. -/
def executeLineStart (line : PreparedLine Cmd) : List (LogEvent Cmd) :=
  match line.kind with
  | .cmd _ => [logStart line]
  | .invalid _ _ => []

/-- `execute_line` after its await, with what it returns. An invalid line never
awaits and ignores the dispatch result. -/
def executeLineEnd (line : PreparedLine Cmd) (result : DispatchResult) :
    List (LogEvent Cmd) × Nat × ExitCode :=
  match line.kind, result with
  | .cmd _, .code code => ([logEnd line code], line.lineNo, code)
  | .cmd _, .panic payload => ([.panicked line (panicMessage payload)], line.lineNo, exitCodePanic)
  | .invalid kind reason, _ => ([.invalid line kind reason], line.lineNo, exitCodeInvalidLine)

/-- The events `execute_line` emits for a line. -/
def lineEvents (line : PreparedLine Cmd) (result : DispatchResult) : List (LogEvent Cmd) :=
  executeLineStart line ++ (executeLineEnd line result).1

/-- The exit code a line is recorded with. -/
def lineCode (line : PreparedLine Cmd) (result : DispatchResult) : ExitCode :=
  (executeLineEnd line result).2.2

/-- The codes of consecutive lines, each with its own dispatch result. -/
def lineCodes (dispatch : Nat → DispatchResult) (lines : List (PreparedLine Cmd)) :
    List ExitCode :=
  lines.mapIdx fun index line => lineCode line (dispatch index)

@[simp] theorem lineCodes_length (dispatch : Nat → DispatchResult)
    (lines : List (PreparedLine Cmd)) : (lineCodes dispatch lines).length = lines.length := by
  simp only [lineCodes, List.length_mapIdx]

end S7cmd.BatchRun
