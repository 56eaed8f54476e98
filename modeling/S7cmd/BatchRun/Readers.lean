import S7cmd.BatchRun.Preparation
import S7cmd.BatchRun.Redact

/-!
# The readers of a script

A script is read in three modes: whole before anything runs, line by line into
the channel of a streaming executor, or only to check its format. Each mode has
its own loop over the lines.
-/

namespace S7cmd.BatchRun

open Foundation

variable {Cmd : Type} (checks : LineChecks Cmd)

def IoError.display : IoError → Text
  | .tooLong => tooLongMessage
  | .invalidUtf8 bytes => checks.utf8ErrorText bytes
  | .source message => message

/-- The text of a read error: where it was and what it was. -/
def readErrorText (lineNo : Nat) (error : IoError) : Text :=
  "read error at line ".toList ++ Nat.toDigits 10 lineNo ++ ": ".toList ++ error.display checks

/-! ## The whole script -/

def readAllLoop (reader : Reader) (lineNo : Nat) (out : List ParsedLine) :
    Except Text (List ParsedLine) :=
  let lineNo := lineNo + 1
  match _hline : readLineCapped reader with
  | (.error error, _) => .error (readErrorText checks lineNo error)
  | (.ok none, _) => .ok out
  | (.ok (some line), rest) =>
      match tokenizeLine checks line with
      | .ok (some argv) =>
          readAllLoop rest lineNo (out ++ [{ lineNo, raw := line, kind := .ok argv }])
      | .ok none => readAllLoop rest lineNo out
      | .error message =>
          readAllLoop rest lineNo (out ++ [{ lineNo, raw := line, kind := .tokenizeError message }])
termination_by reader.content.length
decreasing_by all_goals exact length_content_of_line _hline

def readAll (reader : Reader) : Except Text (List ParsedLine) := readAllLoop checks reader 0 []

/-! ## Line by line -/

/-- What the streaming reader has done when it returns. -/
structure StreamingOutcome (Cmd : Type) where
  sent : List (PreparedLine Cmd)
  /-- Whether it has set the interrupt flag. -/
  interrupt : Bool
  result : Except Text Unit

/-- What the streaming reader meets with: whether Ctrl-C comes before it has a
line, and whether the receiver still takes what it sends. -/
structure StreamingSchedule where
  ctrlC : Nat → Bool
  receives : Nat → Bool

/-- No Ctrl-C, and a receiver that stays. -/
def StreamingSchedule.quiet : StreamingSchedule := ⟨fun _ => false, fun _ => true⟩

def streamingLoop (schedule : StreamingSchedule) (source : Text) (reader : Reader) (lineNo : Nat)
    (sent : List (PreparedLine Cmd)) : StreamingOutcome Cmd :=
  -- the select is biased: a pending Ctrl-C wins over a line that is there
  if schedule.ctrlC lineNo then ⟨sent, true, .ok ()⟩
  else
    match _hline : readLineCappedAsync reader with
    | (.ok none, _) => ⟨sent, false, .ok ()⟩
    | (.error error, _) =>
        ⟨sent, false, .error (source ++ ' ' :: readErrorText checks (lineNo + 1) error)⟩
    | (.ok (some text), rest) =>
        let lineNo := lineNo + 1
        match ParsedLineKind.ofTokens (tokenizeLine checks text) with
        | none => streamingLoop schedule source rest lineNo sent
        | some kind =>
            let prepared := tryPrepare checks { lineNo, raw := text, kind }
            if schedule.receives lineNo then
              streamingLoop schedule source rest lineNo (sent ++ [prepared])
            -- the executor has finished early; not an error
            else ⟨sent, false, .ok ()⟩
termination_by reader.content.length
decreasing_by all_goals exact length_content_of_line _hline

def streamingReader (schedule : StreamingSchedule) (source : Text) (reader : Reader) :
    StreamingOutcome Cmd :=
  streamingLoop checks schedule source reader 0 []

/-! ## The format only -/

/-- The log entry for the first problem of a script. -/
inductive FormatIssue where
  | readError (source : Text) (line : Nat) (error : Text)
  | invalid (source : Text) (line : Nat) (invalidKind reason raw : Text)
  deriving DecidableEq, Repr

def checkFormatLoop (source : Text) (reader : Reader) (lineNo : Nat) : Option FormatIssue :=
  let lineNo := lineNo + 1
  match _hline : readLineCapped reader with
  | (.ok none, _) => none
  | (.error error, _) => some (.readError source lineNo (error.display checks))
  | (.ok (some line), rest) =>
      let raw := redactSecrets checks.shlexSplit line.trimEnd
      match tokenizeLine checks line with
      | .ok none => checkFormatLoop source rest lineNo
      | .error message => some (.invalid source lineNo "tokenize".toList message raw)
      | .ok (some argv) =>
          match checks.parseLineArgv argv with
          | .error message =>
              some (.invalid source lineNo "parse".toList (clapErrorSummary message) raw)
          | .ok cli =>
              match cli.command with
              | none => some (.invalid source lineNo "empty".toList "empty command".toList raw)
              | some cmd =>
                  match checks.validate lineNo line cmd with
                  | .error message =>
                      some (.invalid source lineNo "validate".toList (flatten message) raw)
                  | .ok () => checkFormatLoop source rest lineNo
termination_by reader.content.length
decreasing_by all_goals exact length_content_of_line _hline

/-- `check_format_lines`, which returns true exactly if it has logged an issue. -/
def checkFormatLines (source : Text) (reader : Reader) : Option FormatIssue :=
  checkFormatLoop checks source reader 0

/-- What `--check-format` logs. -/
inductive FormatEvent where
  | openError (source error : Text)
  | issue (issue : FormatIssue)
  | formatOk (source : Text)
  deriving DecidableEq, Repr

def scriptSourceLabel (script : Text) : Text := if script = ['-'] then "stdin".toList else script

/-- The script to read: standard input for `-`, else a file, if it can be opened. -/
def openScript (stdin : Reader) (openFile : Text → Except Text Reader) (script : Text) :
    Except Text Reader :=
  if script = ['-'] then .ok stdin else openFile script

/-- `run_check_format` without the draining of standard input on an error. -/
def runCheckFormat (stdin : Reader) (openFile : Text → Except Text Reader) (script : Text) :
    ExitCode × FormatEvent :=
  let source := scriptSourceLabel script
  match openScript stdin openFile script with
  | .error error => (1, .openError source error)
  | .ok reader =>
      match checkFormatLines checks source reader with
      | some issue => (1, .issue issue)
      | none => (0, .formatOk source)

/-! ## The lines of a script -/

/-- The lines to prepare among consecutive lines, with their numbers. -/
def parsedFrom (start : Nat) (lines : List Text) : List ParsedLine :=
  (lines.zipIdx start).filterMap fun (line, lineNo) =>
    (ParsedLineKind.ofTokens (tokenizeLine checks line)).map fun kind =>
      { lineNo, raw := line, kind }

def preparedFrom (start : Nat) (lines : List Text) : List (PreparedLine Cmd) :=
  (parsedFrom checks start lines).map (tryPrepare checks)

theorem parsedFrom_cons (start : Nat) (line : Text) (rest : List Text) :
    parsedFrom checks start (line :: rest) =
      ((ParsedLineKind.ofTokens (tokenizeLine checks line)).map fun kind =>
        { lineNo := start, raw := line, kind }).toList ++ parsedFrom checks (start + 1) rest := by
  cases hkind : ParsedLineKind.ofTokens (tokenizeLine checks line) <;>
    simp [parsedFrom, List.zipIdx_cons, hkind]

/-- `read_all` collects the lines to prepare unless reading fails. -/
theorem readAllLoop_spec (reader : Reader) (lineNo : Nat) (out : List ParsedLine) :
    readAllLoop checks reader lineNo out =
      match (readScript reader).status (lineNo + 1) with
      | .ok () => .ok (out ++ parsedFrom checks (lineNo + 1) (readScript reader).lines)
      | .error (line, error) => .error (readErrorText checks line error) := by
  fun_induction readAllLoop checks reader lineNo out with
  | case1 reader lineNo out next error rest hline =>
      rw [readScript_unfold, hline]
      rfl
  | case2 reader lineNo out rest hline =>
      rw [readScript_unfold, hline]
      simp [Script.status, parsedFrom]
  | case3 reader lineNo out next line rest hline argv htokens ih =>
      rw [readScript_unfold, hline, ih]
      simp [parsedFrom_cons, htokens, ParsedLineKind.ofTokens, next]
  | case4 reader lineNo out next line rest hline htokens ih =>
      rw [readScript_unfold, hline, ih]
      simp [parsedFrom_cons, htokens, ParsedLineKind.ofTokens, next]
  | case5 reader lineNo out next line rest hline message htokens ih =>
      rw [readScript_unfold, hline, ih]
      simp [parsedFrom_cons, htokens, ParsedLineKind.ofTokens, next]

theorem preparedFrom_cons (start : Nat) (line : Text) (rest : List Text) :
    preparedFrom checks start (line :: rest) =
      ((ParsedLineKind.ofTokens (tokenizeLine checks line)).map fun kind =>
        tryPrepare checks { lineNo := start, raw := line, kind }).toList ++
        preparedFrom checks (start + 1) rest := by
  rw [preparedFrom, parsedFrom_cons, List.map_append]
  cases ParsedLineKind.ofTokens (tokenizeLine checks line) <;> rfl

/-- Undisturbed, the streaming reader sends the prepared lines up to the end or to
the failure. -/
theorem streamingLoop_quiet (source : Text) (reader : Reader) (lineNo : Nat)
    (sent : List (PreparedLine Cmd)) :
    streamingLoop checks .quiet source reader lineNo sent =
      { sent := sent ++ preparedFrom checks (lineNo + 1) (readScript reader).lines
        interrupt := false
        result := match (readScript reader).status (lineNo + 1) with
          | .ok () => .ok ()
          | .error (line, error) =>
              .error (source ++ ' ' :: readErrorText checks line error) } := by
  fun_induction streamingLoop checks .quiet source reader lineNo sent with
  | case1 reader lineNo sent hctrlC => cases hctrlC
  | case2 reader lineNo sent hctrlC rest hline =>
      rw [readScript_unfold, ← readLineCappedAsync_eq, hline]
      simp [Script.status, preparedFrom, parsedFrom]
  | case3 reader lineNo sent hctrlC error rest hline =>
      rw [readScript_unfold, ← readLineCappedAsync_eq, hline]
      simp [Script.status, preparedFrom, parsedFrom]
  | case4 reader lineNo sent hctrlC text rest hline next hkind ih =>
      rw [readScript_unfold, ← readLineCappedAsync_eq, hline, ih]
      simp [preparedFrom_cons, hkind, next]
  | case5 reader lineNo sent hctrlC text rest hline next kind hkind prepared hreceives ih =>
      rw [readScript_unfold, ← readLineCappedAsync_eq, hline, ih]
      simp [preparedFrom_cons, hkind, next, prepared]
  | case6 reader lineNo sent hctrlC text rest hline next kind hkind hreceives =>
      exact absurd rfl hreceives

/-! ## The first problem -/

/-- What the format check says of a prepared line. -/
def issueOf (source : Text) (line : PreparedLine Cmd) : Option FormatIssue :=
  match line.kind with
  | .cmd _ => none
  | .invalid kind reason =>
      some (.invalid source line.lineNo kind.asStr reason
        (redactSecrets checks.shlexSplit line.raw.trimEnd))

theorem findSome?_issueOf {source line : Text} {start : Nat} {kind : ParsedLineKind}
    {issue : FormatIssue} (rest : List Text)
    (hkind : ParsedLineKind.ofTokens (tokenizeLine checks line) = some kind)
    (hissue : issueOf checks source
      (tryPrepare checks { lineNo := start, raw := line, kind }) = some issue) :
    (preparedFrom checks start (line :: rest)).findSome? (issueOf checks source) = some issue := by
  rw [preparedFrom_cons, hkind]
  simp [hissue]

/-- The format check reports the first invalid line, or else the failure to read. -/
theorem checkFormatLoop_spec (source : Text) (reader : Reader) (lineNo : Nat) :
    checkFormatLoop checks source reader lineNo =
      ((preparedFrom checks (lineNo + 1) (readScript reader).lines).findSome?
          (issueOf checks source)).or
        (match (readScript reader).status (lineNo + 1) with
          | .ok () => none
          | .error (line, error) => some (.readError source line (error.display checks))) := by
  fun_induction checkFormatLoop checks source reader lineNo with
  | case1 reader lineNo rest hline =>
      rw [readScript_unfold, hline]
      rfl
  | case2 reader lineNo next error rest hline =>
      rw [readScript_unfold, hline]
      rfl
  | case3 reader lineNo next line rest hline htokens ih =>
      rw [readScript_unfold, hline, ih]
      simp [preparedFrom_cons, htokens, ParsedLineKind.ofTokens, next]
  | case4 reader lineNo next line rest hline raw message htokens =>
      rw [readScript_unfold, hline, Script.lines_cons,
        findSome?_issueOf checks _ (congrArg ParsedLineKind.ofTokens htokens) rfl]
      rfl
  | case5 reader lineNo next line rest hline raw argv htokens message hparse =>
      rw [readScript_unfold, hline, Script.lines_cons,
        findSome?_issueOf checks _ (congrArg ParsedLineKind.ofTokens htokens)
          (by simp only [tryPrepare, buildPreparedKind, hparse]; rfl)]
      rfl
  | case6 reader lineNo next line rest hline raw argv htokens cli hparse hcommand =>
      rw [readScript_unfold, hline, Script.lines_cons,
        findSome?_issueOf checks _ (congrArg ParsedLineKind.ofTokens htokens)
          (by simp only [tryPrepare, buildPreparedKind, hparse, hcommand]; rfl)]
      rfl
  | case7 reader lineNo next line rest hline raw argv htokens cli hparse cmd hcommand message
      hvalid =>
      change checks.validate (lineNo + 1) line cmd = .error message at hvalid
      rw [readScript_unfold, hline, Script.lines_cons,
        findSome?_issueOf checks _ (congrArg ParsedLineKind.ofTokens htokens)
          (by simp only [tryPrepare, buildPreparedKind, hparse, hcommand, hvalid]; rfl)]
      rfl
  | case8 reader lineNo next line rest hline argv htokens cli hparse cmd hcommand hvalid ih =>
      rw [readScript_unfold, hline, ih]
      simp [preparedFrom_cons, htokens, ParsedLineKind.ofTokens, next, issueOf, tryPrepare,
        buildPreparedKind, hparse, hcommand, hvalid, List.findSome?_cons]

end S7cmd.BatchRun
