import S7cmd.BatchRun.Readers

/-!
# The readers of a script agree

On one script the three modes see the same lines under the same numbers, fail at
the same line if they fail, and take the same lines for invalid.
-/

namespace S7cmd.BatchRun

open Foundation

variable {Cmd : Type} (checks : LineChecks Cmd)

def PreparedLine.Invalid (line : PreparedLine Cmd) : Prop :=
  ∃ kind reason, line.kind = .invalid kind reason

theorem issueOf_eq_none_iff (source : Text) (line : PreparedLine Cmd) :
    issueOf checks source line = none ↔ ¬ line.Invalid := by
  cases hkind : line.kind <;> simp [issueOf, PreparedLine.Invalid, hkind]

/-- What three readers of the same script do, whatever chunks each gets it in. -/
structure ReadersAgree (availableParallelism : Option Nat) (script : Text)
    (whole streamed checked : Reader) : Prop where
  /-- A script that is read whole is streamed as it is prepared. -/
  whole_read : ∀ parsed, readAll checks whole = .ok parsed →
    (streamingReader checks .quiet (scriptSourceLabel script) streamed).sent =
        parseAndValidate checks availableParallelism parsed ∧
      (streamingReader checks .quiet (scriptSourceLabel script) streamed).result = .ok ()
  /-- A script that fails at a line is streamed up to the line before. -/
  fails_at : ∀ lines error, readScript whole = ⟨lines, some error⟩ →
    readAll checks whole = .error (readErrorText checks (lines.length + 1) error) ∧
      (streamingReader checks .quiet (scriptSourceLabel script) streamed).sent =
        preparedFrom checks 1 lines ∧
      (streamingReader checks .quiet (scriptSourceLabel script) streamed).result = .error
        (scriptSourceLabel script ++ ' ' :: readErrorText checks (lines.length + 1) error)
  /-- The format check has an issue with the scripts that cannot be read to their
  end or have an invalid line. -/
  has_issue : (checkFormatLines checks (scriptSourceLabel script) checked).isSome ↔
    (readScript whole).failure.isSome ∨
      ∃ line ∈ preparedFrom checks 1 (readScript whole).lines, line.Invalid
  /-- It passes the scripts whose preparation has no invalid line. -/
  passes : ∀ stdin openFile, openScript stdin openFile script = .ok checked →
    ((runCheckFormat checks stdin openFile script).1 = 0 ↔
      ∃ parsed, readAll checks whole = .ok parsed ∧
        ∀ line ∈ parseAndValidate checks availableParallelism parsed, ¬ line.Invalid)

theorem readAll_eq (reader : Reader) :
    readAll checks reader = match (readScript reader).failure with
      | none => .ok (parsedFrom checks 1 (readScript reader).lines)
      | some error =>
          .error (readErrorText checks ((readScript reader).lines.length + 1) error) := by
  rw [readAll, readAllLoop_spec, Script.status]
  cases (readScript reader).failure with
  | none => rfl
  | some error => simp [Nat.add_comm]

theorem readAll_eq_ok_iff {reader : Reader} {parsed : List ParsedLine} :
    readAll checks reader = .ok parsed ↔
      (readScript reader).failure = none ∧
        parsedFrom checks 1 (readScript reader).lines = parsed := by
  rw [readAll_eq]
  cases (readScript reader).failure <;> simp

theorem checkFormatLines_eq_none_iff (source : Text) (reader : Reader) :
    checkFormatLines checks source reader = none ↔
      (readScript reader).failure = none ∧
        ∀ line ∈ preparedFrom checks 1 (readScript reader).lines, ¬ line.Invalid := by
  rw [checkFormatLines, checkFormatLoop_spec, Option.or_eq_none_iff, List.findSome?_eq_none_iff,
    Script.status]
  simp only [issueOf_eq_none_iff, Nat.zero_add]
  cases (readScript reader).failure with
  | none => simp
  | some error => simp

theorem runCheckFormat_eq_zero_iff {stdin checked : Reader} {openFile : Text → Except Text Reader}
    {script : Text} (hopen : openScript stdin openFile script = .ok checked) :
    (runCheckFormat checks stdin openFile script).1 = 0 ↔
      checkFormatLines checks (scriptSourceLabel script) checked = none := by
  simp only [runCheckFormat, hopen]
  cases checkFormatLines checks (scriptSourceLabel script) checked with
  | none => simp
  | some issue => simp

/-- The three modes agree on every script, however its bytes reach each of them. -/
theorem readers_agree (availableParallelism : Option Nat) (script : Text)
    {whole streamed checked : Reader} (hstreamed : whole.SameContent streamed)
    (hchecked : whole.SameContent checked) :
    ReadersAgree checks availableParallelism script whole streamed checked := by
  have hstream : streamingReader checks .quiet (scriptSourceLabel script) streamed = _ :=
    streamingLoop_quiet checks _ _ 0 []
  rw [← readScript_congr hstreamed, Script.status] at hstream
  constructor
  · intro parsed hparsed
    obtain ⟨hfailure, rfl⟩ := (readAll_eq_ok_iff checks).mp hparsed
    simp only [hfailure] at hstream
    rw [parseAndValidate_eq, hstream]
    exact ⟨rfl, rfl⟩
  · intro lines error hscript
    rw [hscript] at hstream
    rw [readAll_eq, hscript, hstream]
    simp [Nat.add_comm]
  · rw [← Option.ne_none_iff_isSome, Ne, checkFormatLines_eq_none_iff, not_and_or,
      ← readScript_congr hchecked, ← Option.ne_none_iff_isSome]
    apply or_congr_right
    simp only [not_forall, not_not, exists_prop]
  · intro stdin openFile hopen
    rw [runCheckFormat_eq_zero_iff checks hopen, checkFormatLines_eq_none_iff,
      ← readScript_congr hchecked]
    constructor
    · rintro ⟨hfailure, hvalid⟩
      refine ⟨_, (readAll_eq_ok_iff checks).mpr ⟨hfailure, rfl⟩, ?_⟩
      rwa [parseAndValidate_eq]
    · rintro ⟨parsed, hparsed, hvalid⟩
      obtain ⟨hfailure, rfl⟩ := (readAll_eq_ok_iff checks).mp hparsed
      rw [parseAndValidate_eq] at hvalid
      exact ⟨hfailure, hvalid⟩

/-- A parser that knows `ls` only, for scripts without quotes. -/
def lsOnly : LineChecks Text where
  shlexSplit := fun line => some line.splitWhitespace
  parseLineArgv := fun argv =>
    match argv[1]? with
    | some word =>
        if word = "ls".toList then .ok ⟨some word⟩
        else .error ("error: unrecognized subcommand '".toList ++ word ++ "'\n".toList)
    | none => .ok ⟨none⟩
  validate := fun _ _ _ => .ok ()
  utf8ErrorText := fun _ => "invalid utf-8".toList

/-- `ls`, a comment, a line that is no command and bytes that are no text, in one
piece and in three. -/
def lsScript : Reader :=
  ⟨[⟨[108, 115, 10, 35, 10, 120, 10, 255], by decide⟩], none⟩

def lsScriptCut : Reader :=
  ⟨[⟨[108], by decide⟩, ⟨[115, 10, 35, 10, 120], by decide⟩, ⟨[10, 255], by decide⟩], none⟩

/-- All three fail at its fourth line, behind two lines to prepare. -/
theorem readers_agree_cut :
    lsScript.SameContent lsScriptCut ∧
      readScript lsScript =
        ⟨["ls".toList, "#".toList, "x".toList], some (.invalidUtf8 [255])⟩ ∧
      ReadersAgree lsOnly (some 4) ['-'] lsScript lsScriptCut lsScript :=
  ⟨⟨by decide, rfl⟩, by decide +kernel,
    readers_agree lsOnly (some 4) ['-'] ⟨by decide, rfl⟩ ⟨rfl, rfl⟩⟩

end S7cmd.BatchRun
