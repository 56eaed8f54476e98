import S7cmd.BatchRun.Line
import S7cmd.BatchRun.Redact
import S7cmd.Foundation.ShellWords

/-!
# The `command` field

Every event about a line carries the line's first word beside the redacted text.
That word is taken from the text as it stands, so a line that begins with a secret
`--flag=value` shows the value there.
-/

namespace S7cmd.BatchRun

open Foundation

variable {Cmd : Type}

/-- `command_token`: the first word, if there is one. -/
def commandToken (raw : Text) : Option Text := raw.splitWhitespace.head?

/-- The `command` field of an event. -/
def LogEvent.command : LogEvent Cmd → Option Text
  | .start line => commandToken line.raw.trimEnd
  | .success line _ => commandToken line.raw.trimEnd
  | .warning line _ => commandToken line.raw.trimEnd
  | .skipped line _ => commandToken line.raw.trimEnd
  | .failure line _ => commandToken line.raw.trimEnd
  | .panicked line _ => commandToken line.raw.trimEnd
  | .invalid line _ _ => commandToken line.raw.trimEnd
  -- a join error is about no line in particular
  | .taskPanicked _ => none

theorem lineEvents_command (line : PreparedLine Cmd) (result : DispatchResult) :
    (lineEvents line result).map LogEvent.command =
      match line.kind with
      | .cmd _ => [commandToken line.raw.trimEnd, commandToken line.raw.trimEnd]
      | .invalid _ _ => [commandToken line.raw.trimEnd] := by
  unfold lineEvents executeLineStart executeLineEnd logStart logEnd
  cases line.kind with
  | cmd cmd =>
      cases result with
      | code code =>
          dsimp only
          split <;> rfl
      | panic payload => rfl
  | invalid kind reason => rfl

theorem commandToken_trimEnd (raw : Text) : commandToken raw.trimEnd = commandToken raw := by
  have hsplit := List.rdropWhile_append_rtakeWhile (p := Text.isWhitespace) (l := raw)
  have hblank : ∀ c ∈ raw.rtakeWhile Text.isWhitespace, Text.isWhitespace c = true :=
    fun c hc => List.mem_rtakeWhile_imp hc
  have hwords := Text.splitWhitespace_append_blank raw.trimEnd hblank
  rw [Text.trimEnd, hsplit] at hwords
  rw [commandToken, commandToken, hwords]
  rfl

/-! ## Inline secrets -/

inductive OptionForm where
  /-- `--flag=value` -/
  | equals
  /-- `--flag value` -/
  | spaced (blank : Text)
  deriving DecidableEq, Repr

/-- What stands between the flag and its value. -/
def OptionForm.text : OptionForm → Text
  | .equals => ['=']
  | .spaced blank => blank

/-- The text of a line around the value of a secret option. -/
structure InlineSecret where
  before : Text
  flag : Text
  form : OptionForm
  after : Text
  before_apart : ∀ c ∈ before.getLast?, Text.isWhitespace c = true
  dash : flag.startsWith '-' = true
  bare : '=' ∉ flag
  secret : isSecretFlag flag = true
  solid : flag.Solid
  blank : ∀ blank, form = .spaced blank → blank ≠ [] ∧ ∀ c ∈ blank, Text.isWhitespace c = true
  after_apart : ∀ c ∈ after.head?, Text.isWhitespace c = true

/-- The line with this value. -/
def InlineSecret.raw (secret : InlineSecret) (value : Text) : Text :=
  secret.before ++ (secret.flag ++ (secret.form.text ++ (value ++ secret.after)))

/-- A value without whitespace and quotes that is no option itself. -/
structure PlainValue (value : Text) : Prop where
  solid : value.Solid
  unquoted : ShellWords.singleQuote ∉ value ∧ ShellWords.doubleQuote ∉ value
  plain : value.startsWith '-' = false

namespace InlineSecret

variable (secret : InlineSecret)

theorem flag_ne_nil : secret.flag ≠ [] := by
  intro hnil
  have hdash := secret.dash
  rw [hnil] at hdash
  cases hdash

theorem splitWhitespace_raw (value : Text) :
    (secret.raw value).splitWhitespace = secret.before.splitWhitespace ++
      Text.splitWhitespace (secret.flag ++ (secret.form.text ++ (value ++ secret.after))) :=
  Text.splitWhitespace_append_apart secret.before_apart _

/-- A line that does not begin with the option begins with the same word whatever
the value is, and so does one that begins with the bare flag. -/
theorem commandToken_spaced {blank : Text} (hform : secret.form = .spaced blank) (value : Text) :
    commandToken (secret.raw value) =
      (secret.before.splitWhitespace ++ [secret.flag]).head? := by
  obtain ⟨hne, hblank⟩ := secret.blank blank hform
  obtain ⟨c, rest, rfl⟩ := List.exists_cons_of_ne_nil hne
  have hc := hblank c List.mem_cons_self
  rw [commandToken, splitWhitespace_raw, hform, OptionForm.text, List.cons_append,
    Text.splitWhitespace_append_cons hc, Text.splitWhitespace_solid secret.flag_ne_nil secret.solid]
  simp [List.head?_append]

theorem commandToken_equals (hform : secret.form = .equals) {value : Text}
    (hvalue : PlainValue value) :
    commandToken (secret.raw value) =
      (secret.before.splitWhitespace ++ [secret.flag ++ '=' :: value]).head? := by
  have hsolid : Text.Solid (secret.flag ++ '=' :: value) := by
    have hequals : Text.Solid ['='] := by decide
    exact secret.solid.append (hequals.append hvalue.solid)
  have htoken : Text.splitWhitespace (secret.flag ++ (['='] ++ (value ++ secret.after))) =
      [secret.flag ++ '=' :: value] ++ secret.after.splitWhitespace := by
    rw [← Text.splitWhitespace_solid (by simp) hsolid,
      ← Text.splitWhitespace_append_head secret.after_apart]
    simp
  rw [commandToken, splitWhitespace_raw, hform, OptionForm.text, htoken]
  simp [List.head?_append]

end InlineSecret

/-- The `command` fields of a line's events are the same for two values of a secret
option exactly if the option is not the line's first word in its `--flag=value`
form, or the values are the same. -/
theorem command_independent_iff (lineNo : Nat) (kind : PreparedLineKind Cmd)
    (result : DispatchResult) (secret : InlineSecret) (first second : Text)
    (hfirst : PlainValue first) (hsecond : PlainValue second) :
    (lineEvents ⟨lineNo, secret.raw first, kind⟩ result).map LogEvent.command =
        (lineEvents ⟨lineNo, secret.raw second, kind⟩ result).map LogEvent.command ↔
      secret.form ≠ .equals ∨ secret.before.splitWhitespace ≠ [] ∨ first = second := by
  have htokens : (lineEvents ⟨lineNo, secret.raw first, kind⟩ result).map LogEvent.command =
        (lineEvents ⟨lineNo, secret.raw second, kind⟩ result).map LogEvent.command ↔
      commandToken (secret.raw first) = commandToken (secret.raw second) := by
    rw [lineEvents_command, lineEvents_command]
    dsimp only
    rw [commandToken_trimEnd, commandToken_trimEnd]
    cases kind with
    | cmd cmd => simp
    | invalid kind reason => simp
  rw [htokens]
  cases hform : secret.form with
  | spaced blank => simp [secret.commandToken_spaced hform]
  | equals =>
      rw [secret.commandToken_equals hform hfirst, secret.commandToken_equals hform hsecond]
      cases hbefore : secret.before.splitWhitespace with
      | nil => simp
      | cons word rest => simp

/-- A line that begins with a secret option, which makes it invalid. -/
def leadingSecret : InlineSecret where
  before := []
  flag := "--target-secret-access-key".toList
  form := .equals
  after := " head-bucket s3://b".toList
  before_apart := nofun
  dash := by decide
  bare := by decide
  secret := by decide +kernel
  solid := by decide
  blank := nofun
  after_apart := fun c hc => (Option.some.inj hc : ' ' = c) ▸ by decide

/-- The option behind the name of the subcommand. -/
def trailingSecret : InlineSecret :=
  { leadingSecret with
    before := "head-bucket ".toList
    before_apart := fun c hc => (Option.some.inj hc : ' ' = c) ▸ by decide }

theorem plainValue_first : PlainValue "wJalrXUt".toList :=
  ⟨by decide, by decide, by decide⟩

theorem plainValue_second : PlainValue "nFEMIsup".toList :=
  ⟨by decide, by decide, by decide⟩

/-- A line that failed to parse. -/
def unparsedLine (raw : Text) : PreparedLine Unit := ⟨1, raw, .invalid .parse []⟩

theorem command_independent_behind_subcommand :
    (lineEvents (unparsedLine (trailingSecret.raw "wJalrXUt".toList)) (.code 0)).map
        LogEvent.command =
      (lineEvents (unparsedLine (trailingSecret.raw "nFEMIsup".toList)) (.code 0)).map
        LogEvent.command :=
  (command_independent_iff 1 _ _ _ _ _ plainValue_first plainValue_second).mpr
    (Or.inr (Or.inl (by decide)))

/-- At the beginning of an invalid line the value of the option is the command. -/
theorem leading_secret_shows :
    ¬ ∀ (line : PreparedLine Unit) (result : DispatchResult) (secret : InlineSecret)
      (first second : Text), PlainValue first → PlainValue second →
        (lineEvents { line with raw := secret.raw first } result).map LogEvent.command =
          (lineEvents { line with raw := secret.raw second } result).map LogEvent.command := by
  intro hclaim
  have hsame := hclaim (unparsedLine []) (.code 0) leadingSecret _ _ plainValue_first
    plainValue_second
  exact absurd hsame (by decide +kernel)

end S7cmd.BatchRun
