import S7cmd.BatchRun.ReaderAgreement
import S7cmd.BatchRun.Tokenizing

/-!
# What is read of a script

However an input is cut into chunks, reading it line by line gives its lines as
the newlines separate them, up to the first that is too long or no text.
-/

namespace S7cmd.BatchRun

open Foundation

variable {Cmd : Type}

/-- The lines of an input. A newline at the end begins no further line. -/
def physicalLines (bytes : List UInt8) : List (List UInt8) :=
  let parts := bytes.splitOn newline
  if parts.getLast? = some [] then parts.dropLast else parts

/-- Calling a reader again and again, until it returns no line, gives this script. -/
inductive Yields (readLine : Reader → Except IoError (Option Text) × Reader) :
    Reader → Script → Prop
  | line {reader next : Reader} {text : Text} {script : Script}
      (hread : readLine reader = (.ok (some text), next)) (hrest : Yields readLine next script) :
      Yields readLine reader (script.cons text)
  | ended {reader next : Reader} (hread : readLine reader = (.ok none, next)) :
      Yields readLine reader ⟨[], none⟩
  | failed {reader next : Reader} {error : IoError} (hread : readLine reader = (.error error, next)) :
      Yields readLine reader ⟨[], some error⟩

/-- The loop heads that the calls come to, with the bytes in hand at each. -/
inductive AtLoopHead (start : Reader) : Reader → List UInt8 → Prop
  | start : AtLoopHead start start []
  | turn {reader next : Reader} {buf line : List UInt8} (hhead : AtLoopHead start reader buf)
      (hstep : readLineStep reader buf = .more next line) : AtLoopHead start next line
  | call {reader next : Reader} {buf : List UInt8} {text : Text}
      (hhead : AtLoopHead start reader buf)
      (hstep : readLineStep reader buf = .done (.ok (some text)) next) : AtLoopHead start next []

/-- These lines are read as this script: each is text within the cap, up to the first
that is not, which is the one that fails. -/
structure ReadAs (lines : List (List UInt8)) (script : Script) : Prop where
  texts : List.Forall₂ (fun line text => line.length ≤ maxLineLen ∧ fromUtf8 line = .ok text)
    (lines.take script.lines.length) script.lines
  ended : script.failure = none → script.lines.length = lines.length
  failed : ∀ error, script.failure = some error → ∃ bad, lines[script.lines.length]? = some bad ∧
    (maxLineLen < bad.length ∧ error = .tooLong ∨
      bad.length ≤ maxLineLen ∧ error = .invalidUtf8 bad ∧ String.fromUTF8? ⟨bad.toArray⟩ = none)

/-! ## Lines -/

theorem physicalLines_nil : physicalLines [] = [] := by decide

theorem physicalLines_of_not_mem {bytes : List UInt8} (hne : bytes ≠ [])
    (hunbroken : newline ∉ bytes) : physicalLines bytes = [bytes] := by
  have hsplit : bytes.splitOn newline = [bytes] := by
    rw [List.splitOn_eq_splitOnP]
    apply List.splitOnP_eq_singleton
    intro byte hbyte
    rw [beq_eq_false_iff_ne]
    rintro rfl
    exact hunbroken hbyte
  simp only [physicalLines, hsplit]
  simp [hne]

theorem physicalLines_append {front : List UInt8} (hunbroken : newline ∉ front)
    (later : List UInt8) :
    physicalLines (front ++ newline :: later) = front :: physicalLines later := by
  have hsplit : (front ++ newline :: later).splitOn newline = front :: later.splitOn newline := by
    rw [List.splitOn_eq_splitOnP, List.splitOn_eq_splitOnP, List.splitOnP_append_cons_of_forall_mem]
    · intro byte hbyte
      rw [beq_eq_false_iff_ne]
      rintro rfl
      exact hunbroken hbyte
    · exact beq_self_eq_true newline
  have hne : later.splitOn newline ≠ [] := by
    rw [List.splitOn_eq_splitOnP]
    exact List.splitOnP_ne_nil _ _
  simp only [physicalLines, hsplit, List.getLast?_cons_of_ne_nil hne]
  split
  · rw [List.dropLast_cons_of_ne_nil hne]
  · rfl

/-- The first line, and the lines of what is behind it. -/
theorem physicalLines_of_ne_nil {bytes : List UInt8} (hne : bytes ≠ []) :
    physicalLines bytes =
      Delimited.front newline bytes :: physicalLines (Delimited.after newline bytes) := by
  by_cases hmem : newline ∈ bytes
  · obtain ⟨front, later, rfl, hunbroken⟩ := List.eq_append_cons_of_mem hmem
    rw [physicalLines_append hunbroken, Delimited.front_append hunbroken,
      Delimited.front_cons_self, List.append_nil, Delimited.after_append hunbroken,
      Delimited.after_cons_self]
  · have hafter := Delimited.after_append hmem []
    rw [List.append_nil] at hafter
    rw [physicalLines_of_not_mem hne hmem, Delimited.front_of_not_mem hmem, hafter]
    exact congrArg (bytes :: ·) physicalLines_nil.symm

/-! ## Scripts -/

/-- Without a fault of the source, a line fails at the cap or as no text. -/
theorem lineResult_of_ne_nil {bytes : List UInt8} (hne : bytes ≠ []) :
    lineResult none bytes =
      if maxLineLen < (Delimited.front newline bytes).length then .error .tooLong
      else some <$> fromUtf8 (Delimited.front newline bytes) := by
  simp only [lineResult, hne, if_false]
  split <;> simp

theorem fromUtf8_error {bytes : List UInt8} {error : IoError}
    (herror : fromUtf8 bytes = .error error) :
    error = .invalidUtf8 bytes ∧ String.fromUTF8? ⟨bytes.toArray⟩ = none := by
  unfold fromUtf8 at herror
  split at herror
  · cases herror
  next hnone =>
    cases herror
    exact ⟨rfl, hnone⟩

theorem readAs_nil : ReadAs [] ⟨[], none⟩ := ⟨.nil, fun _ => rfl, nofun⟩

theorem ReadAs.cons {lines : List (List UInt8)} {script : Script} (hrest : ReadAs lines script)
    {line : List UInt8} {text : Text} (hshort : line.length ≤ maxLineLen)
    (htext : fromUtf8 line = .ok text) : ReadAs (line :: lines) (script.cons text) where
  texts := .cons ⟨hshort, htext⟩ hrest.texts
  ended := fun hnone => congrArg Nat.succ (hrest.ended hnone)
  failed := fun error herror => hrest.failed error herror

theorem readAs_failed {line : List UInt8} {lines : List (List UInt8)} {error : IoError}
    (hfailed : maxLineLen < line.length ∧ error = .tooLong ∨
      line.length ≤ maxLineLen ∧ fromUtf8 line = .error error) :
    ReadAs (line :: lines) ⟨[], some error⟩ where
  texts := .nil
  ended := nofun
  failed := by
    rintro failure hfailure
    cases hfailure
    refine ⟨line, rfl, hfailed.imp id fun herror => ?_⟩
    obtain ⟨hinvalid, hnone⟩ := fromUtf8_error herror.2
    exact ⟨herror.1, hinvalid, hnone⟩

/-- An input without a fault is read as its lines. -/
theorem scriptOf_readAs (bytes : List UInt8) :
    ReadAs (physicalLines bytes) (scriptOf none bytes) := by
  induction hlength : bytes.length using Nat.strongRecOn generalizing bytes with
  | ind length ih =>
      rw [scriptOf_unfold]
      by_cases hnil : bytes = []
      · subst hnil
        rw [physicalLines_nil]
        exact readAs_nil
      · rw [physicalLines_of_ne_nil hnil, lineResult_of_ne_nil hnil]
        by_cases hlong : maxLineLen < (Delimited.front newline bytes).length
        · rw [if_pos hlong]
          exact readAs_failed (Or.inl ⟨hlong, rfl⟩)
        · rw [if_neg hlong]
          have hshort := Nat.le_of_not_lt hlong
          cases hutf8 : fromUtf8 (Delimited.front newline bytes) with
          | error error => exact readAs_failed (Or.inr ⟨hshort, hutf8⟩)
          | ok text =>
              have hlt : (Delimited.after newline bytes).length < bytes.length :=
                Delimited.length_after_lt hnil
              exact (ih _ (hlength ▸ hlt) _ rfl).cons hshort hutf8

theorem yields_readScript (reader : Reader) : Yields readLineCapped reader (readScript reader) := by
  fun_induction readScript reader with
  | case1 reader text next hline ih => exact .line hline ih
  | case2 reader rest hline => exact .ended hline
  | case3 reader error rest hline => exact .failed hline

theorem Yields.unique {readLine : Reader → Except IoError (Option Text) × Reader}
    {reader : Reader} {script other : Script} (hscript : Yields readLine reader script)
    (hother : Yields readLine reader other) : other = script := by
  induction hscript generalizing other with
  | line hread hrest ih =>
      cases hother with
      | line hread' hrest' =>
          cases hread.symm.trans hread'
          rw [ih hrest']
      | ended hread' => cases hread.symm.trans hread'
      | failed hread' => cases hread.symm.trans hread'
  | ended hread =>
      cases hother with
      | line hread' => cases hread.symm.trans hread'
      | ended hread' => rfl
      | failed hread' => cases hread.symm.trans hread'
  | failed hread =>
      cases hother with
      | line hread' => cases hread.symm.trans hread'
      | ended hread' => cases hread.symm.trans hread'
      | failed hread' =>
          cases hread.symm.trans hread'
          rfl

theorem AtLoopHead.loopHead {start reader : Reader} {buf : List UInt8}
    (hhead : AtLoopHead start reader buf) : LoopHead buf := by
  induction hhead with
  | start => exact LoopHead.nil
  | turn hhead hstep ih => exact (readLineStep_more ih hstep).1
  | call => exact LoopHead.nil

/-! ## Numbered lines -/

/-- A line that is neither blank nor a comment. -/
def isCommandLine (line : Text) : Bool :=
  match line.trimStart with
  | [] => false
  | c :: _ => c != '#'

theorem isCommandLine_iff (line : Text) :
    isCommandLine line = true ↔ line.trim ≠ [] ∧ line.trim.startsWith '#' = false := by
  unfold isCommandLine Text.trim
  cases hstart : line.trimStart with
  | nil => simp [Text.trimEnd]
  | cons c rest =>
      have hc : Text.isWhitespace c = false := by
        have hhead := List.head_dropWhile_not (p := Text.isWhitespace) (l := line)
        rw [Text.trimStart] at hstart
        simpa only [hstart, List.head_cons] using hhead (by simp [hstart])
      have hne : Text.trimEnd (c :: rest) ≠ [] := by
        intro hnil
        have hall := List.rdropWhile_eq_nil_iff.mp hnil c List.mem_cons_self
        rw [hc] at hall
        cases hall
      obtain ⟨back, hback⟩ := List.rdropWhile_prefix Text.isWhitespace (c :: rest)
      obtain ⟨d, others, hcons⟩ := List.exists_cons_of_ne_nil hne
      rw [Text.trimEnd] at hcons
      rw [hcons, List.cons_append, List.cons.injEq] at hback
      obtain ⟨rfl, -⟩ := hback
      simp [Text.trimEnd, hcons, Text.startsWith]

/-- A line has something to prepare unless it is blank or a comment. -/
theorem ofTokens_isSome {checks : LineChecks Cmd}
    (hshlex : ∀ text, checks.shlexSplit text = ShellWords.split text) (line : Text) :
    (ParsedLineKind.ofTokens (tokenizeLine checks line)).isSome = isCommandLine line := by
  rw [Bool.eq_iff_iff, isCommandLine_iff]
  by_cases hblank : line.trim = []
  · simp [tokenizeLine, hblank, ParsedLineKind.ofTokens]
  · cases hcomment : line.trim.startsWith '#' with
    | true => simp [tokenizeLine, hcomment, ParsedLineKind.ofTokens]
    | false =>
        simp only [tokenizeLine, hblank, hcomment, hshlex, Bool.false_eq_true, or_self, if_false]
        have hwords := split_trim_ne_nil hblank hcomment
        cases hsplit : ShellWords.split line.trim with
        | none => simp [ParsedLineKind.ofTokens, hblank]
        | some words =>
            cases words with
            | nil => exact absurd hsplit hwords
            | cons first rest => simp [ParsedLineKind.ofTokens, hblank]

/-- The command lines with their numbers. -/
def numberedFrom (start : Nat) (lines : List Text) : List (Nat × Text) :=
  ((lines.zipIdx start).filter fun (line, _) => isCommandLine line).map Prod.swap

theorem parsedFrom_numbered {checks : LineChecks Cmd}
    (hshlex : ∀ text, checks.shlexSplit text = ShellWords.split text) (start : Nat)
    (lines : List Text) :
    (parsedFrom checks start lines).map (fun parsed => (parsed.lineNo, parsed.raw)) =
      numberedFrom start lines := by
  induction lines generalizing start with
  | nil => rfl
  | cons line rest ih =>
      have hsome := ofTokens_isSome hshlex line
      rw [parsedFrom_cons, List.map_append, ih (start + 1)]
      cases hkind : ParsedLineKind.ofTokens (tokenizeLine checks line) with
      | none =>
          rw [hkind] at hsome
          simp [numberedFrom, List.zipIdx_cons, ← hsome]
      | some kind =>
          rw [hkind] at hsome
          simp [numberedFrom, List.zipIdx_cons, ← hsome]

/-! ## Exactness -/

/-- Both readers give the same lines however the input is cut, never hold more than
the cap between two turns, and `read_all` numbers the lines as they stand in the
input or names the first bad one. -/
theorem line_reading_exact (checks : LineChecks Cmd)
    (hshlex : ∀ text, checks.shlexSplit text = ShellWords.split text) (reader : Reader)
    (hfault : reader.fault = none) :
    ∃ script, ReadAs (physicalLines reader.content) script ∧
      (∀ other, Yields readLineCapped reader other ↔ other = script) ∧
      (∀ other, Yields readLineCappedAsync reader other ↔ other = script) ∧
      (∀ next buf, AtLoopHead reader next buf → buf.length ≤ maxLineLen) ∧
      (script.failure = none → ∃ parsed, readAll checks reader = .ok parsed ∧
        parsed.map (fun parsed => (parsed.lineNo, parsed.raw)) = numberedFrom 1 script.lines) ∧
      ∀ error, script.failure = some error →
        readAll checks reader =
          .error (readErrorText checks (script.lines.length + 1) error) := by
  have hyields : ∀ other, Yields readLineCapped reader other ↔ other = readScript reader := by
    intro other
    constructor
    · exact (yields_readScript reader).unique
    · rintro rfl
      exact yields_readScript reader
  refine ⟨readScript reader, ?_, hyields, ?_, ?_, ?_, ?_⟩
  · rw [readScript_eq, hfault]
    exact scriptOf_readAs reader.content
  · rwa [readLineCappedAsync_eq]
  · exact fun _ _ hhead => hhead.loopHead.within
  · intro hnone
    refine ⟨parsedFrom checks 1 (readScript reader).lines, ?_, parsedFrom_numbered hshlex 1 _⟩
    rw [readAll_eq, hnone]
  · intro error herror
    rw [readAll_eq, herror]

/-- A script in three chunks whose last line is no text. -/
theorem line_reading_exact_cut :
    ∃ script, ReadAs (physicalLines lsScriptCut.content) script ∧
      Yields readLineCappedAsync lsScriptCut script := by
  obtain ⟨script, hread, -, hasync, -⟩ :=
    line_reading_exact shellChecks (fun _ => rfl) lsScriptCut rfl
  exact ⟨script, hread, (hasync script).mpr rfl⟩

end S7cmd.BatchRun
