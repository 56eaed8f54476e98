import S7cmd.BatchRun.Preparation
import S7cmd.Foundation.ShellWords

/-!
# Trimming before tokenizing

`tokenize_line` trims a line before it splits it into words. Trimming takes more
characters for blanks than the shell does, and it takes them whether they are
escaped or not, so that a word at either end of the line may lose characters and a
line that ends in an escaped blank loses its words altogether.
-/

namespace S7cmd.BatchRun

open Foundation

open ShellWords (Mode isSeparator)

variable {Cmd : Type}

/-- What trimming takes from the front of a line. -/
def trimmedFront (line : Text) : Text := line.takeWhile Text.isWhitespace

/-- What trimming takes from the back of a line. -/
def trimmedBack (line : Text) : Text := line.trimStart.rtakeWhile Text.isWhitespace

theorem trimmed_append (line : Text) :
    line = trimmedFront line ++ (line.trim ++ trimmedBack line) := by
  have hfront := List.takeWhile_append_dropWhile (p := Text.isWhitespace) (l := line)
  have hback := List.rdropWhile_append_rtakeWhile (p := Text.isWhitespace) (l := line.trimStart)
  rw [trimmedFront, trimmedBack, Text.trim, Text.trimEnd, hback]
  exact hfront.symm

/-- Only characters that separate words are trimmed, but for what no word could
contain: an open quote stays open, and a comment may end in anything. -/
def TrimKeepsWords (line : Text) : Prop :=
  match Mode.gap.after line.trim with
  | .bare =>
      (∀ c ∈ trimmedFront line, isSeparator c = true) ∧
        ∀ c ∈ trimmedBack line, isSeparator c = true
  | .comment =>
      (∀ c ∈ trimmedFront line, isSeparator c = true) ∧
        ∀ c ∈ (trimmedBack line).dropWhile (· ≠ '\n'), isSeparator c = true
  -- the backslash at the end of the trimmed line escapes nothing
  | .escape => trimmedBack line = []
  | _ => True

/-- Tokenizing a line gives the words of the line as the shell sees it, or fails if
there are none. -/
structure TokenizesAsShell (checks : LineChecks Cmd) (line : Text) : Prop where
  words : ∀ tokens, tokenizeLine checks line = .ok (some ("s7cmd".toList :: tokens)) ↔
    checks.shlexSplit line = some tokens ∧ tokens ≠ []
  error : (∃ message, tokenizeLine checks line = .error message) ↔ checks.shlexSplit line = none

theorem ordinary_trimmedFront (line : Text) : ∀ c ∈ trimmedFront line, ShellWords.Ordinary c :=
  fun _ hc => Text.ordinary_of_isWhitespace (List.mem_takeWhile_imp hc)

theorem ordinary_trimmedBack (line : Text) : ∀ c ∈ trimmedBack line, ShellWords.Ordinary c :=
  fun _ hc => Text.ordinary_of_isWhitespace (List.mem_rtakeWhile_imp hc)

section Line

variable {line : Text}

/-- A line that is neither blank nor a comment begins a word. -/
theorem trim_begins_word (hblank : line.trim ≠ []) (hcomment : line.trim.startsWith '#' = false) :
    ∃ c rest, line.trim = c :: rest ∧ Mode.gap.next c = Mode.inWord c ∧
      Mode.bare.next c = Mode.inWord c := by
  obtain ⟨c, rest, hcons⟩ := List.exists_cons_of_ne_nil hblank
  have hc : Text.isWhitespace c = false := by
    have hinit : line.trim <+: line.trimStart := List.rdropWhile_prefix _ _
    obtain ⟨back, hback⟩ := hinit
    rw [hcons, List.cons_append] at hback
    have hstart : line.dropWhile Text.isWhitespace ≠ [] := by
      intro hnil
      rw [Text.trimStart, hnil] at hback
      cases hback
    have hhead := List.head_dropWhile_not (p := Text.isWhitespace) hstart
    have hline : (line.dropWhile Text.isWhitespace).head hstart = c := by
      simp only [Text.trimStart] at hback
      simp only [← hback, List.head_cons]
    rwa [hline] at hhead
  have hsep : isSeparator c = false := by
    rw [Bool.eq_false_iff]
    intro hsep
    rw [Text.isWhitespace_of_isSeparator hsep] at hc
    cases hc
  have hhash : c ≠ '#' := by
    rintro rfl
    rw [hcons] at hcomment
    cases hcomment
  exact ⟨c, rest, hcons, by simp [Mode.next, hsep, hhash], by simp [Mode.next, hsep]⟩

/-- The characters before a line's first word neither open a quote nor begin a
comment. -/
theorem after_trimmed (hblank : line.trim ≠ []) (hcomment : line.trim.startsWith '#' = false) :
    Mode.gap.after (trimmedFront line ++ line.trim) = Mode.gap.after line.trim ∧
      Mode.gap.pushed (trimmedFront line ++ line.trim) =
        (trimmedFront line).filter (fun c => !isSeparator c) ++ Mode.gap.pushed line.trim := by
  obtain ⟨c, rest, hcons, hgap, hbare⟩ := trim_begins_word hblank hcomment
  obtain ⟨hmode, hpushed⟩ := Mode.ordinary_text (Or.inl rfl) (ordinary_trimmedFront line)
  rw [Mode.after_append, Mode.pushed_append, hpushed, hcons]
  simp only [Mode.after_cons, Mode.pushed]
  rcases hmode with hmode | hmode
  · exact ⟨by rw [hmode], by rw [hmode]⟩
  · exact ⟨by rw [hmode, hbare, hgap], by rw [hmode, hbare, hgap]⟩

/-- Such a line has words unless it is malformed. -/
theorem split_trim_ne_nil (hblank : line.trim ≠ []) (hcomment : line.trim.startsWith '#' = false) :
    ShellWords.split line.trim ≠ some [] := by
  obtain ⟨c, rest, hcons, hgap, -⟩ := trim_begins_word hblank hcomment
  intro hsplit
  have houtside := ShellWords.outside_of_split_nil [c] rest
    (by rw [List.singleton_append, ← hcons]; exact hsplit)
  rw [Mode.after_cons, Mode.after_nil, hgap, Mode.outside_inWord] at houtside
  cases houtside

/-- The words of a line are the shell's words of the trimmed line. -/
theorem tokenizeLine_eq_some_iff {checks : LineChecks Cmd}
    (hshlex : ∀ text, checks.shlexSplit text = ShellWords.split text)
    (hblank : line.trim ≠ []) (hcomment : line.trim.startsWith '#' = false) (tokens : List Text) :
    tokenizeLine checks line = .ok (some ("s7cmd".toList :: tokens)) ↔
      ShellWords.split line.trim = some tokens ∧ tokens ≠ [] := by
  simp only [tokenizeLine, hblank, hcomment, hshlex, Bool.false_eq_true, or_self, if_false]
  cases ShellWords.split line.trim with
  | none => exact iff_of_false nofun fun hwords => nomatch hwords.1
  | some words =>
      cases words with
      | nil =>
          refine iff_of_false nofun fun hwords => hwords.2 ?_
          exact (Option.some.inj hwords.1).symm
      | cons first rest =>
          constructor
          · intro heq
            cases heq
            exact ⟨rfl, List.cons_ne_nil _ _⟩
          · rintro ⟨heq, -⟩
            cases heq
            rfl

/-- A line is malformed if the trimmed line is malformed to the shell. -/
theorem tokenizeLine_eq_error_iff {checks : LineChecks Cmd}
    (hshlex : ∀ text, checks.shlexSplit text = ShellWords.split text)
    (hblank : line.trim ≠ []) (hcomment : line.trim.startsWith '#' = false) :
    (∃ message, tokenizeLine checks line = .error message) ↔
      ShellWords.split line.trim = none := by
  simp only [tokenizeLine, hblank, hcomment, hshlex, Bool.false_eq_true, or_self, if_false]
  cases ShellWords.split line.trim with
  | none => exact iff_of_true ⟨_, rfl⟩ rfl
  | some words => cases words <;> exact iff_of_false (fun herror => nomatch herror) nofun

/-- Tokenizing agrees with the shell if trimming changes nothing for it. -/
theorem tokenizesAsShell_iff_split {checks : LineChecks Cmd}
    (hshlex : ∀ text, checks.shlexSplit text = ShellWords.split text)
    (hblank : line.trim ≠ []) (hcomment : line.trim.startsWith '#' = false) :
    TokenizesAsShell checks line ↔ ShellWords.split line.trim = ShellWords.split line := by
  have hok := tokenizeLine_eq_some_iff hshlex hblank hcomment
  have hmalformed := tokenizeLine_eq_error_iff hshlex hblank hcomment
  constructor
  · rintro ⟨hwords, herror⟩
    rw [hshlex] at herror
    cases hsplit : ShellWords.split line.trim with
    | none => exact (herror.mp (hmalformed.mpr hsplit)).symm
    | some tokens =>
        have hne : tokens ≠ [] := by
          rintro rfl
          exact split_trim_ne_nil hblank hcomment hsplit
        have hsame := ((hwords tokens).mp ((hok tokens).mpr ⟨hsplit, hne⟩)).1
        rw [hshlex] at hsame
        exact hsame.symm
  · intro hsame
    constructor
    · intro tokens
      rw [hok, hsame, hshlex]
    · rw [hmalformed, hsame, hshlex]

/-- The words of a line that ends outside quotes hold what was trimmed as well. -/
theorem separators_of_split_eq (hblank : line.trim ≠ [])
    (hcomment : line.trim.startsWith '#' = false)
    (hsame : ShellWords.split line.trim = ShellWords.split line)
    (hsome : (ShellWords.split line.trim).isSome = true) :
    (∀ c ∈ trimmedFront line, isSeparator c = true) ∧
      (Mode.gap.after line.trim).pushed (trimmedBack line) = [] := by
  obtain ⟨words, hwords⟩ := Option.isSome_iff_exists.mp hsome
  have htrim := ShellWords.flatten_of_split hwords
  have hline := ShellWords.flatten_of_split (hsame ▸ hwords)
  obtain ⟨hafter, hpushed⟩ := after_trimmed hblank hcomment
  have hwhole : Mode.gap.pushed line = (trimmedFront line).filter (fun c => !isSeparator c) ++
      (Mode.gap.pushed line.trim ++ (Mode.gap.after line.trim).pushed (trimmedBack line)) := by
    conv_lhs => rw [trimmed_append line]
    rw [← List.append_assoc, Mode.pushed_append, hpushed, hafter, List.append_assoc]
  have hlength := congrArg List.length (htrim.symm.trans (hline.trans hwhole))
  simp only [List.length_append] at hlength
  constructor
  · have hnil : (trimmedFront line).filter (fun c => !isSeparator c) = [] :=
      List.length_eq_zero_iff.mp (by omega)
    simpa [List.filter_eq_nil_iff] using hnil
  · exact List.length_eq_zero_iff.mp (by omega)

/-- What is trimmed from the front and separates words is nothing to the shell. -/
theorem read_line (hfront : ∀ c ∈ trimmedFront line, isSeparator c = true) :
    ShellWords.split line =
      ((ShellWords.Lexer.read {} line.trim).read (trimmedBack line)).finish := by
  have hread : ShellWords.Lexer.read {} (trimmedFront line) = {} :=
    ShellWords.Lexer.read_separators rfl hfront
  have hline := congrArg ShellWords.split (trimmed_append line)
  rw [hline, ShellWords.split, ShellWords.Lexer.read_append, hread, ShellWords.Lexer.read_append]

theorem last_of_trim {front : Text} {c : Char} (htrim : line.trim = front ++ [c]) :
    Text.isWhitespace c = false := by
  have hne : line.trimStart.rdropWhile Text.isWhitespace ≠ [] := by
    intro hnil
    rw [Text.trim, Text.trimEnd, hnil] at htrim
    simp at htrim
  have hlast := List.rdropWhile_last_not Text.isWhitespace line.trimStart hne
  have hc : (line.trimStart.rdropWhile Text.isWhitespace).getLast hne = c := by
    rw [Text.trim, Text.trimEnd] at htrim
    simp only [htrim, List.getLast_append_singleton]
  rw [hc] at hlast
  simpa using hlast

/-- A quote that is open at the end stays open over what is trimmed. -/
theorem split_eq_of_quoted
    (hline : Mode.gap.after line = (Mode.gap.after line.trim).after (trimmedBack line))
    (hquoted : (Mode.gap.after line.trim).quoted = true) :
    ShellWords.split line.trim = ShellWords.split line := by
  have htrim := (ShellWords.split_eq_none_iff line.trim).mpr (Mode.not_accepts_of_quoted hquoted)
  have hafter := Mode.quoted_after hquoted (ordinary_trimmedBack line)
  rw [← hline] at hafter
  rw [htrim, (ShellWords.split_eq_none_iff line).mpr (Mode.not_accepts_of_quoted hafter)]

theorem after_line (hblank : line.trim ≠ []) (hcomment : line.trim.startsWith '#' = false) :
    Mode.gap.after line = (Mode.gap.after line.trim).after (trimmedBack line) := by
  obtain ⟨hafter, -⟩ := after_trimmed hblank hcomment
  conv_lhs => rw [trimmed_append line]
  rw [← List.append_assoc, Mode.after_append, hafter]

/-- Behind a word only separators may be trimmed. -/
theorem split_eq_iff_of_bare (hblank : line.trim ≠ [])
    (hcomment : line.trim.startsWith '#' = false) (hmode : Mode.gap.after line.trim = .bare) :
    ShellWords.split line.trim = ShellWords.split line ↔
      (∀ c ∈ trimmedFront line, isSeparator c = true) ∧
        ∀ c ∈ trimmedBack line, isSeparator c = true := by
  constructor
  · intro hsame
    obtain ⟨hfront, hback⟩ := separators_of_split_eq hblank hcomment hsame
      (by rw [ShellWords.split_isSome, hmode]; rfl)
    rw [hmode, (Mode.ordinary_text (Or.inr rfl) (ordinary_trimmedBack line)).2] at hback
    exact ⟨hfront, by simpa [List.filter_eq_nil_iff] using hback⟩
  · rintro ⟨hfront, hback⟩
    have hlexer := ShellWords.Lexer.mode_read {} line.trim
    rw [read_line hfront, ShellWords.Lexer.finish_read_separators (hlexer.trans hmode) hback]
    rfl

/-- Of a comment anything may be trimmed up to the end of its line. -/
theorem split_eq_iff_of_comment (hblank : line.trim ≠ [])
    (hcomment : line.trim.startsWith '#' = false) (hmode : Mode.gap.after line.trim = .comment) :
    ShellWords.split line.trim = ShellWords.split line ↔
      (∀ c ∈ trimmedFront line, isSeparator c = true) ∧
        ∀ c ∈ (trimmedBack line).dropWhile (· ≠ '\n'), isSeparator c = true := by
  constructor
  · intro hsame
    obtain ⟨hfront, hback⟩ := separators_of_split_eq hblank hcomment hsame
      (by rw [ShellWords.split_isSome, hmode]; rfl)
    have hordinary : ∀ c ∈ (trimmedBack line).dropWhile (· ≠ '\n'), ShellWords.Ordinary c :=
      fun c hc => ordinary_trimmedBack line c (List.dropWhile_subset _ hc)
    rw [hmode, Mode.pushed_comment, (Mode.ordinary_text (Or.inl rfl) hordinary).2] at hback
    exact ⟨hfront, by simpa [List.filter_eq_nil_iff] using hback⟩
  · rintro ⟨hfront, hback⟩
    have hlexer := ShellWords.Lexer.mode_read {} line.trim
    rw [read_line hfront, ShellWords.Lexer.finish_read_comment (hlexer.trans hmode) hback]
    rfl

/-- A backslash at the end of the trimmed line is malformed, and with what was trimmed
behind it it escapes a character. -/
theorem split_eq_iff_of_escape (hblank : line.trim ≠ [])
    (hcomment : line.trim.startsWith '#' = false) (hmode : Mode.gap.after line.trim = .escape) :
    ShellWords.split line.trim = ShellWords.split line ↔ trimmedBack line = [] := by
  have hnone : ShellWords.split line.trim = none := by
    rw [ShellWords.split_eq_none_iff, hmode]
    rfl
  rw [hnone, eq_comm, ShellWords.split_eq_none_iff, after_line hblank hcomment, hmode]
  cases hback : trimmedBack line with
  | nil => simp [Mode.accepts]
  | cons c rest =>
      have hordinary : ∀ d ∈ rest, ShellWords.Ordinary d := fun d hd =>
        ordinary_trimmedBack line d (by rw [hback]; exact List.mem_cons_of_mem c hd)
      have hbare := (Mode.ordinary_text (Or.inr rfl) hordinary).1
      rw [Mode.after_cons]
      rcases hbare with hbare | hbare <;> simp [Mode.next, hbare, Mode.accepts]

/-- A trimmed line does not end in a separator. -/
theorem after_trim_ne_gap (hblank : line.trim ≠ []) : Mode.gap.after line.trim ≠ .gap := by
  intro hmode
  rcases Mode.ends_of_after_gap hmode with hnil | ⟨front, c, htrim, hsep⟩
  · exact hblank hnil
  · have hlast := Text.isWhitespace_of_isSeparator hsep
    rw [last_of_trim htrim] at hlast
    cases hlast

end Line

/-- Tokenizing a line that is neither blank nor a comment never alters a word, exactly
if trimming keeps its words. -/
theorem tokenizesAsShell_iff (checks : LineChecks Cmd)
    (hshlex : ∀ text, checks.shlexSplit text = ShellWords.split text) (line : Text)
    (hblank : line.trim ≠ []) (hcomment : line.trim.startsWith '#' = false) :
    TokenizesAsShell checks line ↔ TrimKeepsWords line := by
  rw [tokenizesAsShell_iff_split hshlex hblank hcomment]
  have hafter := after_line hblank hcomment
  unfold TrimKeepsWords
  cases hmode : Mode.gap.after line.trim with
  | bare => exact split_eq_iff_of_bare hblank hcomment hmode
  | comment => exact split_eq_iff_of_comment hblank hcomment hmode
  | escape => exact split_eq_iff_of_escape hblank hcomment hmode
  | gap => exact absurd hmode (after_trim_ne_gap hblank)
  | single => exact iff_of_true (split_eq_of_quoted hafter (by rw [hmode]; rfl)) trivial
  | double => exact iff_of_true (split_eq_of_quoted hafter (by rw [hmode]; rfl)) trivial
  | doubleEscape => exact iff_of_true (split_eq_of_quoted hafter (by rw [hmode]; rfl)) trivial

/-- The shell's word splitting, for a program without commands. -/
def shellChecks : LineChecks Unit where
  shlexSplit := ShellWords.split
  parseLineArgv := fun _ => .ok ⟨none⟩
  validate := fun _ _ _ => .ok ()
  utf8ErrorText := fun _ => []

/-- Blanks behind a quoted key. -/
theorem tokenizesAsShell_blanks :
    TokenizesAsShell shellChecks " rm \"s3://b/a b\" \t".toList := by
  apply (tokenizesAsShell_iff shellChecks (fun _ => rfl) _ (by decide) (by decide)).mpr
  have hbare : Mode.gap.after (Text.trim " rm \"s3://b/a b\" \t".toList) = .bare := by
    decide +kernel
  rw [TrimKeepsWords, hbare]
  exact ⟨List.all_eq_true.mp (by decide +kernel), List.all_eq_true.mp (by decide +kernel)⟩

/-- An ideographic space at the end of a key is trimmed. -/
theorem trim_alters_key :
    ¬ ∀ line : Text, line.getLast? ≠ some '\r' → line.trim ≠ [] →
      line.trim.startsWith '#' = false → TokenizesAsShell shellChecks line := by
  intro hclaim
  have hwords := (hclaim "rm s3://b/key\u3000".toList (by decide) (by decide) (by decide)).words
    ["rm".toList, "s3://b/key".toList]
  have hsplit := (hwords.mp (by decide +kernel)).1
  exact absurd hsplit (by decide +kernel)

end S7cmd.BatchRun
