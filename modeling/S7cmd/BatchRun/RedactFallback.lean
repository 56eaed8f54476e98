import S7cmd.BatchRun.RedactFrame

/-!
# Redaction of lines without tokens

A line whose quoting is malformed is cut at whitespace, inside quotes as well. A
value is hidden then if the cut leaves its flag as it is typed and leaves the value
in one piece; a quoted flag is not recognised, and of a value that contains
whitespace only the first piece is hidden.
-/

namespace S7cmd.BatchRun

open Foundation

/-! ## The words that are logged -/

theorem output_of_not_masks {tokens : List Text} (hnone : ¬ Masks tokens) :
    scanner.output tokens = tokens := by
  have hmasked : (redactLoop tokens [] false).2 = false := by
    rw [Bool.eq_false_iff]
    intro hmasked
    exact hnone (((redactLoop_masked tokens [] false).mp hmasked).resolve_left Bool.false_ne_true)
  exact (redactLoop_unmasked hmasked).2

/-- Only a word that mentions a secret flag has anything masked. -/
theorem mentionsSecret_of_masks {raw : Text} (hmasks : Masks raw.splitWhitespace) :
    mentionsSecret raw = true := by
  obtain ⟨index, tok, htok, hmask⟩ := hmasks
  have hinfix := (Text.mem_splitWhitespace (List.mem_of_getElem? htok)).2.2
  apply mentionsSecret_mono hinfix
  rcases hmask with hmask | ⟨htakes, -⟩
  · obtain ⟨word, hword⟩ := Option.isSome_iff_exists.mp hmask
    obtain ⟨name, value, rfl, -, -, hsecret, -⟩ := maskEquals_eq_some hword
    exact mentionsSecret_mono (List.prefix_append _ _).isInfix
      (mentionsSecret_of_isSecretFlag hsecret)
  · simp only [takesValue, Bool.and_eq_true] at htakes
    exact mentionsSecret_of_isSecretFlag htakes.2.2

/-- The scan writes words if it reads words. -/
theorem output_solid {words : List Text} (hwords : ∀ word ∈ words, word ≠ [] ∧ word.Solid) :
    ∀ word ∈ scanner.output words, word ≠ [] ∧ word.Solid := by
  intro word hword
  obtain ⟨index, hindex⟩ := List.mem_iff_getElem?.mp hword
  rw [scanner.getElem?_output] at hindex
  obtain ⟨tok, htok, hwrite⟩ := Option.map_eq_some_iff.mp hindex
  have hredacted : redacted ≠ [] ∧ Text.Solid redacted := ⟨by decide, by decide⟩
  have htok' := hwords tok (List.mem_of_getElem? htok)
  cases hstate : scanner.stateAfter (words.take index) with
  | true =>
      rw [hstate, scanner_write_true] at hwrite
      exact hwrite ▸ hredacted
  | false =>
      rw [hstate, scanner_write_false] at hwrite
      cases hmask : maskEquals tok with
      | none =>
          rw [hmask, Option.getD_none] at hwrite
          exact hwrite ▸ htok'
      | some masked =>
          rw [hmask, Option.getD_some] at hwrite
          obtain ⟨name, value, rfl, -, -, -, rfl⟩ := maskEquals_eq_some hmask
          subst hwrite
          have hname : Text.Solid name := htok'.2.of_part (List.prefix_append _ _).isInfix
          have hequals : Text.Solid ('=' :: redacted) := by decide
          exact ⟨by simp, hname.append hequals⟩

section Fallback

variable {shlexSplit : Text → Option (List Text)} {raw : Text}

/-- A line in which something is masked is logged as its words. -/
theorem redactSecrets_of_masks (hnone : shlexSplit raw = none)
    (hmasks : Masks raw.splitWhitespace) :
    redactSecrets shlexSplit raw = joinTokens (scanner.output raw.splitWhitespace) := by
  have hmentions := mentionsSecret_of_masks hmasks
  unfold mentionsSecret at hmentions
  simp only [redactSecrets, hmentions, hnone, redactWhitespace_eq, redactTokens_of_masks hmasks,
    redactedWords_eq, Bool.not_true, Bool.false_eq_true, if_false, Option.getD_some]

/-- Whatever is masked, the words of the logged text are those the scan writes. -/
theorem splitWhitespace_redactSecrets (hnone : shlexSplit raw = none) :
    (redactSecrets shlexSplit raw).splitWhitespace = scanner.output raw.splitWhitespace := by
  by_cases hmasks : Masks raw.splitWhitespace
  · rw [redactSecrets_of_masks hnone hmasks]
    apply Text.splitWhitespace_join
    apply output_solid
    intro word hword
    have hmem := Text.mem_splitWhitespace hword
    exact ⟨hmem.1, hmem.2.1⟩
  · have hraw : redactSecrets shlexSplit raw = raw := by
      by_cases hmentions : mentionsSecret raw = true
      · unfold mentionsSecret at hmentions
        simp only [redactSecrets, hmentions, hnone, redactWhitespace_eq,
          redactTokens_of_not_masks hmasks, Bool.not_true, Bool.false_eq_true, if_false,
          Option.getD_none]
      · exact redactSecrets_of_not_mentions (Bool.eq_false_iff.mpr hmentions)
    rw [hraw, output_of_not_masks hmasks]

end Fallback

/-! ## A value at its place in a line -/

/-- A word of a line at its place in the text: what stands before it ends outside
words and what stands behind it is apart from it. -/
structure WordAt (front spelling back : Text) : Prop where
  gap : ShellWords.Mode.gap.after front = .gap
  spells : ∃ value, ShellWords.Spells spelling value
  apart : ∀ c ∈ back.head?, ShellWords.isSeparator c = true
  plain : spelling.startsWith '-' = false

/-- On the line as it stands the word is masked as the value of the secret option
before it. -/
structure MaskedValue (shlexSplit : Text → Option (List Text)) (front spelling back : Text) :
    Prop extends WordAt front spelling back where
  masked : ∃ tokens index flag, shlexSplit (front ++ spelling ++ back) = some tokens ∧
    index + 1 = (ShellWords.Lexer.read {} front).words.length ∧
      tokens[index]? = some flag ∧ SecretOption flag ∧ Even (takersBefore tokens index)

/-- Cut at whitespace the spelling is one piece, or one behind whitespace. -/
structure ReadsAsOne (spelling back : Text) : Prop where
  one : ∃ word, spelling.splitWhitespace = [word]
  /-- what is added to the line touches that piece -/
  touching : back = [] → ∀ c ∈ spelling.getLast?, Text.isWhitespace c = false

/-- Two spellings of a word are logged alike on every line that has no tokens for
what follows them. -/
def LoggedAlike (shlexSplit : Text → Option (List Text)) (front back spelling other : Text) :
    Prop :=
  ∀ suffix, shlexSplit (front ++ spelling ++ back ++ suffix) = none →
    shlexSplit (front ++ other ++ back ++ suffix) = none →
      redactSecrets shlexSplit (front ++ spelling ++ back ++ suffix) =
        redactSecrets shlexSplit (front ++ other ++ back ++ suffix)

namespace WordAt

variable {front spelling back : Text}

theorem splitWhitespace_front (hword : WordAt front spelling back) (text : Text) :
    Text.splitWhitespace (front ++ text) = front.splitWhitespace ++ text.splitWhitespace := by
  apply Text.splitWhitespace_append_apart
  rcases ShellWords.Mode.ends_of_after_gap hword.gap with rfl | ⟨earlier, c, rfl, hsep⟩
  · simp
  · intro d hd
    rw [List.getLast?_concat] at hd
    cases hd
    exact Text.isWhitespace_of_isSeparator hsep

theorem splitWhitespace_back (hword : WordAt front spelling back) (text : Text) :
    Text.splitWhitespace (text ++ back) = text.splitWhitespace ++ back.splitWhitespace :=
  Text.splitWhitespace_append_head
    (fun c hc => Text.isWhitespace_of_isSeparator (hword.apart c hc)) text

theorem after_spelling (hword : WordAt front spelling back) :
    ShellWords.Mode.gap.after (front ++ spelling) = .bare := by
  obtain ⟨value, hspells⟩ := hword.spells
  have hgap := (ShellWords.Lexer.mode_read {} front).trans hword.gap
  have hread := hspells.read_append hgap
  rw [← ShellWords.Lexer.mode_read {}, hread]

end WordAt

/-- A spelling that reads as one word is the first word of what it begins. -/
theorem ReadsAsOne.splitWhitespace_append {front spelling back : Text}
    (hone : ReadsAsOne spelling back) (hword : WordAt front spelling back) (suffix : Text) :
    ∃ first, Text.splitWhitespace (spelling ++ (back ++ suffix)) =
      first :: Text.splitWhitespace ((back ++ suffix).dropWhile fun c => !Text.isWhitespace c) := by
  obtain ⟨word, hsingle⟩ := hone.one
  cases hback : back with
  | cons c rest =>
      have hc := Text.isWhitespace_of_isSeparator (hword.apart c (by rw [hback]; rfl))
      refine ⟨word, ?_⟩
      rw [List.cons_append, Text.splitWhitespace_append_cons hc, hsingle,
        List.dropWhile_cons_of_neg (by simp [hc]), Text.splitWhitespace_cons hc]
      rfl
  | nil =>
      rw [List.nil_append]
      exact Text.splitWhitespace_append_of_single hsingle (hone.touching hback) suffix

/-! ## When the fallback hides a value -/

/-- The flag before the word is read as a secret one when the line is cut at
whitespace. -/
def FlagRecognised (front : Text) : Prop :=
  Odd (front.splitWhitespace.reverse.takeWhile takesValue).length

theorem stateAfter_iff_flagRecognised (front : Text) :
    scanner.stateAfter front.splitWhitespace = true ↔ FlagRecognised front :=
  stateAfter_iff_odd _

/-- A word in a value's place is masked. -/
theorem masks_of_expected {words : List Text}
    (hexpected : scanner.stateAfter words = true) (value : Text) (rest : List Text) :
    Masks (words ++ value :: rest) := by
  have hlt : words.length < (words ++ value :: rest).length := by simp
  have hstate : scanner.stateAfter ((words ++ value :: rest).take words.length) = true := by
    rw [List.take_left]
    exact hexpected
  obtain ⟨before, flag, hlength, hflag, htakes, -⟩ := takesValue_of_stateAfter hlt hstate
  exact ⟨before, flag, hflag, Or.inr ⟨htakes, hlength ▸ hlt⟩⟩

/-- A word in a value's place is written as the placeholder whatever it is. -/
theorem output_of_expected {words : List Text}
    (hexpected : scanner.stateAfter words = true) (value : Text) (rest : List Text) :
    scanner.output (words ++ value :: rest) =
      scanner.output words ++ redacted :: scanner.outputFrom false rest := by
  rw [Transducer.output, scanner.outputFrom_append]
  rw [Transducer.stateAfter] at hexpected
  rw [hexpected]
  simp [Transducer.outputFrom, Transducer.output]

/-- Whatever two spellings of a value are, they are hidden if each is one piece
behind a flag that is recognised. -/
theorem loggedAlike_of_reads {shlexSplit : Text → Option (List Text)}
    {front back spelling other : Text} (hword : WordAt front spelling back)
    (hother : WordAt front other back) (hflag : FlagRecognised front)
    (hone : ReadsAsOne spelling back) (hotherOne : ReadsAsOne other back) :
    LoggedAlike shlexSplit front back spelling other := by
  intro suffix hnone hotherNone
  have hexpected := (stateAfter_iff_flagRecognised front).mpr hflag
  obtain ⟨first, hfirst⟩ := hone.splitWhitespace_append hword suffix
  obtain ⟨second, hsecond⟩ := hotherOne.splitWhitespace_append hother suffix
  have hwords : Text.splitWhitespace (front ++ spelling ++ back ++ suffix) =
      front.splitWhitespace ++ first ::
        Text.splitWhitespace ((back ++ suffix).dropWhile fun c => !Text.isWhitespace c) := by
    rw [List.append_assoc, List.append_assoc, hword.splitWhitespace_front, hfirst]
  have hotherWords : Text.splitWhitespace (front ++ other ++ back ++ suffix) =
      front.splitWhitespace ++ second ::
        Text.splitWhitespace ((back ++ suffix).dropWhile fun c => !Text.isWhitespace c) := by
    rw [List.append_assoc, List.append_assoc, hother.splitWhitespace_front, hsecond]
  rw [redactSecrets_of_masks hnone, redactSecrets_of_masks hotherNone, hwords, hotherWords,
    output_of_expected hexpected, output_of_expected hexpected]
  · rw [hotherWords]
    exact masks_of_expected hexpected _ _
  · rw [hwords]
    exact masks_of_expected hexpected _ _

section Necessity

variable {shlexSplit : Text → Option (List Text)} {front back spelling other : Text}

/-- Lines logged alike have as many words. -/
theorem LoggedAlike.output_eq (halike : LoggedAlike shlexSplit front back spelling other)
    {suffix : Text} (hnone : shlexSplit (front ++ spelling ++ back ++ suffix) = none)
    (hother : shlexSplit (front ++ other ++ back ++ suffix) = none) :
    scanner.output (Text.splitWhitespace (front ++ spelling ++ back ++ suffix)) =
      scanner.output (Text.splitWhitespace (front ++ other ++ back ++ suffix)) := by
  rw [← splitWhitespace_redactSecrets hnone, ← splitWhitespace_redactSecrets hother,
    halike suffix hnone hother]

theorem LoggedAlike.length_eq (halike : LoggedAlike shlexSplit front back spelling other)
    {suffix : Text} (hnone : shlexSplit (front ++ spelling ++ back ++ suffix) = none)
    (hother : shlexSplit (front ++ other ++ back ++ suffix) = none) :
    (Text.splitWhitespace (front ++ spelling ++ back ++ suffix)).length =
      (Text.splitWhitespace (front ++ other ++ back ++ suffix)).length := by
  have hlength := congrArg List.length (halike.output_eq hnone hother)
  rwa [Transducer.output, Transducer.output, scanner.length_outputFrom,
    scanner.length_outputFrom] at hlength

/-- A line with one spelling of a word has tokens if it has them with another. -/
theorem WordAt.split_isSome (hword : WordAt front spelling back)
    (hother : WordAt front other back)
    (hsome : (ShellWords.split (front ++ spelling ++ back)).isSome = true) :
    (ShellWords.split (front ++ other ++ back)).isSome = true := by
  rw [ShellWords.split_isSome, ShellWords.Mode.after_append] at hsome ⊢
  rw [hother.after_spelling]
  rwa [hword.after_spelling] at hsome

/-- A quote opened on a line of its own takes a line its tokens. -/
def openQuote : Text := ['\n', ShellWords.doubleQuote]

theorem splitWhitespace_append_openQuote (text : Text) :
    Text.splitWhitespace (text ++ openQuote) = text.splitWhitespace ++ [[ShellWords.doubleQuote]] :=
  Text.splitWhitespace_append_cons (by decide) text _

/-- The words of a line with an open quote on a line of its own. -/
theorem WordAt.splitWhitespace_openQuote (hword : WordAt front spelling back) :
    Text.splitWhitespace (front ++ spelling ++ back ++ openQuote) =
      front.splitWhitespace ++
        (spelling.splitWhitespace ++ (back.splitWhitespace ++ [[ShellWords.doubleQuote]])) := by
  rw [splitWhitespace_append_openQuote, List.append_assoc front, hword.splitWhitespace_front,
    hword.splitWhitespace_back, List.append_assoc, List.append_assoc]

theorem WordAt.replace (hword : WordAt front spelling back) {value : Text}
    (hspells : ShellWords.Spells other value) (hplain : other.startsWith '-' = false) :
    WordAt front other back :=
  ⟨hword.gap, ⟨value, hspells⟩, hword.apart, hplain⟩

/-- A letter spells a word of its own. -/
theorem spells_letter {c : Char} (hletter : ShellWords.Mode.gap.next c = (.bare, .push [c])) :
    ShellWords.Spells [c] [c] := by
  constructor
  · rintro d hd
    cases hd
    rw [hletter]
    rfl
  · simp [ShellWords.Lexer.step, hletter, ShellWords.Lexer.apply]

theorem WordAt.letter (hword : WordAt front spelling back) {c : Char}
    (hletter : ShellWords.Mode.gap.next c = (.bare, .push [c])) (hdash : c ≠ '-') :
    WordAt front [c] back :=
  hword.replace (spells_letter hletter) (by simpa [Text.startsWith] using hdash)

theorem splitWhitespace_letter {c : Char} (hletter : Text.isWhitespace c = false) :
    Text.splitWhitespace [c] = [[c]] :=
  Text.splitWhitespace_solid (by simp) (by simpa [Text.Solid] using hletter)

theorem readsAsOne_letter {c : Char} (hletter : Text.isWhitespace c = false) (back : Text) :
    ReadsAsOne [c] back := by
  constructor
  · exact ⟨[c], splitWhitespace_letter hletter⟩
  · rintro - d hd
    cases hd
    exact hletter

/-- A quote opened right behind a word takes the line its tokens. -/
theorem WordAt.open_quote (hshlex : ∀ text, shlexSplit text = ShellWords.split text)
    (hword : WordAt front spelling []) :
    shlexSplit (front ++ spelling ++ [] ++ [ShellWords.doubleQuote]) = none := by
  rw [hshlex, ShellWords.split_eq_none_iff, List.append_nil, ShellWords.Mode.after_append,
    hword.after_spelling]
  rfl

/-- A quote opened on a line of its own does so with every spelling of the value. -/
theorem MaskedValue.openQuote_none (hshlex : ∀ text, shlexSplit text = ShellWords.split text)
    (hmasked : MaskedValue shlexSplit front spelling back) (hother : WordAt front other back) :
    shlexSplit (front ++ other ++ back ++ openQuote) = none := by
  have hsome : (ShellWords.split (front ++ spelling ++ back)).isSome = true := by
    obtain ⟨tokens, -, -, hsplit, -⟩ := hmasked.masked
    rw [← hshlex, hsplit]
    rfl
  rw [hshlex]
  exact ShellWords.split_open_quote (hmasked.toWordAt.split_isSome hother hsome)

/-- With an open quote behind them, two spellings that are logged alike have as many
words. -/
theorem LoggedAlike.words_eq (hshlex : ∀ text, shlexSplit text = ShellWords.split text)
    (hmasked : MaskedValue shlexSplit front spelling back) (hother : WordAt front other back)
    (halike : LoggedAlike shlexSplit front back spelling other) :
    spelling.splitWhitespace.length = other.splitWhitespace.length := by
  have hlength := halike.length_eq (hmasked.openQuote_none hshlex hmasked.toWordAt)
    (hmasked.openQuote_none hshlex hother)
  rw [hmasked.toWordAt.splitWhitespace_openQuote, hother.splitWhitespace_openQuote] at hlength
  simp only [List.length_append] at hlength
  omega

/-- The spelling with a blank inside, which whitespace cuts in two. -/
def quotedPair : Text := "\"x y\"".toList

theorem spells_quotedPair : ShellWords.Spells quotedPair "x y".toList :=
  ⟨fun c hc => (Option.some.inj hc : ShellWords.doubleQuote = c) ▸ by decide, by decide⟩

/-- No value is logged like every other: one spelling is one word, another two. -/
theorem not_loggedAlike_all (hshlex : ∀ text, shlexSplit text = ShellWords.split text)
    (hmasked : MaskedValue shlexSplit front spelling back) :
    ¬ ∀ other, WordAt front other back → LoggedAlike shlexSplit front back spelling other := by
  intro hall
  have ha : WordAt front ['a'] back := hmasked.toWordAt.letter (by decide) (by decide)
  have hpair : WordAt front quotedPair back :=
    hmasked.toWordAt.replace spells_quotedPair (by decide)
  have hone := (hall _ ha).words_eq hshlex hmasked ha
  have htwo := (hall _ hpair).words_eq hshlex hmasked hpair
  have hwords : quotedPair.splitWhitespace = ["\"x".toList, "y\"".toList] := by decide
  rw [splitWhitespace_letter (by decide)] at hone
  rw [hone, hwords] at htwo
  cases htwo

/-- Behind a flag that is not recognised a letter shows. -/
theorem flagRecognised_of_loggedAlike (hshlex : ∀ text, shlexSplit text = ShellWords.split text)
    (hmasked : MaskedValue shlexSplit front spelling back)
    (hall : ∀ other, WordAt front other back → ReadsAsOne other back →
      LoggedAlike shlexSplit front back spelling other) : FlagRecognised front := by
  by_contra hflag
  rw [← stateAfter_iff_flagRecognised, Bool.not_eq_true] at hflag
  have ha : WordAt front ['a'] back := hmasked.toWordAt.letter (by decide) (by decide)
  have hb : WordAt front ['b'] back := hmasked.toWordAt.letter (by decide) (by decide)
  have hnone := hmasked.openQuote_none hshlex hmasked.toWordAt
  have hfirst := (hall _ ha (readsAsOne_letter (by decide) back)).output_eq hnone
    (hmasked.openQuote_none hshlex ha)
  have hsecond := (hall _ hb (readsAsOne_letter (by decide) back)).output_eq hnone
    (hmasked.openQuote_none hshlex hb)
  have hsame := hfirst.symm.trans hsecond
  rw [ha.splitWhitespace_openQuote, hb.splitWhitespace_openQuote,
    splitWhitespace_letter (by decide), splitWhitespace_letter (by decide)] at hsame
  have hletter := congrArg (fun words => words[front.splitWhitespace.length]?) hsame
  simp only [scanner.getElem?_output, List.take_left, hflag, List.singleton_append,
    List.getElem?_append_right (Nat.le_refl _), Nat.sub_self, List.getElem?_cons_zero] at hletter
  exact absurd hletter (by decide)

/-- A spelling that is logged like a letter does not end in whitespace at the end of
the line: an open quote adds a word behind whitespace and none behind a letter. -/
theorem touching_of_loggedAlike (hshlex : ∀ text, shlexSplit text = ShellWords.split text)
    (hword : WordAt front spelling []) (ha : WordAt front ['a'] [])
    (halike : LoggedAlike shlexSplit front [] spelling ['a'])
    (hsingle : ∃ word, spelling.splitWhitespace = [word]) :
    ∀ c ∈ spelling.getLast?, Text.isWhitespace c = false := by
  intro c hc
  by_contra hspace
  rw [Bool.not_eq_false] at hspace
  have hquote := halike.length_eq (hword.open_quote hshlex) (ha.open_quote hshlex)
  obtain ⟨earlier, rfl⟩ := List.getLast?_eq_some_iff.mp hc
  obtain ⟨word, hsingle⟩ := hsingle
  rw [Text.splitWhitespace_append_cons hspace, Text.splitWhitespace_nil,
    List.append_nil] at hsingle
  have hletter : Text.splitWhitespace ['a', ShellWords.doubleQuote] =
      [['a', ShellWords.doubleQuote]] := Text.splitWhitespace_solid (by simp) (by decide)
  have hcut : Text.splitWhitespace (earlier ++ [c] ++ [ShellWords.doubleQuote]) =
      [word, [ShellWords.doubleQuote]] := by
    rw [List.append_assoc, List.singleton_append, Text.splitWhitespace_append_cons hspace,
      hsingle, splitWhitespace_letter (by decide)]
    rfl
  rw [List.append_nil, List.append_nil, List.append_assoc, hword.splitWhitespace_front, hcut,
    List.append_assoc, ha.splitWhitespace_front, List.singleton_append, hletter] at hquote
  simp at hquote

/-- What is logged like a letter reads as one word. -/
theorem readsAsOne_of_loggedAlike (hshlex : ∀ text, shlexSplit text = ShellWords.split text)
    (hmasked : MaskedValue shlexSplit front spelling back)
    (hall : ∀ other, WordAt front other back → ReadsAsOne other back →
      LoggedAlike shlexSplit front back spelling other) : ReadsAsOne spelling back := by
  have ha : WordAt front ['a'] back := hmasked.toWordAt.letter (by decide) (by decide)
  have halike := hall _ ha (readsAsOne_letter (by decide) back)
  have hsingle : ∃ word, spelling.splitWhitespace = [word] := by
    have hlength := halike.words_eq hshlex hmasked ha
    rw [splitWhitespace_letter (by decide)] at hlength
    exact List.length_eq_one_iff.mp hlength
  refine ⟨hsingle, ?_⟩
  rintro rfl
  exact touching_of_loggedAlike hshlex hmasked.toWordAt ha halike hsingle

end Necessity

/-- No value is hidden from every other spelling: one with whitespace in its quotes
shows. The fallback hides a value from all spellings that whitespace leaves whole
exactly if it leaves the value whole and the flag is recognised. -/
theorem fallback_hides_iff (shlexSplit : Text → Option (List Text))
    (hshlex : ∀ text, shlexSplit text = ShellWords.split text) (front spelling back : Text)
    (hmasked : MaskedValue shlexSplit front spelling back) :
    (¬ ∀ other, WordAt front other back → LoggedAlike shlexSplit front back spelling other) ∧
      ((∀ other, WordAt front other back → ReadsAsOne other back →
          LoggedAlike shlexSplit front back spelling other) ↔
        FlagRecognised front ∧ ReadsAsOne spelling back) := by
  refine ⟨not_loggedAlike_all hshlex hmasked, fun hall => ⟨?_, ?_⟩, ?_⟩
  · exact flagRecognised_of_loggedAlike hshlex hmasked hall
  · exact readsAsOne_of_loggedAlike hshlex hmasked hall
  · rintro ⟨hflag, hone⟩ other hother hotherOne
    exact loggedAlike_of_reads hmasked.toWordAt hother hflag hone hotherOne

theorem spells_secret : ShellWords.Spells "SECRET".toList "SECRET".toList :=
  ⟨fun c hc => (Option.some.inj hc : 'S' = c) ▸ by decide, by decide⟩

theorem spells_other : ShellWords.Spells "OTHER".toList "OTHER".toList :=
  ⟨fun c hc => (Option.some.inj hc : 'O' = c) ▸ by decide, by decide⟩

/-- A bare value behind a bare flag. -/
theorem fallback_hides_bare :
    LoggedAlike ShellWords.split "cp /f s3://b/k --target-secret-access-key ".toList []
      "SECRET".toList "OTHER".toList := by
  have hword : WordAt "cp /f s3://b/k --target-secret-access-key ".toList "SECRET".toList [] :=
    ⟨by decide +kernel, ⟨_, spells_secret⟩, nofun, by decide⟩
  have hmasked : MaskedValue ShellWords.split
      "cp /f s3://b/k --target-secret-access-key ".toList "SECRET".toList [] :=
    ⟨hword, inlineCredential, 3, "--target-secret-access-key".toList, by decide +kernel,
      by decide +kernel, rfl, ⟨by decide, by decide, by decide +kernel⟩, by decide +kernel⟩
  have hone : ∀ spelling : Text, spelling.Solid → spelling ≠ [] → ReadsAsOne spelling [] :=
    fun spelling hsolid hne => ⟨⟨spelling, Text.splitWhitespace_solid hne hsolid⟩,
      fun _ c hc => hsolid c (List.mem_of_getLast? hc)⟩
  have hiff := (fallback_hides_iff ShellWords.split (fun _ => rfl) _ _ _ hmasked).2
  exact hiff.mpr ⟨by unfold FlagRecognised; decide +kernel, hone _ (by decide) (by decide)⟩
    "OTHER".toList (hword.replace spells_other (by decide)) (hone _ (by decide) (by decide))

/-- The value of a quoted flag is logged. -/
theorem quoted_flag_shows :
    ¬ ∀ front spelling back, MaskedValue ShellWords.split front spelling back →
      ∀ other, WordAt front other back →
        LoggedAlike ShellWords.split front back spelling other := by
  intro hclaim
  have hword : WordAt "cp /f s3://b/k \"--target-secret-access-key\" ".toList
      "SECRET".toList [] :=
    ⟨by decide +kernel, ⟨_, spells_secret⟩, nofun, by decide⟩
  have halike := hclaim _ _ _
    ⟨hword, inlineCredential, 3, "--target-secret-access-key".toList, by decide +kernel,
      by decide +kernel, rfl, ⟨by decide, by decide, by decide +kernel⟩, by decide +kernel⟩
    "OTHER".toList (hword.replace spells_other (by decide))
  exact absurd (halike " 'oops".toList (by decide +kernel) (by decide +kernel))
    (by decide +kernel)

end S7cmd.BatchRun
