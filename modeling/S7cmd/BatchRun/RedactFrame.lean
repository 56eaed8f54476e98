import S7cmd.BatchRun.Redact
import S7cmd.Foundation.ShellWords

/-!
# What redaction leaves alone

`redact_secrets` looks for the names of secret flags in the raw text before it
looks at any word, and a word counts as a secret flag for what stands behind its
`=` as well. The first spares lines whose flags are quoted, the second masks
words that follow an option of any name.
-/

namespace S7cmd.BatchRun

open Foundation

/-- Whether a part of the name of a secret flag occurs in the text. -/
def mentionsSecret (text : Text) : Bool :=
  secretFlagSubstrings.any fun part => text.contains part

theorem mentionsSecret_mono {part whole : Text} (hpart : part <:+: whole)
    (hmentions : mentionsSecret part = true) : mentionsSecret whole = true := by
  obtain ⟨name, hname, hcontains⟩ := List.any_eq_true.mp hmentions
  refine List.any_eq_true.mpr ⟨name, hname, ?_⟩
  simp only [Text.contains, decide_eq_true_eq] at hcontains ⊢
  exact hcontains.trans hpart

/-- The name of a secret flag mentions one. -/
theorem mentionsSecret_of_isSecretFlag {flag : Text} (hsecret : isSecretFlag flag = true) :
    mentionsSecret flag = true := by
  have hname : mentionsSecret (flag.trimStartMatches '-') = true := hsecret
  exact mentionsSecret_mono (List.dropWhile_suffix _).isInfix hname

theorem redactSecrets_of_not_mentions {shlexSplit : Text → Option (List Text)} {raw : Text}
    (hquiet : mentionsSecret raw = false) : redactSecrets shlexSplit raw = raw := by
  unfold mentionsSecret at hquiet
  simp only [redactSecrets, hquiet, Bool.not_false, if_true]

/-- What a line with these words is logged as when its text is not searched first. -/
def tokenPath (tokens : List Text) (raw : Text) : Text := (redactTokens tokens).getD raw

theorem redactSecrets_of_mentions {shlexSplit : Text → Option (List Text)} {raw : Text}
    {tokens : List Text} (hmentions : mentionsSecret raw = true)
    (hsplit : shlexSplit raw = some tokens) :
    redactSecrets shlexSplit raw = tokenPath tokens raw := by
  unfold mentionsSecret at hmentions
  simp only [redactSecrets, hmentions, hsplit, tokenPath, Bool.not_true, Bool.false_eq_true,
    if_false]

/-! ## Which lines are masked -/

/-- Some word of the line is masked: a secret `--flag=value`, or the word after
one that takes a value. -/
def Masks (tokens : List Text) : Prop :=
  ∃ index tok, tokens[index]? = some tok ∧
    ((maskEquals tok).isSome = true ∨ takesValue tok = true ∧ index + 1 < tokens.length)

theorem not_masks_nil : ¬ Masks [] := by
  rintro ⟨index, tok, htok, -⟩
  cases htok

theorem masks_cons {tok : Text} {rest : List Text} :
    Masks (tok :: rest) ↔
      ((maskEquals tok).isSome = true ∨ takesValue tok = true ∧ rest ≠ []) ∨ Masks rest := by
  constructor
  · rintro ⟨index, word, hword, hmask⟩
    cases index with
    | zero =>
        cases hword
        refine Or.inl (hmask.imp id fun htakes => ⟨htakes.1, ?_⟩)
        rintro rfl
        exact absurd htakes.2 (by simp)
    | succ index =>
        exact Or.inr ⟨index, word, hword,
          hmask.imp id fun htakes => ⟨htakes.1, by simpa using htakes.2⟩⟩
  · rintro (hmask | ⟨index, word, hword, hmask⟩)
    · refine ⟨0, tok, rfl, hmask.imp id fun htakes => ⟨htakes.1, ?_⟩⟩
      have hpositive := List.length_pos_iff.mpr htakes.2
      simpa using hpositive
    · exact ⟨index + 1, word, hword,
        hmask.imp id fun htakes => ⟨htakes.1, by simpa using htakes.2⟩⟩

theorem redactLoop_masked (tokens out : List Text) (masked : Bool) :
    (redactLoop tokens out masked).2 = true ↔ masked = true ∨ Masks tokens := by
  fun_induction redactLoop tokens out masked with
  | case1 => simp [not_masks_nil]
  | case2 tok rest out masked word hword ih => simp [ih, masks_cons, hword]
  | case3 tok out masked hnone hflag value after ih =>
      simp [ih, masks_cons, takesValue, hnone, hflag]
  | case4 tok out masked hnone hflag => simp [masks_cons, hnone, not_masks_nil]
  | case5 tok rest out masked hnone hflag ih =>
      simp [ih, masks_cons, takesValue, hnone, hflag]

theorem redactTokens_of_masks {tokens : List Text} (hmasks : Masks tokens) :
    redactTokens tokens = some (joinTokens (redactedWords tokens)) := by
  have hmasked := (redactLoop_masked tokens [] false).mpr (Or.inr hmasks)
  simp only [redactTokens, redactedWords, hmasked, if_true]

theorem redactTokens_of_not_masks {tokens : List Text} (hnone : ¬ Masks tokens) :
    redactTokens tokens = none := by
  have hmasked : (redactLoop tokens [] false).2 = false := by
    rw [Bool.eq_false_iff]
    intro hmasked
    exact hnone (((redactLoop_masked tokens [] false).mp hmasked).resolve_left Bool.false_ne_true)
  simp only [redactTokens, hmasked, Bool.false_eq_true, if_false]

/-- What is masked stays recognisable: its flag is written. -/
theorem redactLoop_mentions (tokens out : List Text) (masked : Bool)
    (hout : masked = true → ∃ word ∈ out, mentionsSecret word = true)
    (hmasked : (redactLoop tokens out masked).2 = true) :
    ∃ word ∈ (redactLoop tokens out masked).1, mentionsSecret word = true := by
  fun_induction redactLoop tokens out masked with
  | case1 => exact hout hmasked
  | case2 tok rest out masked word hword ih =>
      apply ih _ hmasked
      intro _
      refine ⟨word, by simp, ?_⟩
      obtain ⟨name, value, -, -, -, hsecret, rfl⟩ := maskEquals_eq_some hword
      exact mentionsSecret_mono (List.prefix_append _ _).isInfix
        (mentionsSecret_of_isSecretFlag hsecret)
  | case3 tok out masked hnone hflag value after ih =>
      apply ih _ hmasked
      intro _
      rw [Bool.and_eq_true] at hflag
      exact ⟨tok, by simp, mentionsSecret_of_isSecretFlag hflag.2⟩
  | case4 tok out masked hnone hflag =>
      obtain ⟨word, hword, hmentions⟩ := hout hmasked
      exact ⟨word, List.mem_append_left _ hword, hmentions⟩
  | case5 tok rest out masked hnone hflag ih =>
      apply ih _ hmasked
      intro hearlier
      obtain ⟨word, hword, hmentions⟩ := hout hearlier
      exact ⟨word, List.mem_append_left _ hword, hmentions⟩

theorem infix_joinTokens {word : Text} {words : List Text} (hword : word ∈ words) :
    word <:+: joinTokens words := by
  obtain ⟨before, after, rfl⟩ := List.append_of_mem hword
  obtain ⟨left, right, hjoin⟩ := joinTokens_around before after
  exact ⟨left, right, (hjoin word).symm⟩

theorem mentionsSecret_redacted {tokens : List Text} (hmasks : Masks tokens) :
    mentionsSecret (joinTokens (redactedWords tokens)) = true := by
  have hmasked := (redactLoop_masked tokens [] false).mpr (Or.inr hmasks)
  obtain ⟨word, hword, hmentions⟩ := redactLoop_mentions tokens [] false
    (fun hearlier => absurd hearlier Bool.false_ne_true) hmasked
  have hwords : redactedWords tokens = (redactLoop tokens [] false).1 := by
    simp only [redactedWords, hmasked, if_true]
  rw [hwords]
  exact mentionsSecret_mono (infix_joinTokens hword) hmentions

/-! ## The search of the raw text -/

/-- Searching the raw text first changes nothing exactly if the search succeeds or
no word of the line would be masked. -/
theorem redactSecrets_eq_tokenPath_iff (shlexSplit : Text → Option (List Text)) (raw : Text)
    (tokens : List Text) (hsplit : shlexSplit raw = some tokens) :
    redactSecrets shlexSplit raw = tokenPath tokens raw ↔
      mentionsSecret raw = true ∨ ¬ Masks tokens := by
  cases hmentions : mentionsSecret raw with
  | true => simp [redactSecrets_of_mentions hmentions hsplit]
  | false =>
      rw [redactSecrets_of_not_mentions hmentions]
      by_cases hmasks : Masks tokens
      · simp only [tokenPath, redactTokens_of_masks hmasks, Option.getD_some, Bool.false_eq_true,
          hmasks, not_true_eq_false, or_self, iff_false]
        intro hsame
        have hshown := mentionsSecret_redacted hmasks
        rw [← hsame, hmentions] at hshown
        cases hshown
      · simp [tokenPath, redactTokens_of_not_masks hmasks, hmasks]

/-- The words of a copy that gets its credential inline. -/
def inlineCredential : List Text :=
  ["cp", "/f", "s3://b/k", "--target-secret-access-key", "SECRET"].map String.toList

theorem redactSecrets_eq_tokenPath_unquoted :
    redactSecrets ShellWords.split (joinTokens inlineCredential) =
      tokenPath inlineCredential (joinTokens inlineCredential) :=
  (redactSecrets_eq_tokenPath_iff _ _ _ (by decide +kernel)).mpr (Or.inl (by decide +kernel))

/-- A flag with a quote inside its name is not found in the raw text. -/
theorem quoted_flag_survives :
    ¬ ∀ raw tokens, ShellWords.split raw = some tokens →
      redactSecrets ShellWords.split raw = tokenPath tokens raw := by
  intro hclaim
  have hsame := hclaim "cp /f s3://b/k --target-secret-acc\"ess-key\" SECRET".toList
    inlineCredential (by decide +kernel)
  exact absurd hsame (by decide +kernel)

/-! ## Credentials and other words -/

/-- A secret flag in the `--flag value` form. -/
structure SecretOption (tok : Text) : Prop where
  dash : tok.startsWith '-' = true
  bare : '=' ∉ tok
  secret : isSecretFlag tok = true

/-- The word at this index is the value of a secret option. -/
def FollowsSecretOption (tokens : List Text) (index : Nat) : Prop :=
  ∃ before option, index = before + 1 ∧ tokens[before]? = some option ∧ SecretOption option

/-- An option in the `--flag=value` form that is no secret one, taken for a secret
flag for what stands behind its `=`, and the word after it. -/
structure MistakenFlag (tokens : List Text) (index : Nat) (flag value : Text) : Prop where
  flag_at : tokens[index]? = some flag
  equals : '=' ∈ flag
  takes : takesValue flag = true
  read : Even (takersBefore tokens index)
  value_at : tokens[index + 1]? = some value

def NoCredential (tokens : List Text) : Prop :=
  (∀ tok ∈ tokens, ¬ SecretOption tok) ∧
    ∀ index name value, ¬ SecretEqualsAt tokens index name value

/-- The words of the line that is logged. -/
def loggedWords (raw : Text) (tokens : List Text) : List Text :=
  if mentionsSecret raw then redactedWords tokens else tokens

theorem loggedWords_of_mentions {raw : Text} (hmentions : mentionsSecret raw = true)
    (tokens : List Text) : loggedWords raw tokens = redactedWords tokens := by
  rw [loggedWords, if_pos hmentions]

theorem loggedWords_of_not_mentions {raw : Text} (hmentions : mentionsSecret raw = false)
    (tokens : List Text) : loggedWords raw tokens = tokens := by
  simp [loggedWords, hmentions]

/-- Redaction touches credentials only. -/
structure OnlyCredentialsTouched (shlexSplit : Text → Option (List Text)) (raw : Text)
    (tokens : List Text) : Prop where
  /-- any other word is logged as it is, at its place -/
  words : ∀ index tok, tokens[index]? = some tok → ¬ FollowsSecretOption tokens index →
    (∀ name value, ¬ SecretEqualsAt tokens index name value) →
      (loggedWords raw tokens)[index]? = some tok
  /-- of a secret `--flag=value` the name is logged -/
  names : ∀ index name value, SecretEqualsAt tokens index name value →
    ¬ FollowsSecretOption tokens index →
      ∃ shown, (loggedWords raw tokens)[index]? = some (name ++ '=' :: shown)
  /-- a line without credentials is logged unchanged -/
  line : NoCredential tokens → redactSecrets shlexSplit raw = raw

/-- The scan expects a value only behind a word that takes one. -/
theorem takesValue_of_stateAfter {tokens : List Text} {index : Nat}
    (hlt : index < tokens.length)
    (hexpected : scanner.stateAfter (tokens.take index) = true) :
    ∃ before flag, index = before + 1 ∧ tokens[before]? = some flag ∧ takesValue flag = true ∧
      Even (takersBefore tokens before) := by
  cases index with
  | zero => cases hexpected
  | succ before =>
      have hflag : tokens[before]? = some tokens[before] := List.getElem?_eq_getElem _
      rw [List.take_add_one, hflag, Option.toList_some, scanner.stateAfter_concat, scanner_next,
        Bool.and_eq_true, Bool.not_eq_true'] at hexpected
      refine ⟨before, tokens[before], rfl, hflag, hexpected.2, ?_⟩
      by_contra hodd
      rw [(stateAfter_take tokens before).mpr hodd] at hexpected
      exact absurd hexpected.1 (by simp)

theorem secretOption_of_takesValue {flag : Text} (htakes : takesValue flag = true)
    (hbare : '=' ∉ flag) : SecretOption flag := by
  simp only [takesValue, Bool.and_eq_true] at htakes
  exact ⟨htakes.2.1, hbare, htakes.2.2⟩

/-- A word that is expected as a value follows a secret option or a mistaken one. -/
theorem mistakenFlag_of_stateAfter {tokens : List Text} {index : Nat} {tok : Text}
    (htok : tokens[index]? = some tok)
    (hexpected : scanner.stateAfter (tokens.take index) = true)
    (hfollows : ¬ FollowsSecretOption tokens index) :
    ∃ before flag, MistakenFlag tokens before flag tok := by
  have hlt := (List.getElem?_eq_some_iff.mp htok).1
  obtain ⟨before, flag, rfl, hflag, htakes, hread⟩ := takesValue_of_stateAfter hlt hexpected
  by_cases hequals : '=' ∈ flag
  · exact ⟨before, flag, hflag, hequals, htakes, hread, htok⟩
  · exact absurd ⟨before, flag, rfl, hflag, secretOption_of_takesValue htakes hequals⟩ hfollows

theorem redactedWords_of_expected {tokens : List Text} {index : Nat} {tok : Text}
    (htok : tokens[index]? = some tok)
    (hexpected : scanner.stateAfter (tokens.take index) = true) :
    (redactedWords tokens)[index]? = some redacted := by
  rw [redactedWords_eq, scanner.getElem?_output, htok, hexpected]
  rfl

theorem redactedWords_of_read {tokens : List Text} {index : Nat} {tok : Text}
    (htok : tokens[index]? = some tok)
    (hread : scanner.stateAfter (tokens.take index) = false) :
    (redactedWords tokens)[index]? = some ((maskEquals tok).getD tok) := by
  rw [redactedWords_eq, scanner.getElem?_output, htok, hread]
  rfl

namespace MistakenFlag

variable {tokens : List Text} {index : Nat} {flag value : Text}

theorem stateAfter_succ (hmistaken : MistakenFlag tokens index flag value) :
    scanner.stateAfter (tokens.take (index + 1)) = true := by
  have hread : scanner.stateAfter (tokens.take index) = false := by
    rw [Bool.eq_false_iff, Ne, stateAfter_take, not_not]
    exact hmistaken.read
  rw [List.take_add_one, hmistaken.flag_at, Option.toList_some, scanner.stateAfter_concat,
    scanner_next, hread, hmistaken.takes]
  rfl

theorem masks (hmistaken : MistakenFlag tokens index flag value) : Masks tokens :=
  ⟨index, flag, hmistaken.flag_at,
    Or.inr ⟨hmistaken.takes, (List.getElem?_eq_some_iff.mp hmistaken.value_at).1⟩⟩

/-- The word behind a mistaken flag is no value of a secret option. -/
theorem not_followsSecretOption (hmistaken : MistakenFlag tokens index flag value) :
    ¬ FollowsSecretOption tokens (index + 1) := by
  rintro ⟨before, option, hindex, hoption, hsecret⟩
  cases hindex
  cases hmistaken.flag_at.symm.trans hoption
  exact hsecret.bare hmistaken.equals

end MistakenFlag

/-- A line without credentials is masked only behind a mistaken flag. -/
theorem exists_mistakenFlag {tokens : List Text} (hnone : NoCredential tokens)
    (hmasks : Masks tokens) : ∃ index flag value, MistakenFlag tokens index flag value := by
  have hfollows : ∀ index, ¬ FollowsSecretOption tokens index := by
    rintro index ⟨before, option, -, hoption, hsecret⟩
    exact hnone.1 option (List.mem_of_getElem? hoption) hsecret
  obtain ⟨index, tok, htok, hmask⟩ := hmasks
  rcases hmask with hmask | ⟨htakes, hlt⟩
  · obtain ⟨word, hword⟩ := Option.isSome_iff_exists.mp hmask
    obtain ⟨name, value, rfl, hbare, hdash, hsecret, -⟩ := maskEquals_eq_some hword
    exact absurd ⟨htok, hdash, hbare, hsecret⟩ (hnone.2 index name value)
  · cases hstate : scanner.stateAfter (tokens.take index) with
    | true =>
        obtain ⟨before, flag, hmistaken⟩ := mistakenFlag_of_stateAfter htok hstate (hfollows index)
        exact ⟨before, flag, tok, hmistaken⟩
    | false =>
        have hread : Even (takersBefore tokens index) := by
          by_contra hodd
          rw [(stateAfter_take tokens index).mpr hodd] at hstate
          cases hstate
        have hequals : '=' ∈ tok := by
          by_contra hbare
          exact hnone.1 tok (List.mem_of_getElem? htok) (secretOption_of_takesValue htakes hbare)
        exact ⟨index, tok, tokens[index + 1], htok, hequals, htakes, hread,
          List.getElem?_eq_getElem hlt⟩

/-- The scan of a line leaves words that are no credentials alone if every word
behind a mistaken flag is the placeholder already. -/
theorem redactedWords_untouched {tokens : List Text}
    (hplaceholder : ∀ index flag value, MistakenFlag tokens index flag value → value = redacted)
    {index : Nat} {tok : Text} (htok : tokens[index]? = some tok)
    (hfollows : ¬ FollowsSecretOption tokens index) :
    (redactedWords tokens)[index]? = some ((maskEquals tok).getD tok) := by
  cases hstate : scanner.stateAfter (tokens.take index) with
  | true =>
      obtain ⟨before, flag, hmistaken⟩ := mistakenFlag_of_stateAfter htok hstate hfollows
      rw [redactedWords_of_expected htok hstate, hplaceholder before flag tok hmistaken]
      rfl
  | false => exact redactedWords_of_read htok hstate

theorem maskEquals_eq_none_of {tokens : List Text} {index : Nat} {tok : Text}
    (htok : tokens[index]? = some tok)
    (hnone : ∀ name value, ¬ SecretEqualsAt tokens index name value) : maskEquals tok = none := by
  rw [Option.eq_none_iff_forall_ne_some]
  intro word hword
  obtain ⟨name, value, rfl, hbare, hdash, hsecret, -⟩ := maskEquals_eq_some hword
  exact hnone name value ⟨htok, hdash, hbare, hsecret⟩

theorem equals_not_mem_redacted : '=' ∉ redacted := by decide

/-- A line without credentials has no words to mask but those behind mistaken
flags. -/
theorem redactedWords_of_noCredential {tokens : List Text} (hnone : NoCredential tokens)
    (hplaceholder : ∀ index flag value, MistakenFlag tokens index flag value → value = redacted) :
    redactedWords tokens = tokens := by
  apply List.ext_getElem?
  intro index
  cases htok : tokens[index]? with
  | none =>
      rw [redactedWords_eq, scanner.getElem?_output, htok]
      rfl
  | some tok =>
      have hfollows : ¬ FollowsSecretOption tokens index := by
        rintro ⟨before, option, -, hoption, hsecret⟩
        exact hnone.1 option (List.mem_of_getElem? hoption) hsecret
      rw [redactedWords_untouched hplaceholder htok hfollows,
        maskEquals_eq_none_of htok (hnone.2 index)]
      rfl

/-- Nothing is touched of a line in which no secret name occurs. -/
theorem onlyCredentialsTouched_of_not_mentions {shlexSplit : Text → Option (List Text)}
    {raw : Text} (hmentions : mentionsSecret raw = false) (tokens : List Text) :
    OnlyCredentialsTouched shlexSplit raw tokens where
  words := by
    intro index tok htok _ _
    rw [loggedWords_of_not_mentions hmentions]
    exact htok
  names := by
    intro index name value hequals _
    refine ⟨value, ?_⟩
    rw [loggedWords_of_not_mentions hmentions]
    exact hequals.token_at
  line := fun _ => redactSecrets_of_not_mentions hmentions

section Mentions

variable {shlexSplit : Text → Option (List Text)} {raw : Text} {tokens : List Text}

/-- If redaction touches credentials only, what stands behind a mistaken flag is the
placeholder already. -/
theorem OnlyCredentialsTouched.placeholder (htouched : OnlyCredentialsTouched shlexSplit raw tokens)
    (hmentions : mentionsSecret raw = true) {index : Nat} {flag value : Text}
    (hmistaken : MistakenFlag tokens index flag value) : value = redacted := by
  have hwords := loggedWords_of_mentions hmentions tokens
  have hmasked := redactedWords_of_expected hmistaken.value_at hmistaken.stateAfter_succ
  have hfollows := hmistaken.not_followsSecretOption
  by_cases hequals : ∃ name hidden, SecretEqualsAt tokens (index + 1) name hidden
  · -- the whole word is masked, its name included
    obtain ⟨name, hidden, hequals⟩ := hequals
    obtain ⟨shown, hshown⟩ := htouched.names _ name hidden hequals hfollows
    rw [hwords] at hshown
    have hname := Option.some.inj (hmasked.symm.trans hshown)
    have hequals : '=' ∈ redacted := by simp [hname]
    exact absurd hequals equals_not_mem_redacted
  · have hsame := htouched.words _ value hmistaken.value_at hfollows
      fun name hidden hsecret => hequals ⟨name, hidden, hsecret⟩
    rw [hwords] at hsame
    exact Option.some.inj (hsame.symm.trans hmasked)

theorem redactSecrets_of_not_masks (hsplit : shlexSplit raw = some tokens)
    (hmentions : mentionsSecret raw = true) (hmasks : ¬ Masks tokens) :
    redactSecrets shlexSplit raw = raw := by
  rw [redactSecrets_of_mentions hmentions hsplit, tokenPath, redactTokens_of_not_masks hmasks,
    Option.getD_none]

/-- The words of a line whose mistaken flags hide nothing are joined again. -/
theorem redactSecrets_of_placeholder (hsplit : shlexSplit raw = some tokens)
    (hmentions : mentionsSecret raw = true) (hmasks : Masks tokens) (hnone : NoCredential tokens)
    (hplaceholder : ∀ index flag value, MistakenFlag tokens index flag value → value = redacted) :
    redactSecrets shlexSplit raw = joinTokens tokens := by
  rw [redactSecrets_of_mentions hmentions hsplit, tokenPath, redactTokens_of_masks hmasks,
    Option.getD_some, redactedWords_of_noCredential hnone hplaceholder]

/-- If no mistaken flag hides anything, no word but a credential is touched. -/
theorem onlyCredentialsTouched_of_placeholder (hmentions : mentionsSecret raw = true)
    (hplaceholder : ∀ index flag value, MistakenFlag tokens index flag value → value = redacted)
    (hline : NoCredential tokens → redactSecrets shlexSplit raw = raw) :
    OnlyCredentialsTouched shlexSplit raw tokens where
  words := by
    intro index tok htok hfollows hnone
    rw [loggedWords_of_mentions hmentions, redactedWords_untouched hplaceholder htok hfollows,
      maskEquals_eq_none_of htok hnone]
    rfl
  names := by
    intro index name value hequals hfollows
    refine ⟨redacted, ?_⟩
    rw [loggedWords_of_mentions hmentions,
      redactedWords_untouched hplaceholder hequals.token_at hfollows,
      maskEquals_of_secret value hequals.dash hequals.bare hequals.secret]
    rfl
  line := hline

end Mentions

/-- Redaction touches credentials only, exactly if no secret name occurs in the
raw text or no option of another name is mistaken for a secret flag. Where the word
behind a mistaken one is the placeholder already, the line must be spaced as
redaction spaces it. -/
theorem onlyCredentialsTouched_iff (shlexSplit : Text → Option (List Text)) (raw : Text)
    (tokens : List Text) (hsplit : shlexSplit raw = some tokens) :
    OnlyCredentialsTouched shlexSplit raw tokens ↔
      mentionsSecret raw = false ∨
        (∀ index flag value, MistakenFlag tokens index flag value → value = redacted) ∧
          (NoCredential tokens → (∀ index flag value, ¬ MistakenFlag tokens index flag value) ∨
            raw = joinTokens tokens) := by
  cases hmentions : mentionsSecret raw with
  | false =>
      exact iff_of_true (onlyCredentialsTouched_of_not_mentions hmentions tokens) (Or.inl rfl)
  | true =>
      rw [Bool.true_eq_false, false_or]
      constructor
      · intro htouched
        have hplaceholder : ∀ index flag value, MistakenFlag tokens index flag value →
            value = redacted := fun _ _ _ => htouched.placeholder hmentions
        refine ⟨hplaceholder, fun hnone => ?_⟩
        by_cases hmasks : Masks tokens
        · have hsame := htouched.line hnone
          rw [redactSecrets_of_placeholder hsplit hmentions hmasks hnone hplaceholder] at hsame
          exact Or.inr hsame.symm
        · exact Or.inl fun index flag value hmistaken => hmasks hmistaken.masks
      · rintro ⟨hplaceholder, hspacing⟩
        refine onlyCredentialsTouched_of_placeholder hmentions hplaceholder fun hnone => ?_
        by_cases hmasks : Masks tokens
        · obtain ⟨index, flag, value, hmistaken⟩ := exists_mistakenFlag hnone hmasks
          have hspaced := (hspacing hnone).resolve_left fun hall => hall index flag value hmistaken
          rw [redactSecrets_of_placeholder hsplit hmentions hmasks hnone hplaceholder]
          exact hspaced.symm
        · exact redactSecrets_of_not_masks hsplit hmentions hmasks

/-- A line whose only credential is an inline one. -/
theorem inlineCredential_only_touched :
    OnlyCredentialsTouched ShellWords.split (joinTokens inlineCredential) inlineCredential := by
  have hmistaken : ∀ index flag value, ¬ MistakenFlag inlineCredential index flag value := by
    intro index flag value hmistaken
    have hmem := List.mem_of_getElem? hmistaken.flag_at
    have hbare : ∀ tok ∈ inlineCredential, '=' ∉ tok := by decide
    exact hbare flag hmem hmistaken.equals
  exact (onlyCredentialsTouched_iff _ _ _ (by decide +kernel)).mpr
    (Or.inr ⟨fun index flag value hflag => absurd hflag (hmistaken index flag value),
      fun _ => Or.inl hmistaken⟩)

/-- A tag that contains `access-key` has the word after it masked. -/
theorem tag_masks_next_word :
    ¬ ∀ raw tokens, ShellWords.split raw = some tokens →
      OnlyCredentialsTouched ShellWords.split raw tokens := by
  intro hclaim
  have htouched := (hclaim "cp --tagging=topic=access-key /f s3://b/k".toList
    (["cp", "--tagging=topic=access-key", "/f", "s3://b/k"].map String.toList)
    (by decide +kernel)).words 2 "/f".toList rfl
  have hfollows : ¬ FollowsSecretOption
      (["cp", "--tagging=topic=access-key", "/f", "s3://b/k"].map String.toList) 2 := by
    rintro ⟨before, option, hindex, hoption, hsecret⟩
    cases hindex
    cases hoption
    exact hsecret.bare (by decide)
  have hshown := htouched hfollows fun name value hequals => by
    have hin : '=' ∈ "/f".toList := by
      rw [Option.some.inj hequals.token_at]
      simp
    exact absurd hin (by decide)
  exact absurd hshown (by decide +kernel)

end S7cmd.BatchRun
