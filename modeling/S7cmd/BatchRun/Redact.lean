import S7cmd.Foundation.PointUpdate
import S7cmd.Foundation.Transducer
import S7cmd.Text
import Mathlib.Algebra.Ring.Parity

/-!
# Redaction of inline credentials

`redact_tokens` scans the words of a line and masks the value of every secret
flag it comes to. It takes the word after such a flag for its value whatever
that word is, so a flag that is itself taken for a value does not get its own
value masked.
-/

namespace S7cmd.BatchRun

open Foundation

/-- The placeholder for a masked value. -/
def redacted : Text := "****".toList

def secretFlagSubstrings : List Text :=
  ["access-key".toList, "session-token".toList, "sse-c-key".toList]

/-- Whether a token names a credential argument. -/
def isSecretFlag (flag : Text) : Bool :=
  let name := flag.trimStartMatches '-'
  secretFlagSubstrings.any fun part => name.contains part

/-- The `--flag=value` form: the masked token, if this is a secret one. -/
def maskEquals (tok : Text) : Option Text :=
  if tok.startsWith '-' then
    match tok.before? '=' with
    | some name => if isSecretFlag name then some (name ++ '=' :: redacted) else none
    | none => none
  else none

/-- The scan, with the words written so far and whether one has been masked. -/
def redactLoop : List Text → List Text → Bool → List Text × Bool
  | [], out, masked => (out, masked)
  | tok :: rest, out, masked =>
      match maskEquals tok with
      | some word => redactLoop rest (out ++ [word]) true
      | none =>
          -- the whole token is tested, what stands behind a `=` included
          if tok.startsWith '-' && isSecretFlag tok then
            match rest with
            | _ :: after => redactLoop after (out ++ [tok, redacted]) true
            -- a secret flag with no value after it
            | [] => (out ++ [tok], masked)
          else redactLoop rest (out ++ [tok]) masked

def joinTokens (tokens : List Text) : Text := Text.join [' '] tokens

/-- The rejoined line, if a value was masked. -/
def redactTokens (tokens : List Text) : Option Text :=
  let (out, masked) := redactLoop tokens [] false
  if masked then some (joinTokens out) else none

/-- The scan over the words of a line that has no tokens. -/
def redactWhitespaceLoop : List Text → List Text → Bool → Bool → List Text × Bool
  | [], out, masked, _ => (out, masked)
  | _ :: rest, out, _, true => redactWhitespaceLoop rest (out ++ [redacted]) true false
  | word :: rest, out, masked, false =>
      match maskEquals word with
      | some hidden => redactWhitespaceLoop rest (out ++ [hidden]) true false
      | none =>
          if word.startsWith '-' && isSecretFlag word then
            redactWhitespaceLoop rest (out ++ [word]) masked true
          else redactWhitespaceLoop rest (out ++ [word]) masked false

def redactWhitespace (raw : Text) : Option Text :=
  let (out, masked) := redactWhitespaceLoop raw.splitWhitespace [] false false
  if masked then some (Text.join [' '] out) else none

/-- The text of a line as it is logged. -/
def redactSecrets (shlexSplit : Text → Option (List Text)) (raw : Text) : Text :=
  if !secretFlagSubstrings.any fun part => raw.contains part then raw
  else match shlexSplit raw with
    | some tokens => (redactTokens tokens).getD raw
    | none => (redactWhitespace raw).getD raw

/-- The words of the line that is logged: the original words if none was masked. -/
def redactedWords (tokens : List Text) : List Text :=
  let (out, masked) := redactLoop tokens [] false
  if masked then out else tokens

/-- The line that is logged. -/
def redactedLine (tokens : List Text) : Text := (redactTokens tokens).getD (joinTokens tokens)

theorem redactedLine_eq (tokens : List Text) :
    redactedLine tokens = joinTokens (redactedWords tokens) := by
  unfold redactedLine redactTokens redactedWords
  dsimp only
  split <;> rfl

/-! ## The scan as a transducer -/

/-- A token after which the scan takes the next one for a value. -/
def takesValue (tok : Text) : Bool :=
  (maskEquals tok).isNone && (tok.startsWith '-' && isSecretFlag tok)

/-- The scan, one word at a time; its state says whether the next word is a
value to mask. -/
def scanner : Transducer Bool Text Text where
  initial := false
  next := fun expecting tok => !expecting && takesValue tok
  write := fun expecting tok => if expecting then redacted else (maskEquals tok).getD tok

@[simp] theorem scanner_next (expecting : Bool) (tok : Text) :
    scanner.next expecting tok = (!expecting && takesValue tok) := rfl

@[simp] theorem scanner_write_true (tok : Text) : scanner.write true tok = redacted := rfl

@[simp] theorem scanner_write_false (tok : Text) :
    scanner.write false tok = (maskEquals tok).getD tok := rfl

theorem redactLoop_words (tokens out : List Text) (masked : Bool) :
    (redactLoop tokens out masked).1 = out ++ scanner.outputFrom false tokens := by
  fun_induction redactLoop tokens out masked with
  | case1 => simp [Transducer.outputFrom]
  | case2 tok rest out masked word hword ih =>
      simp [ih, Transducer.outputFrom, hword, takesValue]
  | case3 tok out masked hnone hflag value after ih =>
      simp [ih, Transducer.outputFrom, hnone, takesValue, hflag]
  | case4 tok out masked hnone hflag => simp [Transducer.outputFrom, hnone]
  | case5 tok rest out masked hnone hflag ih =>
      simp [ih, Transducer.outputFrom, hnone, takesValue, hflag]

/-- When nothing is masked the words are the tokens themselves. -/
theorem redactLoop_unmasked {tokens out : List Text} {masked : Bool}
    (hunmasked : (redactLoop tokens out masked).2 = false) :
    masked = false ∧ scanner.outputFrom false tokens = tokens := by
  fun_induction redactLoop tokens out masked with
  | case1 => exact ⟨hunmasked, rfl⟩
  | case2 tok rest out masked word hword ih => cases (ih hunmasked).1
  | case3 tok out masked hnone hflag value after ih => cases (ih hunmasked).1
  | case4 tok out masked hnone hflag =>
      exact ⟨hunmasked, by simp [Transducer.outputFrom, hnone]⟩
  | case5 tok rest out masked hnone hflag ih =>
      obtain ⟨hmasked, hrest⟩ := ih hunmasked
      exact ⟨hmasked, by simp [Transducer.outputFrom, hnone, takesValue, hflag, hrest]⟩

theorem redactedWords_eq (tokens : List Text) :
    redactedWords tokens = scanner.output tokens := by
  have hwords := redactLoop_words tokens [] false
  rw [List.nil_append] at hwords
  unfold redactedWords
  dsimp only
  split
  next hmasked => exact hwords
  next hunmasked => exact (redactLoop_unmasked (by simpa using hunmasked)).2.symm

/-- The two scans are one: they differ only in when they take the value. -/
theorem redactWhitespaceLoop_eq (words out : List Text) (masked : Bool) :
    redactWhitespaceLoop words out masked false = redactLoop words out masked := by
  fun_induction redactLoop words out masked with
  | case1 => rfl
  | case2 tok rest out masked word hword ih => simp only [redactWhitespaceLoop, hword, ih]
  | case3 tok out masked hnone hflag value after ih =>
      simp only [redactWhitespaceLoop, hnone, hflag, if_true, List.append_assoc] at ih ⊢
      exact ih
  | case4 tok out masked hnone hflag => simp only [redactWhitespaceLoop, hnone, hflag, if_true]
  | case5 tok rest out masked hnone hflag ih =>
      rw [Bool.not_eq_true] at hflag
      simp only [redactWhitespaceLoop, hnone, hflag, Bool.false_eq_true, if_false, ih]

theorem redactWhitespace_eq (raw : Text) :
    redactWhitespace raw = redactTokens raw.splitWhitespace := by
  unfold redactWhitespace redactTokens
  rw [redactWhitespaceLoop_eq]
  rfl

/-! ## Where the scan expects a value -/

/-- How many tokens in a row before this index take a value. -/
def takersBefore (tokens : List Text) (index : Nat) : Nat :=
  ((tokens.take index).reverse.takeWhile takesValue).length

/-- The scan expects a value after a run of value-taking tokens of odd length:
each second one of them is itself masked. -/
theorem stateAfter_iff_odd (tokens : List Text) :
    scanner.stateAfter tokens = true ↔ Odd (tokens.reverse.takeWhile takesValue).length := by
  induction tokens using List.reverseRecOn with
  | nil => decide
  | append_singleton tokens tok ih =>
      rw [scanner.stateAfter_concat, scanner_next, List.reverse_concat, List.takeWhile_cons]
      by_cases htakes : takesValue tok = true
      · rw [htakes, if_pos rfl, List.length_cons, Nat.odd_add_one, ← ih, Bool.and_true,
          Bool.not_eq_true']
        exact Bool.eq_false_iff
      · simp [htakes]

theorem stateAfter_take (tokens : List Text) (index : Nat) :
    scanner.stateAfter (tokens.take index) = true ↔ ¬ Even (takersBefore tokens index) := by
  rw [stateAfter_iff_odd, takersBefore, Nat.not_even_iff_odd]

/-- Two lines that differ in one word only differ. -/
theorem joinTokens_around (before after : List Text) :
    ∃ left right : Text, ∀ word, joinTokens (before ++ word :: after) = left ++ word ++ right := by
  induction before with
  | nil =>
      cases after with
      | nil => exact ⟨[], [], fun word => by simp [joinTokens, Text.join]⟩
      | cons next rest =>
          refine ⟨[], [' '] ++ joinTokens (next :: rest), fun word => ?_⟩
          simp [joinTokens, Text.join]
  | cons first rest ih =>
      obtain ⟨left, right, hjoin⟩ := ih
      refine ⟨first ++ [' '] ++ left, right, fun word => ?_⟩
      have hne : rest ++ word :: after ≠ [] := by simp
      rw [List.cons_append, joinTokens, Text.join, List.intercalate_cons_of_ne_nil hne]
      have hrest := hjoin word
      rw [joinTokens, Text.join] at hrest
      rw [hrest]
      simp only [List.append_assoc]

theorem joinTokens_set_injective {tokens : List Text} {index : Nat} {old new : Text}
    (hold : tokens[index]? = some old)
    (hsame : joinTokens (tokens.set index new) = joinTokens tokens) : new = old := by
  obtain ⟨before, after, -, hlist, hset⟩ := exists_split_of_getElem? hold
  obtain ⟨left, right, hjoin⟩ := joinTokens_around before after
  rw [hset, hlist, hjoin, hjoin] at hsame
  exact List.append_cancel_left (List.append_cancel_right hsame)

/-! ## Which credentials survive -/

/-- A secret flag in the `--flag value` form, and a value that is no flag. -/
structure SecretFlagAt (tokens : List Text) (index : Nat) (flag value : Text) : Prop where
  flag_at : tokens[index]? = some flag
  dash : flag.startsWith '-' = true
  bare : '=' ∉ flag
  secret : isSecretFlag flag = true
  value_at : tokens[index + 1]? = some value
  plain : value.startsWith '-' = false

/-- A secret flag in the `--flag=value` form. -/
structure SecretEqualsAt (tokens : List Text) (index : Nat) (name value : Text) : Prop where
  token_at : tokens[index]? = some (name ++ '=' :: value)
  dash : name.startsWith '-' = true
  bare : '=' ∉ name
  secret : isSecretFlag name = true

/-- The value of every secret flag is masked, and the line says nothing of it. -/
structure NoCredentialSurvives (tokens : List Text) : Prop where
  flags : ∀ index flag value, SecretFlagAt tokens index flag value →
    (redactedWords tokens)[index + 1]? = some redacted ∧
      ∀ other : Text, other.startsWith '-' = false →
        redactedLine (tokens.set (index + 1) other) = redactedLine tokens
  equals : ∀ index name value, SecretEqualsAt tokens index name value →
    ((redactedWords tokens)[index]? = some (name ++ '=' :: redacted) ∨
        (redactedWords tokens)[index]? = some redacted) ∧
      ∀ other, redactedLine (tokens.set index (name ++ '=' :: other)) = redactedLine tokens

theorem redactedLine_output (tokens : List Text) :
    redactedLine tokens = joinTokens (scanner.output tokens) := by
  rw [redactedLine_eq, redactedWords_eq]

theorem maskEquals_of_bare {tok : Text} (hbare : '=' ∉ tok) : maskEquals tok = none := by
  simp [maskEquals, Text.before?, hbare]

theorem maskEquals_of_plain {tok : Text} (hplain : tok.startsWith '-' = false) :
    maskEquals tok = none := by
  simp [maskEquals, hplain]

theorem takesValue_of_plain {tok : Text} (hplain : tok.startsWith '-' = false) :
    takesValue tok = false := by
  simp [takesValue, hplain]

theorem startsWith_assign (name value : Text) :
    Text.startsWith (name ++ '=' :: value) '-' = name.startsWith '-' := by
  cases name with
  | nil => rfl
  | cons first rest => rfl

/-- The `--flag=value` form is masked if its name is that of a secret flag. -/
theorem maskEquals_assign {name : Text} (value : Text) (hbare : '=' ∉ name) :
    maskEquals (name ++ '=' :: value) =
      if name.startsWith '-' && isSecretFlag name then some (name ++ '=' :: redacted)
      else none := by
  have hname : Text.before? (name ++ '=' :: value) '=' = some name := by
    have hall : ∀ c ∈ name, (c != '=') = true := by
      intro c hc
      rw [bne_iff_ne]
      rintro rfl
      exact hbare hc
    rw [Text.before?, if_pos (by simp), List.takeWhile_append_of_pos hall]
    simp
  simp only [maskEquals, startsWith_assign, hname]
  cases name.startsWith '-' <;> simp

theorem maskEquals_of_secret {name : Text} (value : Text) (hdash : name.startsWith '-' = true)
    (hbare : '=' ∉ name) (hsecret : isSecretFlag name = true) :
    maskEquals (name ++ '=' :: value) = some (name ++ '=' :: redacted) := by
  simp only [maskEquals_assign value hbare, hdash, hsecret, Bool.and_self, if_true]

/-- Only the `--flag=value` form of a secret flag is masked in place. -/
theorem maskEquals_eq_some {tok word : Text} (hmask : maskEquals tok = some word) :
    ∃ name value, tok = name ++ '=' :: value ∧ '=' ∉ name ∧ name.startsWith '-' = true ∧
      isSecretFlag name = true ∧ word = name ++ '=' :: redacted := by
  by_cases hmem : '=' ∈ tok
  · obtain ⟨name, value, rfl, hbare⟩ := List.eq_append_cons_of_mem hmem
    rw [maskEquals_assign value hbare] at hmask
    split at hmask
    next hflag =>
      rw [Bool.and_eq_true] at hflag
      exact ⟨name, value, rfl, hbare, hflag.1, hflag.2, (Option.some.inj hmask).symm⟩
    next => cases hmask
  · rw [maskEquals_of_bare hmem] at hmask
    cases hmask

namespace SecretFlagAt

variable {tokens : List Text} {index : Nat} {flag value : Text}

theorem takesValue_flag (hflag : SecretFlagAt tokens index flag value) :
    takesValue flag = true := by
  simp [takesValue, maskEquals_of_bare hflag.bare, hflag.dash, hflag.secret]

/-- The scan expects the value exactly if it did not expect the flag. -/
theorem stateAfter_succ (hflag : SecretFlagAt tokens index flag value) :
    scanner.stateAfter (tokens.take (index + 1)) = !scanner.stateAfter (tokens.take index) := by
  rw [List.take_add_one, hflag.flag_at, Option.toList_some, scanner.stateAfter_concat,
    scanner_next, hflag.takesValue_flag, Bool.and_true]

/-- A value whose flag is read as one is masked and can be replaced unnoticed. -/
theorem masked (hflag : SecretFlagAt tokens index flag value)
    (hread : scanner.stateAfter (tokens.take index) = false) :
    (redactedWords tokens)[index + 1]? = some redacted ∧
      ∀ other : Text, redactedLine (tokens.set (index + 1) other) = redactedLine tokens := by
  have hexpected := hflag.stateAfter_succ
  rw [hread, Bool.not_false] at hexpected
  constructor
  · rw [redactedWords_eq, scanner.getElem?_output, hflag.value_at, hexpected]
    rfl
  · intro other
    have hwords := scanner.output_set hflag.value_at other (by simp [hexpected])
      (by simp [hexpected])
    rw [redactedLine_output, redactedLine_output, hwords]

/-- A value whose flag is itself masked is written as it is. -/
theorem survives (hflag : SecretFlagAt tokens index flag value)
    (hmasked : scanner.stateAfter (tokens.take index) = true) {other : Text}
    (hplain : other.startsWith '-' = false)
    (hsame : redactedLine (tokens.set (index + 1) other) = redactedLine tokens) :
    other = value := by
  have hread := hflag.stateAfter_succ
  rw [hmasked, Bool.not_true] at hread
  have hwritten : (scanner.output tokens)[index + 1]? = some value := by
    rw [scanner.getElem?_output, hflag.value_at, hread]
    simp [maskEquals_of_plain hflag.plain]
  have hwords := scanner.output_set_of_next hflag.value_at other
    (by simp [takesValue_of_plain hplain, takesValue_of_plain hflag.plain])
  rw [hread, scanner_write_false, maskEquals_of_plain hplain, Option.getD_none] at hwords
  rw [redactedLine_output, redactedLine_output, hwords] at hsame
  exact joinTokens_set_injective hwritten hsame

end SecretFlagAt

/-- The value of a `--flag=value` token never shows, whether the token is read
as one or taken for a value itself. -/
theorem SecretEqualsAt.masked {tokens : List Text} {index : Nat} {name value : Text}
    (hequals : SecretEqualsAt tokens index name value) :
    ((redactedWords tokens)[index]? = some (name ++ '=' :: redacted) ∨
        (redactedWords tokens)[index]? = some redacted) ∧
      ∀ other, redactedLine (tokens.set index (name ++ '=' :: other)) = redactedLine tokens := by
  have hmask := fun value => maskEquals_of_secret value hequals.dash hequals.bare hequals.secret
  constructor
  · rw [redactedWords_eq, scanner.getElem?_output, hequals.token_at]
    cases scanner.stateAfter (tokens.take index) with
    | true => exact Or.inr rfl
    | false => exact Or.inl (by simp [hmask])
  · intro other
    have hwords := scanner.output_set hequals.token_at (name ++ '=' :: other)
      (by simp [takesValue, hmask])
      (by cases scanner.stateAfter (tokens.take index) <;> simp [hmask])
    rw [redactedLine_output, redactedLine_output, hwords]

/-- No credential survives the redaction of a line exactly if an even number of
value-taking tokens in a row stands before every secret flag that has a value. -/
theorem no_credential_survives_iff (tokens : List Text) :
    NoCredentialSurvives tokens ↔ ∀ index flag value, SecretFlagAt tokens index flag value →
      Even (takersBefore tokens index) := by
  constructor
  · intro hnone index flag value hflag
    by_contra hodd
    have hmasked := (stateAfter_take tokens index).mpr hodd
    -- a longer value would show
    have hsame := (hnone.flags index flag value hflag).2 ('x' :: value) rfl
    have hlength := congrArg List.length (hflag.survives hmasked rfl hsame)
    simp at hlength
  · intro heven
    refine ⟨fun index flag value hflag => ?_, fun index name value hequals => hequals.masked⟩
    have hread : scanner.stateAfter (tokens.take index) = false := by
      rw [Bool.eq_false_iff, Ne, stateAfter_take, not_not]
      exact heven index flag value hflag
    obtain ⟨hplaceholder, hindependent⟩ := hflag.masked hread
    exact ⟨hplaceholder, fun other _ => hindependent other⟩

/-- A tag that contains `access-key` is taken for a secret flag, the flag after
it for its value, and the secret itself is left. -/
theorem credential_survives :
    ¬ ∀ tokens, NoCredentialSurvives tokens := by
  intro hclaim
  have hnone := hclaim ["cp".toList, "--tagging=topic=access-key".toList,
    "--target-secret-access-key".toList, "SECRET".toList]
  have hflag := (hnone.flags 2 "--target-secret-access-key".toList "SECRET".toList
    ⟨rfl, by decide +kernel, by decide +kernel, by decide +kernel, rfl, by decide +kernel⟩).1
  exact absurd hflag (by decide +kernel)

end S7cmd.BatchRun
