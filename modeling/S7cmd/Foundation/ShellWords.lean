import Mathlib.Data.List.Basic
import Mathlib.Data.List.Induction

/-!
# Splitting text into shell words

Word splitting as a POSIX shell does it, without expansions. Words are separated
by blanks and newlines; quoted, escaped and bare pieces that touch make one word.
Text that ends inside a quote or behind a lone backslash has no words. The lexer
is a finite machine over the characters that edits a list of words, and no edit
looks at the words that are there.
-/

namespace Foundation

namespace ShellWords

inductive Mode where
  /-- between two words -/
  | gap
  | comment
  /-- in a word and outside its quotes -/
  | bare
  /-- behind a backslash outside the quotes -/
  | escape
  | single
  | double
  /-- behind a backslash in double quotes -/
  | doubleEscape
  deriving DecidableEq, Repr

/-- What a character does to the words. -/
inductive Edit where
  /-- add to the word being read -/
  | push (chars : List Char)
  /-- the word being read is complete -/
  | cut
  deriving DecidableEq, Repr

def singleQuote : Char := '\x27'

def doubleQuote : Char := '\x22'

def backslash : Char := '\x5c'

def isSeparator (c : Char) : Bool := c == ' ' || c == '\t' || c == '\n'

/-- The characters a backslash makes literal inside double quotes. -/
def isEscapable (c : Char) : Bool :=
  c == '$' || c == '\x60' || c == doubleQuote || c == backslash

namespace Mode

/-- A character of a word outside its quotes. -/
def inWord (c : Char) : Mode × Edit :=
  if c = doubleQuote then (.double, .push [])
  else if c = singleQuote then (.single, .push [])
  else if c = backslash then (.escape, .push [])
  else (.bare, .push [c])

def next : Mode → Char → Mode × Edit
  | .gap, c =>
      if isSeparator c then (.gap, .push [])
      else if c = '#' then (.comment, .push [])
      else inWord c
  | .comment, c => if c = '\n' then (.gap, .push []) else (.comment, .push [])
  | .bare, c => if isSeparator c then (.gap, .cut) else inWord c
  -- an escaped newline joins two lines
  | .escape, c => (.bare, .push (if c = '\n' then [] else [c]))
  | .single, c => if c = singleQuote then (.bare, .push []) else (.single, .push [c])
  | .double, c =>
      if c = doubleQuote then (.bare, .push [])
      else if c = backslash then (.doubleEscape, .push [])
      else (.double, .push [c])
  | .doubleEscape, c =>
      (.double, .push (if c = '\n' then [] else if isEscapable c then [c] else [backslash, c]))

/-- The mode after a text. -/
def after (mode : Mode) (text : List Char) : Mode := text.foldl (fun mode c => (mode.next c).1) mode

/-- No word is being read. -/
def outside : Mode → Bool
  | .gap | .comment => true
  | _ => false

/-- Text that ends in this mode is well formed. -/
def accepts : Mode → Bool
  | .gap | .comment | .bare => true
  | _ => false

end Mode

structure Lexer where
  mode : Mode := .gap
  /-- what the word being read is so far -/
  word : List Char := []
  words : List (List Char) := []
  deriving DecidableEq, Repr

namespace Lexer

def apply (lexer : Lexer) (mode : Mode) : Edit → Lexer
  | .push chars => { mode := mode, word := lexer.word ++ chars, words := lexer.words }
  | .cut => { mode := mode, word := [], words := lexer.words ++ [lexer.word] }

def step (lexer : Lexer) (c : Char) : Lexer :=
  lexer.apply (lexer.mode.next c).1 (lexer.mode.next c).2

def read (lexer : Lexer) (text : List Char) : Lexer := text.foldl step lexer

/-- The words at the end of the text, unless a quote or an escape is open. -/
def finish (lexer : Lexer) : Option (List (List Char)) :=
  match lexer.mode with
  | .gap | .comment => some lexer.words
  | .bare => some (lexer.words ++ [lexer.word])
  | _ => none

end Lexer

/-- The words of a text; `none` for unbalanced quoting. -/
def split (text : List Char) : Option (List (List Char)) := (Lexer.read {} text).finish

/-! ## Modes -/

namespace Mode

@[simp] theorem after_nil (mode : Mode) : mode.after [] = mode := rfl

@[simp] theorem after_cons (mode : Mode) (c : Char) (rest : List Char) :
    mode.after (c :: rest) = (mode.next c).1.after rest := rfl

@[simp] theorem after_append (mode : Mode) (first second : List Char) :
    mode.after (first ++ second) = (mode.after first).after second :=
  List.foldl_append

theorem outside_inWord (c : Char) : (inWord c).1.outside = false := by
  unfold inWord
  split_ifs <;> rfl

/-- What leads outside of words: blanks and comments add nothing, and the
separator behind a word completes it. -/
theorem next_outside {mode : Mode} {c : Char} (houtside : (mode.next c).1.outside = true) :
    mode.outside = true ∧ (mode.next c).2 = .push [] ∨ (mode.next c).2 = .cut := by
  cases mode with
  | gap =>
      simp only [next] at houtside ⊢
      split_ifs with hsep hcomment
      · exact Or.inl ⟨rfl, rfl⟩
      · exact Or.inl ⟨rfl, rfl⟩
      · rw [if_neg hsep, if_neg hcomment, outside_inWord] at houtside
        cases houtside
  | comment =>
      simp only [next]
      split <;> exact Or.inl ⟨rfl, rfl⟩
  | bare =>
      simp only [next] at houtside ⊢
      split_ifs with hsep
      · exact Or.inr rfl
      · rw [if_neg hsep, outside_inWord] at houtside
        cases houtside
  | escape => cases houtside
  | single =>
      simp only [next] at houtside
      split at houtside <;> cases houtside
  | double =>
      simp only [next] at houtside
      split_ifs at houtside <;> cases houtside
  | doubleEscape => cases houtside

/-- Only a separator leads into a gap. -/
theorem isSeparator_of_next_gap {mode : Mode} {c : Char} (hgap : (mode.next c).1 = .gap) :
    isSeparator c = true := by
  have hinWord : (inWord c).1 ≠ .gap := by
    intro hin
    have houtside := outside_inWord c
    rw [hin] at houtside
    cases houtside
  cases mode with
  | gap =>
      simp only [next] at hgap
      split_ifs at hgap with hsep
      · exact hsep
      · exact absurd hgap hinWord
  | comment =>
      simp only [next] at hgap
      split at hgap
      next hnewline => simp [isSeparator, hnewline]
      next => cases hgap
  | bare =>
      simp only [next] at hgap
      split_ifs at hgap with hsep
      · exact hsep
      · exact absurd hgap hinWord
  | escape => cases hgap
  | single =>
      simp only [next] at hgap
      split at hgap <;> cases hgap
  | double =>
      simp only [next] at hgap
      split at hgap
      · cases hgap
      · split at hgap <;> cases hgap
  | doubleEscape => cases hgap

/-- A text that ends in a gap is empty or ends in a separator. -/
theorem ends_of_after_gap {mode : Mode} {text : List Char} (hgap : mode.after text = .gap) :
    text = [] ∨ ∃ front c, text = front ++ [c] ∧ isSeparator c = true := by
  induction text using List.reverseRecOn with
  | nil => exact Or.inl rfl
  | append_singleton front c _ =>
      rw [after_append, after_cons, after_nil] at hgap
      exact Or.inr ⟨front, c, rfl, isSeparator_of_next_gap hgap⟩

/-- Outside quotes a newline ends what is being read. -/
theorem next_newline {mode : Mode} (haccepts : mode.accepts = true) :
    (mode.next '\n').1 = .gap := by
  cases mode <;> first | rfl | cases haccepts

end Mode

/-! ## Lexers -/

namespace Lexer

@[simp] theorem read_nil (lexer : Lexer) : lexer.read [] = lexer := rfl

@[simp] theorem read_cons (lexer : Lexer) (c : Char) (rest : List Char) :
    lexer.read (c :: rest) = (lexer.step c).read rest := rfl

@[simp] theorem read_append (lexer : Lexer) (first second : List Char) :
    lexer.read (first ++ second) = (lexer.read first).read second :=
  List.foldl_append

@[simp] theorem mode_step (lexer : Lexer) (c : Char) :
    (lexer.step c).mode = (lexer.mode.next c).1 := by
  unfold step apply
  split <;> rfl

@[simp] theorem mode_read (lexer : Lexer) (text : List Char) :
    (lexer.read text).mode = lexer.mode.after text := by
  induction text generalizing lexer with
  | nil => rfl
  | cons c rest ih => rw [read_cons, ih, mode_step, Mode.after_cons]

theorem finish_isSome (lexer : Lexer) : lexer.finish.isSome = lexer.mode.accepts := by
  unfold finish Mode.accepts
  cases lexer.mode <;> rfl

/-- The lexer with more words before the ones it has. -/
def behind (earlier : List (List Char)) (lexer : Lexer) : Lexer :=
  { lexer with words := earlier ++ lexer.words }

theorem step_behind (earlier : List (List Char)) (lexer : Lexer) (c : Char) :
    (lexer.behind earlier).step c = (lexer.step c).behind earlier := by
  unfold step apply behind
  dsimp only
  split <;> simp

theorem read_behind (earlier : List (List Char)) (lexer : Lexer) (text : List Char) :
    (lexer.behind earlier).read text = (lexer.read text).behind earlier := by
  induction text generalizing lexer with
  | nil => rfl
  | cons c rest ih => rw [read_cons, step_behind, ih, read_cons]

theorem word_of_outside {text : List Char} (houtside : (read {} text).mode.outside = true) :
    (read {} text).word = [] := by
  induction text using List.reverseRecOn with
  | nil => rfl
  | append_singleton front c ih =>
      rw [read_append, read_cons, read_nil] at houtside ⊢
      rw [mode_step] at houtside
      rcases Mode.next_outside houtside with ⟨hfront, hedit⟩ | hedit
      · rw [step, hedit, apply, ih hfront, List.append_nil]
      · rw [step, hedit, apply]

/-- Between words all that is kept are the words so far. -/
theorem read_of_gap {text : List Char} (hgap : (read {} text).mode = .gap) :
    read {} text = behind (read {} text).words {} := by
  have hword := word_of_outside (by rw [hgap]; rfl)
  cases hlexer : read {} text with
  | mk mode word words =>
      rw [hlexer] at hgap hword
      subst hgap hword
      simp [behind]

end Lexer

/-! ## What a text adds to the words -/

def Edit.chars : Edit → List Char
  | .push chars => chars
  | .cut => []

/-- The characters a text adds to words, in order. -/
def Mode.pushed : Mode → List Char → List Char
  | _, [] => []
  | mode, c :: rest => (mode.next c).2.chars ++ pushed (mode.next c).1 rest

theorem Mode.pushed_append (mode : Mode) (first second : List Char) :
    mode.pushed (first ++ second) = mode.pushed first ++ (mode.after first).pushed second := by
  induction first generalizing mode with
  | nil => rfl
  | cons c rest ih => simp only [List.cons_append, pushed, ih, after_cons, List.append_assoc]

namespace Lexer

/-- All characters of the words. -/
def content (lexer : Lexer) : List Char := lexer.words.flatten ++ lexer.word

theorem content_read (lexer : Lexer) (text : List Char) :
    (lexer.read text).content = lexer.content ++ lexer.mode.pushed text := by
  induction text generalizing lexer with
  | nil => simp [Mode.pushed]
  | cons c rest ih =>
      have hstep : (lexer.step c).content = lexer.content ++ (lexer.mode.next c).2.chars := by
        unfold step apply
        split
        next chars hedit => simp [content, hedit, Edit.chars]
        next hedit => simp [content, hedit, Edit.chars]
      rw [read_cons, ih, hstep, mode_step, Mode.pushed, List.append_assoc]

end Lexer

/-- The words hold what the text has pushed. -/
theorem flatten_of_split {text : List Char} {words : List (List Char)}
    (hsplit : split text = some words) : words.flatten = Mode.gap.pushed text := by
  have hcontent := Lexer.content_read {} text
  have hword := @Lexer.word_of_outside text
  rw [split, Lexer.finish] at hsplit
  simp only [Lexer.content, List.flatten_nil, List.nil_append] at hcontent
  split at hsplit
  next hgap =>
    cases hsplit
    rwa [hword (by rw [hgap]; rfl), List.append_nil] at hcontent
  next hcomment =>
    cases hsplit
    rwa [hword (by rw [hcomment]; rfl), List.append_nil] at hcontent
  next =>
    cases hsplit
    rw [List.flatten_append, List.flatten_singleton]
    exact hcontent
  next => cases hsplit

/-- A text without words never leads into one. -/
theorem outside_of_split_nil (first second : List Char)
    (hsplit : split (first ++ second) = some []) : (Mode.gap.after first).outside = true := by
  by_contra hinside
  -- a word that is being read will be among the words
  have hkept : ∀ (text : List Char) (lexer : Lexer),
      lexer.mode.outside = false ∨ lexer.words ≠ [] →
        (lexer.read text).mode.outside = false ∨ (lexer.read text).words ≠ [] := by
    intro text
    induction text with
    | nil => exact fun lexer hlexer => hlexer
    | cons c rest ih =>
        intro lexer hlexer
        apply ih
        rw [Lexer.mode_step]
        by_cases houtside : (lexer.mode.next c).1.outside = true
        · apply Or.inr
          rcases Mode.next_outside houtside with ⟨hmode, hedit⟩ | hedit
          · have hwords := hlexer.resolve_left (by rw [hmode]; nofun)
            rw [Lexer.step, hedit]
            exact hwords
          · rw [Lexer.step, hedit]
            exact List.append_ne_nil_of_right_ne_nil _ (by simp)
        · exact Or.inl (by simpa using houtside)
  have hend := hkept second (Lexer.read {} first)
    (Or.inl (by rw [Lexer.mode_read]; simpa using hinside))
  rw [split, Lexer.read_append, Lexer.finish] at hsplit
  split at hsplit
  next hmode =>
    exact (hend.resolve_left (by rw [hmode]; nofun)) (Option.some.inj hsplit)
  next hmode =>
    exact (hend.resolve_left (by rw [hmode]; nofun)) (Option.some.inj hsplit)
  next => simp at hsplit
  next => cases hsplit

/-! ## Blanks -/

/-- A character that means nothing to the lexer but itself. -/
def Ordinary (c : Char) : Prop :=
  c ≠ doubleQuote ∧ c ≠ singleQuote ∧ c ≠ backslash ∧ c ≠ '#'

namespace Mode

theorem inWord_of_ordinary {c : Char} (hc : Ordinary c) : inWord c = (.bare, .push [c]) := by
  obtain ⟨hdouble, hsingle, hbackslash, -⟩ := hc
  simp [inWord, hdouble, hsingle, hbackslash]

theorem next_of_ordinary {mode : Mode} (hmode : mode = .gap ∨ mode = .bare) {c : Char}
    (hc : Ordinary c) :
    ((mode.next c).1 = .gap ∨ (mode.next c).1 = .bare) ∧
      (mode.next c).2.chars = if isSeparator c then [] else [c] := by
  have hinWord := inWord_of_ordinary hc
  rcases hmode with rfl | rfl
  · by_cases hsep : isSeparator c = true
    · simp [next, hsep, Edit.chars]
    · simp [next, hsep, Edit.chars, hc.2.2.2, hinWord]
  · by_cases hsep : isSeparator c = true
    · simp [next, hsep, Edit.chars]
    · simp [next, hsep, Edit.chars, hinWord]

/-- Of ordinary characters outside quotes all but the separators stay. -/
theorem ordinary_text {mode : Mode} (hmode : mode = .gap ∨ mode = .bare) {text : List Char}
    (htext : ∀ c ∈ text, Ordinary c) :
    (mode.after text = .gap ∨ mode.after text = .bare) ∧
      mode.pushed text = text.filter fun c => !isSeparator c := by
  induction text generalizing mode with
  | nil => exact ⟨hmode, rfl⟩
  | cons c rest ih =>
      obtain ⟨hnext, hchars⟩ := next_of_ordinary hmode (htext c List.mem_cons_self)
      obtain ⟨hafter, hpushed⟩ := ih hnext fun d hd => htext d (List.mem_cons_of_mem c hd)
      refine ⟨hafter, ?_⟩
      rw [pushed, hchars, hpushed]
      by_cases hsep : isSeparator c = true <;> simp [hsep]

/-- A quote is open. -/
def quoted : Mode → Bool
  | .single | .double | .doubleEscape => true
  | _ => false

/-- Only a quote ends a quote. -/
theorem quoted_after {mode : Mode} (hmode : mode.quoted = true) {text : List Char}
    (htext : ∀ c ∈ text, Ordinary c) : (mode.after text).quoted = true := by
  induction text generalizing mode with
  | nil => exact hmode
  | cons c rest ih =>
      obtain ⟨hdouble, hsingle, hbackslash, -⟩ := htext c List.mem_cons_self
      apply ih _ fun d hd => htext d (List.mem_cons_of_mem c hd)
      cases mode with
      | single => simp [next, hsingle, quoted]
      | double => simp [next, hdouble, hbackslash, quoted]
      | doubleEscape => rfl
      | _ => cases hmode

theorem not_accepts_of_quoted {mode : Mode} (hmode : mode.quoted = true) :
    mode.accepts = false := by
  cases mode <;> first | rfl | cases hmode

/-- A comment lasts to the end of the line. -/
theorem pushed_comment (text : List Char) :
    Mode.comment.pushed text = Mode.gap.pushed (text.dropWhile (· ≠ '\n')) := by
  induction text with
  | nil => rfl
  | cons c rest ih =>
      by_cases hnewline : c = '\n'
      · subst hnewline
        rfl
      · rw [pushed, List.dropWhile_cons_of_pos (by simpa using hnewline), ← ih]
        simp [next, hnewline, Edit.chars]

end Mode

namespace Lexer

theorem step_of_stay {lexer : Lexer} {c : Char}
    (hnext : lexer.mode.next c = (lexer.mode, .push [])) : lexer.step c = lexer := by
  rw [step, hnext]
  simp [apply]

theorem read_separators {lexer : Lexer} (hgap : lexer.mode = .gap) {text : List Char}
    (htext : ∀ c ∈ text, isSeparator c = true) : lexer.read text = lexer := by
  induction text with
  | nil => rfl
  | cons c rest ih =>
      have hc := htext c List.mem_cons_self
      have hnext : lexer.mode.next c = (lexer.mode, .push []) := by
        rw [hgap, Mode.next, if_pos hc]
      have hstep : lexer.step c = lexer := step_of_stay hnext
      rw [read_cons, hstep]
      exact ih fun d hd => htext d (List.mem_cons_of_mem c hd)

/-- Separators behind a word leave the words as they are. -/
theorem finish_read_separators {lexer : Lexer} (hbare : lexer.mode = .bare) {text : List Char}
    (htext : ∀ c ∈ text, isSeparator c = true) : (lexer.read text).finish = lexer.finish := by
  cases text with
  | nil => rfl
  | cons c rest =>
      have hc := htext c List.mem_cons_self
      have hstep : lexer.step c = { mode := .gap, words := lexer.words ++ [lexer.word] } := by
        simp [step, hbare, Mode.next, hc, apply]
      rw [read_cons, hstep, read_separators rfl fun d hd => htext d (List.mem_cons_of_mem c hd)]
      simp [finish, hbare]

/-- So does a comment with separators behind its line. -/
theorem finish_read_comment {lexer : Lexer} (hcomment : lexer.mode = .comment)
    {text : List Char} (htext : ∀ c ∈ text.dropWhile (· ≠ '\n'), isSeparator c = true) :
    (lexer.read text).finish = lexer.finish := by
  induction text with
  | nil => rfl
  | cons c rest ih =>
      by_cases hnewline : c = '\n'
      · subst hnewline
        rw [List.dropWhile_cons_of_neg (by simp)] at htext
        have hstep : lexer.step '\n' = { lexer with mode := .gap } := by
          simp [step, hcomment, Mode.next, apply]
        rw [read_cons, hstep,
          read_separators rfl fun d hd => htext d (List.mem_cons_of_mem _ hd)]
        simp [finish, hcomment]
      · rw [List.dropWhile_cons_of_pos (by simpa using hnewline)] at htext
        have hnext : lexer.mode.next c = (lexer.mode, .push []) := by
          rw [hcomment, Mode.next, if_neg hnewline]
        have hstep : lexer.step c = lexer := step_of_stay hnext
        rw [read_cons, hstep]
        exact ih htext

end Lexer

/-! ## Spellings of one word -/

/-- The text spells this one word, from its first character to its last. -/
structure Spells (text value : List Char) : Prop where
  starts : ∀ c ∈ text.head?, (Mode.gap.next c).1.outside = false
  reads : Lexer.read {} text = { mode := .bare, word := value, words := [] }

/-- A spelling between two words is read as that word. -/
theorem Spells.read_append {text value front : List Char} (hspells : Spells text value)
    (hgap : (Lexer.read {} front).mode = .gap) :
    Lexer.read {} (front ++ text) =
      { mode := .bare, word := value, words := (Lexer.read {} front).words } := by
  rw [Lexer.read_append, Lexer.read_of_gap hgap, Lexer.read_behind, hspells.reads]
  simp [Lexer.behind]

theorem split_isSome (text : List Char) :
    (split text).isSome = ((Mode.gap).after text).accepts := by
  rw [split, Lexer.finish_isSome, Lexer.mode_read]

theorem split_eq_none_iff (text : List Char) :
    split text = none ↔ ((Mode.gap).after text).accepts = false := by
  rw [← split_isSome, Option.isSome_eq_false_iff, Option.isNone_iff_eq_none]

/-- An open quote on a line of its own. -/
theorem split_open_quote {text : List Char} (haccepts : (split text).isSome = true) :
    split (text ++ ['\n', doubleQuote]) = none := by
  rw [split_isSome] at haccepts
  rw [split_eq_none_iff, Mode.after_append, Mode.after_cons, Mode.next_newline haccepts]
  rfl

end ShellWords

end Foundation
