import S7cmd.Foundation.ShellWords
import Mathlib.Data.List.DropRight
import Mathlib.Data.List.Infix

/-!
# Text

Strings are lists of characters, so that slicing, searching and splitting are
list operations. Only what the modelled code calls of the standard library is
here, under its own names.
-/

namespace S7cmd

abbrev Text := List Char

namespace Text

/-- `char::is_whitespace`: the Unicode `White_Space` property. -/
def isWhitespace (c : Char) : Bool :=
  let n := c.toNat
  (9 ≤ n && n ≤ 13) || n == 0x20 || n == 0x85 || n == 0xA0 || n == 0x1680 ||
    (0x2000 ≤ n && n ≤ 0x200A) || n == 0x2028 || n == 0x2029 || n == 0x202F || n == 0x205F ||
    n == 0x3000

/-- `str::trim_start` -/
def trimStart (text : Text) : Text := text.dropWhile isWhitespace

/-- `str::trim_end` -/
def trimEnd (text : Text) : Text := text.rdropWhile isWhitespace

/-- `str::trim` -/
def trim (text : Text) : Text := trimEnd (trimStart text)

/-- `str::starts_with` for one character -/
def startsWith (text : Text) (c : Char) : Bool := text.head? == some c

/-- `str::contains` -/
def contains (text part : Text) : Bool := decide (part <:+: text)

/-- `str::trim_start_matches` for one character -/
def trimStartMatches (text : Text) (c : Char) : Text := text.dropWhile (· == c)

/-- `str::strip_prefix` -/
def stripPrefix (text start : Text) : Option Text :=
  if start.isPrefixOf text then some (text.drop start.length) else none

/-- `&text[..i]` where `text.find(c)` is `Some(i)`; `None` when `c` is absent. -/
def before? (text : Text) (c : Char) : Option Text :=
  if c ∈ text then some (text.takeWhile (· != c)) else none

/-- `str::lines`: each line loses its newline and a carriage return before it;
text after the last newline is a line unless it is empty. -/
def lines (text : Text) : List Text :=
  let parts := text.splitOn '\n'
  let ended := parts.dropLast.map fun part =>
    if part.getLast? = some '\r' then part.dropLast else part
  match parts.getLast? with
  | some (c :: rest) => ended ++ [c :: rest]
  | _ => ended

/-- `split_whitespace`: the maximal runs of characters that are not whitespace. -/
def splitWhitespace (text : Text) : List Text :=
  (text.splitOnP isWhitespace).filter (· ≠ [])

/-- `[&str]::join` -/
def join (separator : Text) (parts : List Text) : Text := separator.intercalate parts

/-! ## Words -/

/-- No character of the text is whitespace. -/
def Solid (text : Text) : Prop := ∀ c ∈ text, isWhitespace c = false

instance (text : Text) : Decidable text.Solid :=
  List.decidableBAll (fun c => isWhitespace c = false) text

theorem Solid.append {first second : Text} (hfirst : first.Solid) (hsecond : second.Solid) :
    Text.Solid (first ++ second) := by
  intro c hc
  rcases List.mem_append.mp hc with hc | hc
  · exact hfirst c hc
  · exact hsecond c hc

theorem Solid.of_part {part whole : Text} (hpart : part <:+: whole) (hwhole : whole.Solid) :
    part.Solid :=
  fun c hc => hwhole c (hpart.subset hc)

/-- A text is solid, or a solid text with whitespace and another text behind it. -/
theorem induction_words {motive : Text → Prop} (text : Text)
    (hsolid : ∀ word : Text, word.Solid → motive word)
    (hbreak : ∀ (word : Text) (c : Char) (rest : Text), word.Solid → isWhitespace c = true →
      motive rest → motive (word ++ c :: rest)) : motive text := by
  induction hlength : text.length using Nat.strongRecOn generalizing text with
  | ind length ih =>
      by_cases hall : text.Solid
      · exact hsolid text hall
      · have hrest : text.dropWhile (fun c => !isWhitespace c) ≠ [] := by
          intro hnil
          exact hall fun c hc => by simpa using List.dropWhile_eq_nil_iff.mp hnil c hc
        obtain ⟨c, rest, hsplit⟩ := List.exists_cons_of_ne_nil hrest
        have htext := List.takeWhile_append_dropWhile (p := fun c => !isWhitespace c) (l := text)
        have hc := List.head_dropWhile_not (p := fun c => !isWhitespace c) hrest
        simp only [hsplit, List.head_cons, Bool.not_eq_false'] at hc
        rw [hsplit] at htext
        have hlt := congrArg List.length htext
        rw [List.length_append, List.length_cons] at hlt
        have hfront : Text.Solid (text.takeWhile fun c => !isWhitespace c) := by
          intro d hd
          have hkept := List.mem_takeWhile_imp hd
          rwa [Bool.not_eq_true'] at hkept
        have hmotive := hbreak _ c rest hfront hc (ih rest.length (by omega) rest rfl)
        rwa [htext] at hmotive

@[simp] theorem splitWhitespace_nil : splitWhitespace [] = [] := rfl

/-- Whitespace separates the words around it. -/
theorem splitWhitespace_append_cons {c : Char} (hc : isWhitespace c = true)
    (before after : Text) :
    splitWhitespace (before ++ c :: after) = splitWhitespace before ++ splitWhitespace after := by
  unfold splitWhitespace
  rw [List.splitOnP_append_cons before after hc, List.filter_append]

theorem splitWhitespace_cons {c : Char} (hc : isWhitespace c = true) (after : Text) :
    splitWhitespace (c :: after) = splitWhitespace after :=
  splitWhitespace_append_cons hc [] after

/-- Text that ends in whitespace has its words apart from what follows. -/
theorem splitWhitespace_append_apart {before : Text}
    (hapart : ∀ c ∈ before.getLast?, isWhitespace c = true) (after : Text) :
    splitWhitespace (before ++ after) = splitWhitespace before ++ splitWhitespace after := by
  cases before using List.reverseRecOn with
  | nil => rfl
  | append_singleton front c =>
      have hc := hapart c List.getLast?_concat
      rw [List.append_assoc, List.singleton_append, splitWhitespace_append_cons hc,
        splitWhitespace_append_cons hc, splitWhitespace_nil, List.append_nil]

theorem splitWhitespace_append_head {after : Text}
    (hapart : ∀ c ∈ after.head?, isWhitespace c = true) (before : Text) :
    splitWhitespace (before ++ after) = splitWhitespace before ++ splitWhitespace after := by
  cases after with
  | nil => simp
  | cons c rest =>
      have hc := hapart c rfl
      rw [splitWhitespace_append_cons hc, splitWhitespace_cons hc]

theorem splitWhitespace_append_blank (text : Text) {blank : Text}
    (hblank : ∀ c ∈ blank, isWhitespace c = true) :
    splitWhitespace (text ++ blank) = splitWhitespace text := by
  induction blank generalizing text with
  | nil => rw [List.append_nil]
  | cons c rest ih =>
      have hrest := ih [] fun d hd => hblank d (List.mem_cons_of_mem c hd)
      rw [List.nil_append] at hrest
      rw [splitWhitespace_append_cons (hblank c List.mem_cons_self), hrest, splitWhitespace_nil,
        List.append_nil]

/-- A text without whitespace is one word. -/
theorem splitWhitespace_solid {word : Text} (hne : word ≠ []) (hsolid : word.Solid) :
    splitWhitespace word = [word] := by
  rw [splitWhitespace, List.splitOnP_eq_singleton hsolid]
  simp [hne]

/-- The first word goes as far as the text goes on without whitespace. -/
theorem splitWhitespace_solid_append {word : Text} (hne : word ≠ []) (hsolid : word.Solid)
    (text : Text) :
    ∃ first, splitWhitespace (word ++ text) =
      first :: splitWhitespace (text.dropWhile fun c => !isWhitespace c) := by
  have hsplit := List.takeWhile_append_dropWhile (p := fun c => !isWhitespace c) (l := text)
  have hfront : Solid (word ++ text.takeWhile fun c => !isWhitespace c) := by
    apply hsolid.append
    intro c hc
    have hkept := List.mem_takeWhile_imp hc
    rwa [Bool.not_eq_true'] at hkept
  have hword := splitWhitespace_solid (List.append_ne_nil_of_left_ne_nil hne _) hfront
  refine ⟨word ++ text.takeWhile (fun c => !isWhitespace c), ?_⟩
  cases hrest : text.dropWhile fun c => !isWhitespace c with
  | nil =>
      rw [hrest, List.append_nil] at hsplit
      rw [hsplit] at hword ⊢
      rw [hword, splitWhitespace_nil]
  | cons c rest =>
      have hc := List.head_dropWhile_not (p := fun c => !isWhitespace c)
        (l := text) (by rw [hrest]; nofun)
      simp only [hrest, List.head_cons, Bool.not_eq_false'] at hc
      rw [hrest] at hsplit
      have htext : word ++ text = (word ++ text.takeWhile fun c => !isWhitespace c) ++ c :: rest := by
        rw [List.append_assoc, hsplit]
      rw [htext, splitWhitespace_append_cons hc, splitWhitespace_cons hc, hword,
        List.singleton_append]

theorem mem_splitWhitespace {text word : Text} (hword : word ∈ text.splitWhitespace) :
    word ≠ [] ∧ word.Solid ∧ word <:+: text := by
  induction text using induction_words with
  | hsolid text hsolid =>
      by_cases hne : text = []
      · subst hne
        cases hword
      · rw [splitWhitespace_solid hne hsolid, List.mem_singleton] at hword
        subst hword
        exact ⟨hne, hsolid, List.infix_refl _⟩
  | hbreak front c rest hsolid hc ih =>
      rw [splitWhitespace_append_cons hc, List.mem_append] at hword
      rcases hword with hfront | hrest
      · by_cases hne : front = []
        · subst hne
          cases hfront
        · rw [splitWhitespace_solid hne hsolid, List.mem_singleton] at hfront
          subst hfront
          exact ⟨hne, hsolid, (List.prefix_append _ _).isInfix⟩
      · obtain ⟨hne, hsolid', hinfix⟩ := ih hrest
        exact ⟨hne, hsolid', hinfix.trans ⟨front ++ [c], [], by simp⟩⟩

/-- Only whitespace has no words. -/
theorem isWhitespace_of_splitWhitespace_nil {text : Text} (hnil : text.splitWhitespace = []) :
    ∀ c ∈ text, isWhitespace c = true := by
  induction text using induction_words with
  | hsolid text hsolid =>
      by_cases hne : text = []
      · simp [hne]
      · rw [splitWhitespace_solid hne hsolid] at hnil
        cases hnil
  | hbreak front d rest hsolid hd ih =>
      rw [splitWhitespace_append_cons hd, List.append_eq_nil_iff] at hnil
      by_cases hne : front = []
      · subst hne
        intro c hc
        rcases List.mem_cons.mp hc with rfl | hrest
        · exact hd
        · exact ih hnil.2 c hrest
      · rw [splitWhitespace_solid hne hsolid] at hnil
        cases hnil.1

/-- A text that ends in its only word: what is added to it adds to that word. -/
theorem splitWhitespace_append_of_single {text word : Text} (hsingle : text.splitWhitespace = [word])
    (hlast : ∀ c ∈ text.getLast?, isWhitespace c = false) (suffix : Text) :
    ∃ first, splitWhitespace (text ++ suffix) =
      first :: splitWhitespace (suffix.dropWhile fun c => !isWhitespace c) := by
  induction text using induction_words with
  | hsolid text hsolid =>
      have hne : text ≠ [] := by
        rintro rfl
        cases hsingle
      exact splitWhitespace_solid_append hne hsolid suffix
  | hbreak front d rest hsolid hd ih =>
      have hrest : rest.splitWhitespace ≠ [] := by
        intro hnil
        have hall := isWhitespace_of_splitWhitespace_nil hnil
        rw [List.getLast?_append_cons] at hlast
        have hin : (d :: rest).getLast (by simp) ∈ d :: rest := List.getLast_mem _
        have hclear := hlast _ (List.getLast?_eq_getLast_of_ne_nil (by simp))
        rcases List.mem_cons.mp hin with heq | hmem
        · rw [heq, hd] at hclear
          cases hclear
        · rw [hall _ hmem] at hclear
          cases hclear
      have hne : rest ≠ [] := by
        rintro rfl
        exact hrest rfl
      rw [splitWhitespace_append_cons hd] at hsingle
      rw [List.append_assoc, List.cons_append, splitWhitespace_append_cons hd]
      have hfront : front.splitWhitespace = [] := by
        cases hcase : front.splitWhitespace with
        | nil => rfl
        | cons first others =>
            rw [hcase, List.cons_append, List.cons.injEq, List.append_eq_nil_iff] at hsingle
            exact absurd hsingle.2.2 hrest
      rw [hfront, List.nil_append] at hsingle ⊢
      apply ih hsingle
      rwa [List.getLast?_append_of_ne_nil _ (by simp), List.getLast?_cons_of_ne_nil hne] at hlast

/-- Words joined by blanks are read back. -/
theorem splitWhitespace_join {words : List Text} (hwords : ∀ word ∈ words, word ≠ [] ∧ word.Solid) :
    splitWhitespace (join [' '] words) = words := by
  induction words with
  | nil => rfl
  | cons first rest ih =>
      obtain ⟨hne, hsolid⟩ := hwords first List.mem_cons_self
      have hrest := ih fun word hword => hwords word (List.mem_cons_of_mem _ hword)
      by_cases hnil : rest = []
      · subst hnil
        rw [join, List.intercalate_singleton, splitWhitespace_solid hne hsolid]
      · rw [join, List.intercalate_cons_of_ne_nil hnil, List.append_assoc, List.singleton_append,
          splitWhitespace_append_cons (by decide), splitWhitespace_solid hne hsolid]
        exact congrArg (first :: ·) hrest

/-! ## The shell's separators -/

open Foundation in
theorem isWhitespace_of_isSeparator {c : Char} (hsep : ShellWords.isSeparator c = true) :
    isWhitespace c = true := by
  simp only [ShellWords.isSeparator, Bool.or_eq_true, beq_iff_eq] at hsep
  rcases hsep with (rfl | rfl) | rfl <;> decide

open Foundation in
/-- Whitespace neither quotes nor escapes nor begins a comment. -/
theorem ordinary_of_isWhitespace {c : Char} (hc : isWhitespace c = true) :
    ShellWords.Ordinary c := by
  refine ⟨?_, ?_, ?_, ?_⟩
  · rintro rfl
    exact absurd hc (by decide)
  · rintro rfl
    exact absurd hc (by decide)
  · rintro rfl
    exact absurd hc (by decide)
  · rintro rfl
    exact absurd hc (by decide)

end Text

end S7cmd
