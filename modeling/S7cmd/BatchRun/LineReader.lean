import S7cmd.Foundation.ChunkedInput
import S7cmd.Foundation.Sequences
import S7cmd.Text

/-!
# Reading one line

The two readers take a line from a buffer that fills piece by piece, and give up
on it once it is longer than the cap. What they return is a function of the
bytes of the input and of how it ends, wherever it is cut.
-/

namespace S7cmd.BatchRun

open Foundation

/-- Longest line in bytes. -/
def maxLineLen : Nat := 16 * 1024

def newline : UInt8 := 10

/-- The reasons for which reading a line fails. -/
inductive IoError where
  /-- The `InvalidData` of `too_long_err`. -/
  | tooLong
  /-- The `InvalidData` around a `FromUtf8Error` for these bytes. -/
  | invalidUtf8 (bytes : List UInt8)
  /-- An error of the source itself. -/
  | source (message : Text)
  deriving DecidableEq, Repr

def tooLongMessage : Text := "line exceeds 16384-byte limit (16 KiB)".toList

/-- A script as its readers get it. -/
abbrev Reader := ChunkedInput UInt8 Text

/-- `String::from_utf8` with its error turned into an `io::Error` -/
def fromUtf8 (bytes : List UInt8) : Except IoError Text :=
  match String.fromUTF8? ⟨bytes.toArray⟩ with
  | some text => .ok text.toList
  | none => .error (.invalidUtf8 bytes)

/-- What one turn of the loop does: return, or go on with more bytes in hand. -/
inductive LineStep where
  | done (result : Except IoError (Option Text)) (rest : Reader)
  | more (reader : Reader) (buf : List UInt8)

/-- One turn of the loop that both readers have. -/
def readLineStep (reader : Reader) (buf : List UInt8) : LineStep :=
  match reader.fillBuf with
  | .error message => .done (.error (.source message)) reader
  -- at the end a last line without a newline is still a line
  | .ok [] => .done (if buf = [] then .ok none else some <$> fromUtf8 buf) reader
  | .ok available =>
      match available.idxOf? newline with
      | some index =>
          let line := buf ++ available.take index
          let rest := reader.consume (index + 1)
          -- the newline is used up even if the line is too long
          if maxLineLen < line.length then .done (.error .tooLong) rest
          else .done (some <$> fromUtf8 line) rest
      | none =>
          let line := buf ++ available
          let rest := reader.consume available.length
          if maxLineLen < line.length then .done (.error .tooLong) rest
          else .more rest line

/-! ## One turn -/

/-- What reading a line from these bytes gives, if this is how the input ends. -/
def lineResult (fault : Option Text) (bytes : List UInt8) : Except IoError (Option Text) :=
  let line := Delimited.front newline bytes
  if maxLineLen < line.length then .error .tooLong
  else if newline ∈ bytes then some <$> fromUtf8 line
  else match fault with
    | some message => .error (.source message)
    | none => if bytes = [] then .ok none else some <$> fromUtf8 line

/-- The bytes in hand at a loop head are part of one line within the cap. -/
structure LoopHead (buf : List UInt8) : Prop where
  within : buf.length ≤ maxLineLen
  unbroken : newline ∉ buf

theorem LoopHead.nil : LoopHead [] := ⟨Nat.zero_le _, List.not_mem_nil⟩

variable {reader next : Reader} {buf line : List UInt8}

/-- What a turn can do, in terms of the bytes of the input. -/
inductive ReadMoves (reader : Reader) (buf : List UInt8) : LineStep → Prop
  | failed (message : Text) (hcontent : reader.content = [])
      (hfault : reader.fault = some message) :
      ReadMoves reader buf (.done (.error (.source message)) reader)
  | ended (hcontent : reader.content = []) (hfault : reader.fault = none) :
      ReadMoves reader buf
        (.done (if buf = [] then .ok none else some <$> fromUtf8 buf) reader)
  | tooLong (bytes later : List UInt8) (rest : Reader) (hcontent : reader.content = bytes ++ later)
      (hunbroken : newline ∉ bytes) (hlong : maxLineLen < (buf ++ bytes).length) :
      ReadMoves reader buf (.done (.error .tooLong) rest)
  | line (bytes later : List UInt8) (rest : Reader)
      (hcontent : reader.content = bytes ++ newline :: later) (hunbroken : newline ∉ bytes)
      (hshort : (buf ++ bytes).length ≤ maxLineLen) (hrest : rest.content = later)
      (hfault : rest.fault = reader.fault) :
      ReadMoves reader buf (.done (some <$> fromUtf8 (buf ++ bytes)) rest)
  | part (bytes later : List UInt8) (rest : Reader) (hne : bytes ≠ [])
      (hcontent : reader.content = bytes ++ later) (hunbroken : newline ∉ bytes)
      (hshort : (buf ++ bytes).length ≤ maxLineLen) (hrest : rest.content = later)
      (hfault : rest.fault = reader.fault) :
      ReadMoves reader buf (.more rest (buf ++ bytes))

theorem readLineStep_moves (reader : Reader) (buf : List UInt8) :
    ReadMoves reader buf (readLineStep reader buf) := by
  unfold readLineStep
  split
  next message hfill =>
    obtain ⟨hcontent, hfault⟩ := ChunkedInput.content_of_fillBuf_error hfill
    exact .failed message hcontent hfault
  next hfill =>
    obtain ⟨hcontent, hfault⟩ := ChunkedInput.content_of_fillBuf_nil hfill
    exact .ended hcontent hfault
  next available hne hfill =>
    obtain ⟨later, hcontent, hconsume⟩ := ChunkedInput.content_of_fillBuf hfill
    split
    next index hindex =>
      obtain ⟨hsplit, hunbroken⟩ := Delimited.split_of_idxOf? hindex
      have hwhole : reader.content =
          available.take index ++ newline :: (available.drop (index + 1) ++ later) := by
        rw [← List.cons_append, ← List.append_assoc, ← hsplit, hcontent]
      dsimp only
      split
      next hlong => exact .tooLong _ _ _ hwhole hunbroken hlong
      next hshort =>
        exact .line _ _ _ hwhole hunbroken (Nat.le_of_not_lt hshort) (hconsume _)
          (ChunkedInput.fault_consume _ _)
    next hindex =>
      have hunbroken : newline ∉ available := List.idxOf?_eq_none_iff.mp hindex
      have hrest : (reader.consume available.length).content = later := by
        rw [hconsume, List.drop_length, List.nil_append]
      dsimp only
      split
      next hlong => exact .tooLong _ _ _ hcontent hunbroken hlong
      next hshort =>
        exact .part _ _ _ hne hcontent hunbroken (Nat.le_of_not_lt hshort) hrest
          (ChunkedInput.fault_consume _ _)

/-- A turn that goes on has moved bytes from the reader to the line in hand. -/
theorem readLineStep_more (hhead : LoopHead buf)
    (hstep : readLineStep reader buf = .more next line) :
    LoopHead line ∧ line ++ next.content = buf ++ reader.content ∧
      next.fault = reader.fault := by
  have hmoves := readLineStep_moves reader buf
  rw [hstep] at hmoves
  cases hmoves with
  | part bytes later rest hne hcontent hunbroken hshort hrest hfault =>
      refine ⟨⟨hshort, ?_⟩, ?_, hfault⟩
      · rw [List.mem_append, not_or]
        exact ⟨hhead.unbroken, hunbroken⟩
      · rw [hrest, hcontent, List.append_assoc]

theorem length_content_of_more (hstep : readLineStep reader buf = .more next line) :
    next.content.length < reader.content.length := by
  have hmoves := readLineStep_moves reader buf
  rw [hstep] at hmoves
  cases hmoves with
  | part bytes later rest hne hcontent hunbroken hshort hrest hfault =>
      have hpos := List.length_pos_iff.mpr hne
      rw [hrest, hcontent, List.length_append]
      omega

/-- A turn that returns gives what the bytes of the input say. -/
theorem readLineStep_done (hhead : LoopHead buf) {result : Except IoError (Option Text)}
    (hstep : readLineStep reader buf = .done result next) :
    result = lineResult reader.fault (buf ++ reader.content) ∧
      ∀ text, result = .ok (some text) →
        next.content = Delimited.after newline (buf ++ reader.content) ∧
          next.fault = reader.fault := by
  have hwithin := Nat.not_lt.mpr hhead.within
  have hmoves := readLineStep_moves reader buf
  rw [hstep] at hmoves
  unfold lineResult
  cases hmoves with
  | failed message hcontent hfault =>
      refine ⟨?_, nofun⟩
      simp only [hcontent, hfault, List.append_nil, Delimited.front_of_not_mem hhead.unbroken,
        hwithin, hhead.unbroken, if_false]
  | ended hcontent hfault =>
      constructor
      · simp only [hcontent, hfault, List.append_nil, Delimited.front_of_not_mem hhead.unbroken,
          hwithin, hhead.unbroken, if_false]
      · intro text htext
        have hafter := Delimited.after_append hhead.unbroken []
        rw [hcontent, hafter]
        exact ⟨rfl, rfl⟩
  | tooLong bytes later rest hcontent hunbroken hlong =>
      refine ⟨?_, nofun⟩
      -- the line is at least as long as the bytes in hand
      have hfront : maxLineLen < (Delimited.front newline (buf ++ reader.content)).length := by
        rw [hcontent, Delimited.front_append hhead.unbroken, Delimited.front_append hunbroken,
          ← List.append_assoc, List.length_append]
        omega
      simp only [hfront, if_true]
  | line bytes later rest hcontent hunbroken hshort hrest hfault =>
      have hfront : Delimited.front newline (buf ++ reader.content) = buf ++ bytes := by
        rw [hcontent, Delimited.front_append hhead.unbroken, Delimited.front_append hunbroken,
          Delimited.front_cons_self, List.append_nil]
      have hin : newline ∈ buf ++ reader.content := by
        simp [hcontent]
      constructor
      · simp only [hfront, Nat.not_lt.mpr hshort, hin, if_true, if_false]
      · intro text htext
        rw [hrest, hcontent, Delimited.after_append hhead.unbroken,
          Delimited.after_append hunbroken, Delimited.after_cons_self]
        exact ⟨rfl, hfault⟩

/-! ## The loop -/

/-- The loop, with the bytes of the line read so far. -/
def readLineLoop (reader : Reader) (buf : List UInt8) :
    Except IoError (Option Text) × Reader :=
  match _hstep : readLineStep reader buf with
  | .done result rest => (result, rest)
  | .more next line => readLineLoop next line
termination_by reader.content.length
decreasing_by exact length_content_of_more _hstep

/-- `read_line_capped`, over a `BufRead` -/
def readLineCapped (reader : Reader) : Except IoError (Option Text) × Reader :=
  readLineLoop reader []

/-- `read_line_capped_async`, over an `AsyncBufRead`. Nothing else takes the
reader's place while a fill is awaited. -/
def readLineCappedAsync (reader : Reader) : Except IoError (Option Text) × Reader :=
  readLineLoop reader []

theorem readLineCappedAsync_eq : readLineCappedAsync = readLineCapped := rfl

theorem readLineLoop_spec (reader : Reader) (hhead : LoopHead buf) :
    (readLineLoop reader buf).1 = lineResult reader.fault (buf ++ reader.content) ∧
      ∀ text, (readLineLoop reader buf).1 = .ok (some text) →
        (readLineLoop reader buf).2.content =
            Delimited.after newline (buf ++ reader.content) ∧
          (readLineLoop reader buf).2.fault = reader.fault := by
  fun_induction readLineLoop reader buf with
  | case1 reader buf result rest hstep => exact readLineStep_done hhead hstep
  | case2 reader buf next line hstep ih =>
      obtain ⟨hline, hcontent, hfault⟩ := readLineStep_more hhead hstep
      have hloop := ih hline
      rwa [hcontent, hfault] at hloop

theorem readLineCapped_fst (reader : Reader) :
    (readLineCapped reader).1 = lineResult reader.fault reader.content :=
  (readLineLoop_spec reader LoopHead.nil).1

theorem readLineCapped_rest {text : Text}
    (hline : readLineCapped reader = (.ok (some text), next)) :
    next.content = Delimited.after newline reader.content ∧ next.fault = reader.fault := by
  have hrest := (readLineLoop_spec reader LoopHead.nil).2 text
  rw [← readLineCapped, hline] at hrest
  exact hrest rfl

theorem lineResult_nil (fault : Option Text) :
    lineResult fault [] = match fault with
      | some message => .error (.source message)
      | none => .ok none := by
  cases fault <;> rfl

theorem length_after_of_line {fault : Option Text} {bytes : List UInt8} {text : Text}
    (hline : lineResult fault bytes = .ok (some text)) :
    (Delimited.after newline bytes).length < bytes.length := by
  apply Delimited.length_after_lt
  rintro rfl
  rw [lineResult_nil] at hline
  cases fault <;> cases hline

/-- A line that is read has taken something of the input. -/
theorem length_content_of_line {text : Text}
    (hline : readLineCapped reader = (.ok (some text), next)) :
    next.content.length < reader.content.length := by
  have hfst := readLineCapped_fst reader
  rw [hline] at hfst
  rw [(readLineCapped_rest hline).1]
  exact length_after_of_line hfst.symm

/-! ## All lines -/

/-- What there is to read of a script: its lines up to its end or up to the
first failure. -/
structure Script where
  lines : List Text
  failure : Option IoError
  deriving DecidableEq, Repr

def Script.cons (text : Text) (script : Script) : Script :=
  { script with lines := text :: script.lines }

/-- How reading ends when the first line has this number: with the number of the
line that fails, or well. -/
def Script.status (script : Script) (start : Nat) : Except (Nat × IoError) Unit :=
  match script.failure with
  | some error => .error (start + script.lines.length, error)
  | none => .ok ()

@[simp] theorem Script.lines_cons (text : Text) (script : Script) :
    (script.cons text).lines = text :: script.lines := rfl

@[simp] theorem Script.failure_cons (text : Text) (script : Script) :
    (script.cons text).failure = script.failure := rfl

@[simp] theorem Script.status_cons (text : Text) (script : Script) (start : Nat) :
    (script.cons text).status start = script.status (start + 1) := by
  have hnumber : start + (script.lines.length + 1) = start + 1 + script.lines.length := by omega
  simp only [Script.status, Script.failure_cons, Script.lines_cons, List.length_cons, hnumber]

/-- Reading line after line. -/
def readScript (reader : Reader) : Script :=
  match _hline : readLineCapped reader with
  | (.ok (some text), next) => (readScript next).cons text
  | (.ok none, _) => ⟨[], none⟩
  | (.error error, _) => ⟨[], some error⟩
termination_by reader.content.length
decreasing_by exact length_content_of_line _hline

/-- The script that some bytes are, if this is how they end. -/
def scriptOf (fault : Option Text) (bytes : List UInt8) : Script :=
  match _hline : lineResult fault bytes with
  | .ok (some text) => (scriptOf fault (Delimited.after newline bytes)).cons text
  | .ok none => ⟨[], none⟩
  | .error error => ⟨[], some error⟩
termination_by bytes.length
decreasing_by exact length_after_of_line _hline

/-- `readScript` without the equation its termination needs. -/
theorem readScript_unfold (reader : Reader) :
    readScript reader = match readLineCapped reader with
      | (.ok (some text), next) => (readScript next).cons text
      | (.ok none, _) => ⟨[], none⟩
      | (.error error, _) => ⟨[], some error⟩ := by
  rw [readScript]
  split <;> simp only [*]

theorem scriptOf_unfold (fault : Option Text) (bytes : List UInt8) :
    scriptOf fault bytes = match lineResult fault bytes with
      | .ok (some text) => (scriptOf fault (Delimited.after newline bytes)).cons text
      | .ok none => ⟨[], none⟩
      | .error error => ⟨[], some error⟩ := by
  rw [scriptOf]
  split <;> simp only [*]

theorem readScript_eq (reader : Reader) :
    readScript reader = scriptOf reader.fault reader.content := by
  have hresult := readLineCapped_fst reader
  fun_induction readScript reader with
  | case1 reader text next hline ih =>
      obtain ⟨hcontent, hfault⟩ := readLineCapped_rest hline
      rw [hline] at hresult
      rw [scriptOf_unfold, ← hresult, ih (readLineCapped_fst next), hcontent, hfault]
  | case2 reader rest hline =>
      rw [hline] at hresult
      rw [scriptOf_unfold, ← hresult]
  | case3 reader error rest hline =>
      rw [hline] at hresult
      rw [scriptOf_unfold, ← hresult]

/-- A script is its bytes and how they end, however they are cut. -/
theorem readScript_congr {reader other : Reader} (hsame : reader.SameContent other) :
    readScript reader = readScript other := by
  rw [readScript_eq, readScript_eq, hsame.content, hsame.fault]

end S7cmd.BatchRun
