import S7cmd.Foundation.Frame
import S7cmd.Text

/-!
# Operands that name a file or stdin

Some operands name a file, or are `-` and stand for the stdin of the process. The process
counts how often such an operand made a subcommand read its stdin.
-/

namespace S7cmd.UtilBin

open Foundation

abbrev Bytes := List UInt8

/-- The messages of an error, from the outermost context to the cause. -/
abbrev Chain := List Text

def withContext {α : Type} (context : Text) (result : Except Chain α) : Except Chain α :=
  result.mapError fun chain => context :: chain

@[simp] theorem withContext_eq_ok_iff {α : Type} {context : Text} {result : Except Chain α}
    {value : α} : withContext context result = .ok value ↔ result = .ok value := by
  cases result <;> simp [withContext, Except.mapError]

/-- An error of a library, without context. -/
def causedBy {α : Type} (result : Except Text α) : Except Chain α :=
  result.mapError fun cause => [cause]

/-! ## The process -/

/-- What is left of stdin, how it fails once that is read, and the reads of an operand. -/
structure Stdin where
  bytes : Bytes
  fault : Option Text
  operandReads : Nat
  deriving DecidableEq, Repr

structure Process (State : Type) where
  stdin : Stdin
  state : State

variable {State : Type}

def Process.operandReads (process : Process State) : Nat := process.stdin.operandReads

/-- An effect on the rest of the world: it does not get at stdin. -/
def apart {α : Type} (effect : State → α × State) (process : Process State) : α × Process State :=
  ((effect process.state).1, { process with state := (effect process.state).2 })

@[simp] theorem operandReads_apart {α : Type} (effect : State → α × State)
    (process : Process State) : (apart effect process).2.operandReads = process.operandReads := rfl

/-- What a subcommand does to the process, up to its first error. -/
abbrev Runner (State α : Type) := Fallible (Process State) Chain α

def outside {α : Type} (effect : State → Except Chain α × State) : Runner State α := apart effect

def invalidUtf8Stream : Text := "stream did not contain valid UTF-8".toList

/-- `read_to_string` on stdin -/
def Stdin.toText (stdin : Stdin) : Except Chain Text :=
  match stdin.fault with
  | some cause => .error [cause]
  | none =>
      match String.fromUTF8? ⟨stdin.bytes.toArray⟩ with
      | some text => .ok text.toList
      | none => .error [invalidUtf8Stream]

def readStdin : Runner State Text := fun process =>
  let stdin := process.stdin
  (stdin.toText,
    { process with stdin := ⟨[], stdin.fault, stdin.operandReads + 1⟩ })

/-- `read_to_end` on stdin, behind `take` -/
def Stdin.toBytes (stdin : Stdin) (cap : Nat) : Except Chain Bytes :=
  match stdin.fault with
  | some cause => if stdin.bytes.length < cap then .error [cause] else .ok (stdin.bytes.take cap)
  | none => .ok (stdin.bytes.take cap)

def takeStdin (cap : Nat) : Runner State Bytes := fun process =>
  let stdin := process.stdin
  (stdin.toBytes cap,
    { process with stdin := ⟨stdin.bytes.drop cap, stdin.fault, stdin.operandReads + 1⟩ })

/-- The text that an operand names. -/
def readOperand (readToString : Text → Except Text Text) (what operand : Text) :
    Runner State Text :=
  if operand = ['-'] then readStdin
  else .ofExcept (withContext ("reading ".toList ++ what ++ " from ".toList ++ operand)
    (causedBy (readToString operand)))

/-- The bytes that an operand names, of a file as of stdin no more than the cap. -/
def takeOperand (readTake : Text → Nat → Except Text Bytes) (what operand : Text) (cap : Nat) :
    Runner State Bytes :=
  if operand = ['-'] then
    (takeStdin cap).mapError fun chain => ("reading ".toList ++ what ++ " from stdin".toList) :: chain
  else .ofExcept (withContext ("reading ".toList ++ what ++ " from ".toList ++ operand)
    (causedBy (readTake operand cap)))

/-! ## What does not read stdin -/

theorem leaves_outside {α : Type} (effect : State → Except Chain α × State) :
    Leaves Process.operandReads (outside effect) := operandReads_apart effect

variable {what operand : Text}

theorem leaves_readOperand (readToString : Text → Except Text Text) (hne : operand ≠ ['-']) :
    Leaves Process.operandReads (readOperand readToString what operand : Runner State Text) := by
  apply Leaves.ite
  · intro heq
    exact absurd heq hne
  · intro _
    apply Leaves.ofExcept

example (readToString : Text → Except Text Text) (process : Process State) :
    (readOperand readToString what ['-'] process).2.operandReads = process.operandReads + 1 := rfl

theorem leaves_takeOperand (readTake : Text → Nat → Except Text Bytes) (cap : Nat)
    (hne : operand ≠ ['-']) :
    Leaves Process.operandReads (takeOperand readTake what operand cap : Runner State Bytes) := by
  apply Leaves.ite
  · intro heq
    exact absurd heq hne
  · intro _
    apply Leaves.ofExcept

end S7cmd.UtilBin
