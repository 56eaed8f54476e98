import S7cmd.BatchRun.Run
import S7cmd.Foundation.Template

/-!
# The summary line of a batch run

A run that has come to an executor ends with one line on stderr, of words or of JSON. The
counters can be read back from it.
-/

namespace S7cmd.BatchRun

open Foundation

/-! ## The two formats -/

def count (digits : Text) : Nat := Nat.ofDigitChars 10 digits 0

variable {Cmd : Type} {checks : LineChecks Cmd} {dispatch : Nat → DispatchResult}
  {world : RunWorld} {args : RunArgs} {runEnd : RunEnd Cmd}

end S7cmd.BatchRun
