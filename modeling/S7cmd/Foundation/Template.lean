import Mathlib.Data.List.TakeWhile
import Mathlib.Data.List.Infix

/-!
# Templates

A template is a text with holes, each for letters of one kind. What fills the holes can be
read back from the filled template, if no letter that may fill a hole stands right behind it.
-/

namespace Foundation

variable {α : Type}

inductive Piece (α : Type) where
  | fixed (text : List α)
  | hole (fits : α → Bool)

abbrev Template (α : Type) : Type := List (Piece α)

namespace Template

/-- Nothing that fits stands first. -/
def Stops (fits : α → Bool) : Template α → Prop
  | [] => True
  | .fixed (letter :: _) :: _ => fits letter = false
  | .fixed [] :: rest => Stops fits rest
  | .hole _ :: _ => False

/-- Each hole ends where it is seen to end. -/
def Delimited : Template α → Prop
  | [] => True
  | .fixed _ :: rest => Delimited rest
  | .hole fits :: rest => Stops fits rest ∧ Delimited rest

variable {template : Template α} {values : List (List α)} {fits : α → Bool}

variable [DecidableEq α]

end Template

end Foundation
