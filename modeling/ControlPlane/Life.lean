import ControlPlane.Json.Decode

/-!
# Life

The stages of life that environments and machines go through.
-/

namespace ControlPlane

/-- A stage of life. -/
inductive Life where
  | alive
  | dying
  | dead
  deriving DecidableEq, Repr

namespace Life

/-- The word for a stage of life. -/
def word : Life → String
  | alive => "alive"
  | dying => "dying"
  | dead => "dead"

instance : Keyword Life where
  all := [alive, dying, dead]
  word := word
  mem_all a := by cases a <;> decide
  word_injective a b := by cases a <;> cases b <;> decide

/-- A stage of life as it is stored. -/
def toValue (life : Life) : Json.Value :=
  .string life.word

/-- Reads a stored stage of life. -/
def decode : Json.Decoder Life :=
  Json.Decoder.keyword

end Life

end ControlPlane
