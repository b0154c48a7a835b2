/-!
# Keywords

A type whose values are finitely many and are each spelled by one word.
-/

namespace ControlPlane

/-- The values of a type and the word for each of them. -/
class Keyword (α : Type) where
  /-- All values, in the order in which they are declared. -/
  all : List α
  /-- The word for a value. -/
  word : α → String
  mem_all : ∀ a, a ∈ all
  word_injective : ∀ a b, word a = word b → a = b

namespace Keyword

variable {α : Type} [Keyword α]

/-- The value that a word spells. -/
def ofWord? (text : String) : Option α :=
  (all (α := α)).find? fun a => word a = text

/-- The words of a type, in the order of its values. -/
def words (α : Type) [Keyword α] : List String :=
  (all (α := α)).map word

@[simp] theorem ofWord?_word (a : α) : ofWord? (word a) = some a := by
  unfold ofWord?
  cases h : (all (α := α)).find? fun b => word b = word a with
  | none => simpa using List.find?_eq_none.1 h a (mem_all a)
  | some b =>
    have hb := List.find?_some h
    exact congrArg some (word_injective b a (by simpa using hb))

theorem word_of_ofWord? {text : String} {a : α} (h : ofWord? text = some a) : word a = text := by
  simpa using List.find?_some h

end Keyword

end ControlPlane
