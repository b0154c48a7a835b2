import ControlPlane.Json.Decode

/-!
# Container types

The kinds of container a machine may be nested in. They are ordered as they are declared.
-/

namespace ControlPlane

/-- A kind of container; `noContainer` stands for a machine that is not nested at all. -/
inductive ContainerType where
  | noContainer
  | lxc
  | kvm
  deriving DecidableEq, Repr

namespace ContainerType

/-- The word for a kind of container. -/
def word : ContainerType → String
  | noContainer => "none"
  | lxc => "lxc"
  | kvm => "kvm"

instance : Keyword ContainerType where
  all := [noContainer, lxc, kvm]
  word := word
  mem_all a := by cases a <;> decide
  word_injective a b := by cases a <;> cases b <;> decide

/-- The place of a kind in the order of kinds. -/
def rank : ContainerType → Nat
  | noContainer => 0
  | lxc => 1
  | kvm => 2

/-- A kind of container as it is stored. -/
def toValue (kind : ContainerType) : Json.Value :=
  .string kind.word

/-- Reads a stored kind of container. -/
def decode : Json.Decoder ContainerType :=
  Json.Decoder.keyword

/-- The wording for a word that names no kind of container. -/
def unknownMessage : String := "Matching variant not found"

/-- The members of a list of kinds, each once and in ascending order. -/
def ascending (kinds : List ContainerType) : List ContainerType :=
  [noContainer, lxc, kvm].filter fun kind => kinds.contains kind

theorem mem_ascending {kind : ContainerType} {kinds : List ContainerType} :
    kind ∈ ascending kinds ↔ kind ∈ kinds := by
  cases kind <;> simp [ascending]

end ContainerType

end ControlPlane
