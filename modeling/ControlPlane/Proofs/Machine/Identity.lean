import ControlPlane.Machine.Record

/-!
# Ids and the hosts they name

The id of a container names its host, and is longer than the id of its host.
The id of a root machine has no slash and names no host.  Neither ids nor the
keys of counters are ever the same for different machines or for different
counters, although a key has nothing between its parts.
-/

namespace ControlPlane

namespace ContainerType

theorem slash_notMem_word (kind : ContainerType) : '/' ∉ kind.word.toList := by
  cases kind <;> decide

/-- No word for a kind of container ends like another one. -/
theorem eq_of_getLast?_word {kind kind' : ContainerType}
    (h : kind.word.toList.getLast? = kind'.word.toList.getLast?) : kind = kind' := by
  revert h
  cases kind <;> cases kind' <;> decide

/-- What a word is put behind does not matter for how it ends. -/
theorem getLast?_append_word (text : List Char) (kind : ContainerType) :
    (text ++ kind.word.toList).getLast? = kind.word.toList.getLast? := by
  rw [List.getLast?_append]
  cases kind <;> rfl

end ContainerType

namespace MachineId

theorem toList_root (number : Nat) : (root number).toList = Nat.toDigits 10 number :=
  Nat.toList_repr

theorem slash_notMem_root (number : Nat) : '/' ∉ (root number).toList := by
  rw [toList_root]
  intro hmem
  exact absurd (Nat.isDigit_of_mem_toDigits (by decide) (by decide) hmem) (by decide)

theorem root_inj {number number' : Nat} (h : root number = root number') : number = number' := by
  have hdigits : Nat.toDigits 10 number = Nat.toDigits 10 number' := by
    rw [← toList_root, ← toList_root, h]
  have hread := congrArg (Nat.ofDigitChars 10 · 0) hdigits
  simpa only [Nat.ofDigitChars_ten_toDigits] using hread

theorem toList_container (parent : String) (kind : ContainerType) (number : Nat) :
    (container parent kind number).toList =
      (parent.toList ++ '/' :: kind.word.toList) ++ '/' :: (root number).toList := by
  simp [container, root]

theorem cutLast_eq_none {sep : Char} {text : List Char} (h : sep ∉ text) :
    Text.cutLast sep text = none := by
  induction text with
  | nil => rfl
  | cons c rest ih =>
    rw [List.mem_cons, not_or] at h
    rw [Text.cutLast, ih h.2]
    exact if_neg (Ne.symm h.1)

theorem parent?_eq_none {id : String} (h : '/' ∉ id.toList) : parent? id = none := by
  unfold parent?
  rw [cutLast_eq_none h]
  rfl

@[simp] theorem parent?_root (number : Nat) : parent? (root number) = none :=
  parent?_eq_none (slash_notMem_root number)

@[simp] theorem parent?_container (parent : String) (kind : ContainerType) (number : Nat) :
    parent? (container parent kind number) = some parent := by
  unfold parent?
  rw [toList_container, Text.cutLast_append _ _ (slash_notMem_root number)]
  change (Text.cutLast '/' (parent.toList ++ '/' :: kind.word.toList)).bind _ = _
  rw [Text.cutLast_append _ _ kind.slash_notMem_word]
  simp

theorem container_inj {parent parent' : String} {kind kind' : ContainerType} {number number' : Nat}
    (h : container parent kind number = container parent' kind' number') :
    parent = parent' ∧ kind = kind' ∧ number = number' := by
  have hcut := congrArg (fun id => Text.cutLast '/' id.toList) h
  simp only [toList_container, Text.cutLast_append _ _ (slash_notMem_root _)] at hcut
  obtain ⟨hhost, hnumber⟩ := Prod.mk.inj (Option.some.inj hcut)
  have hcutHost := congrArg (Text.cutLast '/') hhost
  simp only [Text.cutLast_append _ _ (ContainerType.slash_notMem_word _)] at hcutHost
  obtain ⟨hparent, hkind⟩ := Prod.mk.inj (Option.some.inj hcutHost)
  refine ⟨String.toList_injective hparent, ?_, root_inj (String.toList_injective hnumber)⟩
  exact Keyword.word_injective _ _ (String.toList_injective hkind)

theorem length_lt_length_container (parent : String) (kind : ContainerType) (number : Nat) :
    parent.length < (container parent kind number).length := by
  rw [← String.length_toList, ← String.length_toList, toList_container]
  simp

theorem container_ne_parent (parent : String) (kind : ContainerType) (number : Nat) :
    container parent kind number ≠ parent := by
  intro heq
  have hlt := length_lt_length_container parent kind number
  rw [heq] at hlt
  exact Nat.lt_irrefl _ hlt

/-- No container takes its number from the counter of root machines. -/
theorem containerCounter_ne_rootCounter (parent : String) (kind : ContainerType) :
    containerCounter parent kind ≠ rootCounter := by
  intro heq
  have hlength := congrArg String.length heq
  have hsuffix : "Container".length = 9 := by decide
  simp only [containerCounter, rootCounter, String.length_append, hsuffix] at hlength
  omega

theorem container_ne_root (parent : String) (kind : ContainerType) (number number' : Nat) :
    container parent kind number ≠ root number' := by
  intro heq
  have hparent := congrArg parent? heq
  rw [parent?_container, parent?_root] at hparent
  cases hparent

/-- Two containers take their numbers from one counter only if they are of one kind and on one
machine. -/
theorem containerCounter_inj {parent parent' : String} {kind kind' : ContainerType}
    (h : containerCounter parent kind = containerCounter parent' kind') :
    parent = parent' ∧ kind = kind' := by
  have hlists := congrArg String.toList h
  simp only [containerCounter, String.toList_append, List.append_assoc,
    List.append_cancel_left_eq] at hlists
  rw [← List.append_assoc, ← List.append_assoc, List.append_cancel_right_eq] at hlists
  -- Nothing stands between the parts, so the last character has to tell the kind.
  have hkind : kind = kind' := by
    have hlast := congrArg List.getLast? hlists
    rw [ContainerType.getLast?_append_word, ContainerType.getLast?_append_word] at hlast
    exact ContainerType.eq_of_getLast?_word hlast
  subst hkind
  exact ⟨String.toList_injective (List.append_cancel_right hlists), rfl⟩

/-- The id of a container tells its host, its kind and its number, and the key of a counter tells
the machine and the kind it counts for, whatever characters the id of the machine has.  No container
has the id of a root machine, which names no host, and none counts with root machines. -/
theorem ids_and_counters_decode_uniquely (machine : Machine) (parent parent' : String)
    (kind kind' : ContainerType) (number number' : Nat) :
    { machine with id := container parent kind number }.parent? = some parent ∧
      (container parent kind number = container parent' kind' number' ↔
        parent = parent' ∧ kind = kind' ∧ number = number') ∧
      (containerCounter parent kind = containerCounter parent' kind' ↔
        parent = parent' ∧ kind = kind') ∧
      containerCounter parent kind ≠ rootCounter ∧
      container parent kind number ≠ root number' ∧
      { machine with id := root number' }.parent? = none := by
  refine ⟨parent?_container parent kind number, ⟨container_inj, ?_⟩, ⟨containerCounter_inj, ?_⟩,
    containerCounter_ne_rootCounter parent kind, container_ne_root parent kind number number',
    parent?_root number'⟩
  · rintro ⟨rfl, rfl, rfl⟩
    rfl
  · rintro ⟨rfl, rfl⟩
    rfl

/-- A container on a container has a counter of its own. -/
example : containerCounter "1" .lxc = "machine1lxcContainer" ∧
    containerCounter "1/lxc/1" .lxc = "machine1/lxc/1lxcContainer" ∧
    parent? "1/lxc/1/kvm/2" = some "1/lxc/1" := by
  decide

end MachineId

end ControlPlane
