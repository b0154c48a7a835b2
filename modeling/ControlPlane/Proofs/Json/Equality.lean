import ControlPlane.Json.Value

/-!
# Equality of values

Two values can be equal without being the same term, because the two zeros are
equal floats.  Equality is an equivalence all the same, and so it sorts the
values into classes.  A whole number is in no class with a float.
-/

namespace ControlPlane

theorem Number.Binary64.same_trans {x y z : Binary64} (h : x.same y = true)
    (h' : y.same z = true) : x.same z = true := by
  simp only [same, Bool.and_eq_true, Bool.or_eq_true, beq_iff_eq] at h h' ⊢
  obtain ⟨hunits, hsign⟩ := h
  obtain ⟨hunits', hsign'⟩ := h'
  refine ⟨hunits.trans hunits', ?_⟩
  rcases hsign with hzero | hsign
  · exact .inl hzero
  · rw [hunits, hsign]
    exact hsign'

namespace Json.Value

mutual

theorem same_comm : ∀ a b : Value, same a b = same b a
  | null, b => by cases b <;> simp [same]
  | boolean _, b => by cases b <;> simp [same, Bool.beq_comm]
  | integer _, b => by cases b <;> simp [same, Bool.beq_comm]
  | float x, b => by
    cases b with
    | float y => simpa only [same] using x.same_comm y
    | _ => simp [same]
  | string _, b => by cases b <;> simp [same, Bool.beq_comm]
  | array as, b => by
    cases b with
    | array bs => simpa only [same] using sameItems_comm as bs
    | _ => simp [same]
  | object as, b => by
    cases b with
    | object bs => simpa only [same] using sameMembers_comm as bs
    | _ => simp [same]

theorem sameItems_comm : ∀ as bs : List Value, sameItems as bs = sameItems bs as
  | [], bs => by cases bs <;> simp [sameItems]
  | a :: as, bs => by
    cases bs with
    | nil => simp [sameItems]
    | cons b bs => simp only [sameItems, same_comm a b, sameItems_comm as bs]

theorem sameMembers_comm : ∀ as bs : List (String × Value), sameMembers as bs = sameMembers bs as
  | [], bs => by cases bs <;> simp [sameMembers]
  | (k, a) :: as, bs => by
    cases bs with
    | nil => simp [sameMembers]
    | cons b bs =>
      simp only [sameMembers, same_comm a b.2, sameMembers_comm as bs, Bool.beq_comm (a := k)]

end

mutual

theorem same_trans : ∀ {a b c : Value}, same a b = true → same b c = true → same a c = true
  | null, null, _, _, h' => h'
  | boolean _, boolean _, _, h, h' => by
    simp only [same, beq_iff_eq] at h
    exact h ▸ h'
  | integer _, integer _, _, h, h' => by
    simp only [same, beq_iff_eq] at h
    exact h ▸ h'
  | string _, string _, _, h, h' => by
    simp only [same, beq_iff_eq] at h
    exact h ▸ h'
  | float _, float _, float _, h, h' => by
    simp only [same] at h h' ⊢
    exact Number.Binary64.same_trans h h'
  | array _, array _, array _, h, h' => by
    simp only [same] at h h' ⊢
    exact sameItems_trans h h'
  | object _, object _, object _, h, h' => by
    simp only [same] at h h' ⊢
    exact sameMembers_trans h h'

theorem sameItems_trans : ∀ {as bs cs : List Value}, sameItems as bs = true →
    sameItems bs cs = true → sameItems as cs = true
  | [], [], _, _, h' => h'
  | _ :: _, _ :: _, _ :: _, h, h' => by
    simp only [sameItems, Bool.and_eq_true] at h h' ⊢
    exact ⟨same_trans h.1 h'.1, sameItems_trans h.2 h'.2⟩

theorem sameMembers_trans : ∀ {as bs cs : List (String × Value)}, sameMembers as bs = true →
    sameMembers bs cs = true → sameMembers as cs = true
  | [], [], _, _, h' => h'
  | (_, _) :: _, (_, _) :: _, (_, _) :: _, h, h' => by
    simp only [sameMembers, Bool.and_eq_true, beq_iff_eq] at h h' ⊢
    exact ⟨⟨h.1.1.trans h'.1.1, same_trans h.1.2 h'.1.2⟩, sameMembers_trans h.2 h'.2⟩

end

instance : EquivBEq Value where
  rfl {value} := same_refl value
  symm {a b} h := (same_comm b a).trans h
  trans := same_trans

/-- Values are told apart up to equality. -/
instance setoid : Setoid Value where
  r a b := (a == b) = true
  iseqv := ⟨fun _ => BEq.rfl, BEq.symm, BEq.trans⟩

/-- A whole number is never equal to a float. -/
theorem same_integer_float (number : Int) (x : Number.Binary64) :
    same (integer number) (float x) = false := by
  simp [same]

end Json.Value

end ControlPlane
