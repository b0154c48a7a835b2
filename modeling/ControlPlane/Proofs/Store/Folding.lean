import ControlPlane.Proofs.Store.Counting
import ControlPlane.Proofs.Store.Transaction
import ControlPlane.Store.Shared

/-!
# A transaction as a fold over each document

What a transaction does can be told without following it through the store.
All assertions are about the store as it was.  The turn of an operation finds
the document that the effects before it have made of the one that was there, and
these are the effects of the operations that name the same document.  If some
operation cannot have its effect at its turn, nothing happens; and else each
document is what all the effects on it make of it.
-/

namespace ControlPlane

open Json Store

/-! ## Effects without obstacles -/

namespace Json.Value

/-- The items of a field; a field that is no array has none. -/
def items (name : String) (document : Value) : List Value :=
  match document.field name with
  | .array items => items
  | _ => []

/-- Items can be added to a field: it is missing, null or an array. -/
def TakesItems (name : String) (document : Value) : Prop :=
  document.field name = .null ∨ ∃ items, document.field name = .array items

/-- An object with a field set to a value. -/
def setting (document : Value) (name : String) (value : Value) : Value :=
  match document with
  | object members => object (Table.insert name value members)
  | other => other

theorem itemsOf?_cases (name : String) (members : List (String × Value)) :
    itemsOf? name members = some ((object members).items name) ∧
        (object members).TakesItems name ∨
      itemsOf? name members = none ∧ ¬(object members).TakesItems name := by
  rw [itemsOf?, items, TakesItems, field]
  cases hget : Table.get? name members with
  | none => exact .inl ⟨rfl, .inl rfl⟩
  | some value =>
    cases value with
    | null => exact .inl ⟨rfl, .inl rfl⟩
    | array items => exact .inl ⟨rfl, .inr ⟨items, rfl⟩⟩
    | _ => exact .inr ⟨rfl, by simp⟩

end Json.Value

namespace Store

/-- A condition that a document meets. -/
inductive Condition.Met (document : Value) : Condition → Prop where
  | equal {field : String} {value : Value} (h : (document.field field).same value = true) :
      Met document (.equal field value)
  | notEqual {field : String} {value : Value} (h : (document.field field).same value = false) :
      Met document (.notEqual field value)
  | size {field : String} {items : List Value} (h : document.field field = .array items) :
      Met document (.size field items.length)

/-- An assertion that a document, or that there is none, refutes, and why. -/
inductive Assertion.Refuted : Option Value → Assertion → AbortReason → Prop where
  | exists (document : Value) : Refuted (some document) .absent .documentExists
  | missing : Refuted none .present .documentMissing
  | fieldsMissing (conditions : List Condition) :
      Refuted none (.fields conditions) .documentMissing
  | unmet {document : Value} {conditions : List Condition} {condition : Condition}
      (hmem : condition ∈ conditions) (h : ¬condition.Met document) :
      Refuted (some document) (.fields conditions) .conditionFailed

/-- The document after an update that fits. -/
def Update.perform (document : Value) : Update → Value
  | set field value => document.setting field value
  | addToSet field values =>
    document.setting field (.array (union (document.items field) values))
  | push field values => document.setting field (.array (document.items field ++ values))

/-- An update that does not fit a document. -/
inductive Update.Unfit (document : Value) : Update → Misfit → Prop where
  | addToSet {field : String} (values : List Value) (h : ¬document.TakesItems field) :
      Unfit document (.addToSet field values) (.fieldNotAnArray field)
  | push {field : String} (values : List Value) (h : ¬document.TakesItems field) :
      Unfit document (.push field values) (.fieldNotAnArray field)

/-- Of updates that are made one after the other there is a first one that does not fit. -/
inductive Update.Stuck : Value → List Update → Misfit → Prop where
  | here {document : Value} {update : Update} {cause : Misfit} (rest : List Update)
      (h : update.Unfit document cause) : Stuck document (update :: rest) cause
  | later {document : Value} {update : Update} {rest : List Update} {cause : Misfit}
      (hfits : ∀ cause, ¬update.Unfit document cause)
      (hrest : Stuck (update.perform document) rest cause) : Stuck document (update :: rest) cause

/-- What becomes of a document by an effect that can take place. -/
def Effect.perform (document : Option Value) : Effect → Option Value
  | nothing => document
  | insert value => some value
  | update updates => document.map fun value => updates.foldl Update.perform value
  | remove => none

/-- An effect that cannot take place on a document, and what stands in its way. -/
inductive Effect.Blocked : Option Value → Effect → Obstacle → Prop where
  | notAnObject (document : Option Value) {value : Value} (h : isObject value = false) :
      Blocked document (.insert value) (.misfit .insertedNotAnObject)
  | occupied (found : Value) {value : Value} (h : isObject value = true) :
      Blocked (some found) (.insert value) .occupied
  | missing (updates : List Update) : Blocked none (.update updates) (.misfit .updateOfMissing)
  | unfit {document : Value} {updates : List Update} {cause : Misfit}
      (h : Update.Stuck document updates cause) :
      Blocked (some document) (.update updates) (.misfit cause)

theorem Condition.holds_iff {document : Value} {condition : Condition} :
    condition.holds document = true ↔ condition.Met document := by
  constructor
  · intro h
    cases condition with
    | equal field value => exact .equal h
    | notEqual field value => exact .notEqual (by simpa [holds] using h)
    | size field length =>
      rw [holds] at h
      split at h
      · next items hitems =>
        obtain rfl : items.length = length := by simpa using h
        exact .size hitems
      · cases h
  · intro h
    cases h with
    | equal h => exact h
    | notEqual h => simpa [holds] using h
    | size h => simp [holds, h]

/-- An assertion is found to fail for the reason for which it is refuted, and not otherwise. -/
theorem Assertion.failure?_cases (document : Option Value) (assertion : Assertion) :
    assertion.failure? document = none ∧ (∀ reason, ¬Refuted document assertion reason) ∨
      ∃ reason, assertion.failure? document = some reason ∧
        Refuted document assertion reason := by
  cases assertion with
  | anything => exact .inl ⟨rfl, nofun⟩
  | absent =>
    cases document with
    | none => exact .inl ⟨rfl, nofun⟩
    | some found => exact .inr ⟨_, rfl, .exists found⟩
  | present =>
    cases document with
    | none => exact .inr ⟨_, rfl, .missing⟩
    | some found => exact .inl ⟨rfl, nofun⟩
  | fields conditions =>
    cases document with
    | none => exact .inr ⟨_, rfl, .fieldsMissing conditions⟩
    | some found =>
      simp only [failure?]
      split
      · next hall =>
        refine .inl ⟨rfl, ?_⟩
        intro reason hrefuted
        cases hrefuted with
        | unmet hmem hunmet =>
          exact hunmet (Condition.holds_iff.mp (List.all_eq_true.mp hall _ hmem))
      · next hall =>
        obtain ⟨condition, hmem, hfails⟩ : ∃ condition ∈ conditions,
            ¬condition.holds found = true := by simpa using hall
        exact .inr ⟨_, rfl, .unmet hmem (fun hmet => hfails (Condition.holds_iff.mpr hmet))⟩

namespace Update

theorem isObject_perform {document : Value} (hobject : isObject document = true)
    (update : Update) : isObject (update.perform document) = true := by
  cases document with
  | object members => cases update <;> rfl
  | _ => cases hobject

theorem isObject_foldl_perform {document : Value} (hobject : isObject document = true)
    (updates : List Update) : isObject (updates.foldl perform document) = true := by
  induction updates generalizing document with
  | nil => exact hobject
  | cons update rest ih => exact ih (isObject_perform hobject update)

/-- An update of an object is made, or does not fit. -/
theorem apply_cases {document : Value} (hobject : isObject document = true) (update : Update) :
    update.apply document = .ok (update.perform document) ∧
        (∀ cause, ¬update.Unfit document cause) ∨
      ∃ cause, update.apply document = .error cause ∧ update.Unfit document cause := by
  cases document with
  | object members =>
    cases update with
    | set field value => exact .inl ⟨rfl, nofun⟩
    | addToSet field values =>
      rcases Value.itemsOf?_cases field members with ⟨hitems, htakes⟩ | ⟨hitems, htakes⟩
      · refine .inl ⟨by simp only [apply, onMembers, hitems]; rfl, ?_⟩
        intro cause hunfit
        cases hunfit
        contradiction
      · exact .inr ⟨_, by simp only [apply, onMembers, hitems]; rfl, .addToSet values htakes⟩
    | push field values =>
      rcases Value.itemsOf?_cases field members with ⟨hitems, htakes⟩ | ⟨hitems, htakes⟩
      · refine .inl ⟨by simp only [apply, onMembers, hitems]; rfl, ?_⟩
        intro cause hunfit
        cases hunfit
        contradiction
      · exact .inr ⟨_, by simp only [apply, onMembers, hitems]; rfl, .push values htakes⟩
  | _ => cases hobject

/-- Updates of an object are all made, or one of them does not fit. -/
theorem foldlM_cases {document : Value} (hobject : isObject document = true)
    (updates : List Update) :
    updates.foldlM Update.apply document = .ok (updates.foldl perform document) ∧
        (∀ cause, ¬Stuck document updates cause) ∨
      ∃ cause, updates.foldlM Update.apply document = .error cause ∧
        Stuck document updates cause := by
  induction updates generalizing document with
  | nil => exact .inl ⟨rfl, nofun⟩
  | cons update rest ih =>
    rw [List.foldlM_cons, List.foldl_cons]
    rcases update.apply_cases hobject with ⟨hok, hfits⟩ | ⟨cause, herror, hunfit⟩
    · rw [hok]
      rcases ih (isObject_perform hobject update) with ⟨hrest, hnot⟩ | ⟨cause, hrest, hstuck⟩
      · refine .inl ⟨hrest, ?_⟩
        intro cause hstuck
        cases hstuck with
        | here _ hunfit => exact hfits cause hunfit
        | later _ hstuck => exact hnot cause hstuck
      · exact .inr ⟨cause, hrest, .later hfits hstuck⟩
    · rw [herror]
      exact .inr ⟨cause, rfl, .here rest hunfit⟩

end Update

/-- There is no document, or it is an object. -/
def ObjectOrNone (document : Option Value) : Prop :=
  ∀ value, document = some value → isObject value = true

namespace Effect

/-- An effect takes place, or something stands in its way. -/
theorem apply_cases {document : Option Value} (hobject : ObjectOrNone document) (effect : Effect) :
    effect.apply document = .ok (effect.perform document) ∧
        (∀ obstacle, ¬Blocked document effect obstacle) ∨
      ∃ obstacle, effect.apply document = .error obstacle ∧ Blocked document effect obstacle := by
  cases effect with
  | nothing =>
    refine .inl ⟨rfl, ?_⟩
    intro obstacle hblocked
    cases hblocked
  | insert value =>
    cases hvalue : isObject value with
    | false => exact .inr ⟨_, by simp [apply, hvalue], .notAnObject document hvalue⟩
    | true =>
      cases document with
      | none =>
        refine .inl ⟨by simp [apply, hvalue, perform], ?_⟩
        intro obstacle hblocked
        cases hblocked with
        | notAnObject _ hfalse => exact absurd (hvalue.symm.trans hfalse) (by simp)
      | some found => exact .inr ⟨_, by simp [apply, hvalue], .occupied found hvalue⟩
  | update updates =>
    cases document with
    | none => exact .inr ⟨_, rfl, .missing updates⟩
    | some value =>
      rcases Update.foldlM_cases (hobject value rfl) updates with ⟨hok, hnot⟩ | ⟨cause, herror, h⟩
      · refine .inl ⟨by simp only [apply, hok]; rfl, ?_⟩
        intro obstacle hblocked
        cases hblocked with
        | unfit hstuck => exact hnot _ hstuck
      · exact .inr ⟨_, by simp only [apply, herror], .unfit h⟩
  | remove =>
    refine .inl ⟨rfl, ?_⟩
    intro obstacle hblocked
    cases hblocked

/-- An effect that nothing stands in the way of leaves an object, or no document. -/
theorem objectOrNone_perform {document : Option Value} (hobject : ObjectOrNone document)
    {effect : Effect}
    (hfree : ∀ obstacle, ¬Blocked document effect obstacle) :
    ObjectOrNone (effect.perform document) := by
  cases effect with
  | nothing => exact hobject
  | insert value =>
    rintro _ ⟨⟩
    by_contra hvalue
    exact hfree _ (.notAnObject document (by simpa using hvalue))
  | update updates =>
    intro changed hchanged
    obtain ⟨value, hvalue, rfl⟩ := Option.map_eq_some_iff.mp hchanged
    exact Update.isObject_foldl_perform (hobject value hvalue) updates
  | remove => exact nofun

end Effect

/-! ## Operations in the course of a transaction -/

variable {store : Store} {ops : List Op}

/-- All documents are objects. -/
def HoldsObjects (store : Store) : Prop :=
  ∀ collection id, ObjectOrNone (store.get? collection id)

/-- What the operations that name a document make of it, one after the other. -/
def documentAfter (store : Store) (ops : List Op) (collection id : String) : Option Value :=
  (ops.filter (·.names collection id)).foldl (fun document op => op.effect.perform document)
    (store.get? collection id)

/-- The store refutes what an operation asserts. -/
def Refutes (store : Store) (op : Op) (reason : AbortReason) : Prop :=
  Assertion.Refuted (store.get? op.collection op.id) op.assertion reason

/-- After other operations, the effect of an operation cannot take place. -/
def Blocks (store : Store) (before : List Op) (op : Op) (obstacle : Obstacle) : Prop :=
  Effect.Blocked (store.documentAfter before op.collection op.id) op.effect obstacle

/-- Whatever the operations assert holds of the store. -/
def Allows (store : Store) (ops : List Op) : Prop :=
  ∀ op ∈ ops, ∀ reason, ¬store.Refutes op reason

/-- Every operation can have its effect at its turn. -/
def Performs (store : Store) (ops : List Op) : Prop :=
  ∀ before op after, ops = before ++ op :: after → ∀ obstacle, ¬store.Blocks before op obstacle

/-- The first operation that asserts what does not hold stands behind others. -/
structure FirstRefuted (store : Store) (ops before : List Op) (op : Op) (reason : AbortReason) :
    Prop where
  eq_append : ∃ after, ops = before ++ op :: after
  refutes : store.Refutes op reason
  allows : store.Allows before

/-- The first operation that cannot have its effect stands behind others. -/
structure FirstBlocked (store : Store) (ops before : List Op) (op : Op) (obstacle : Obstacle) :
    Prop where
  eq_append : ∃ after, ops = before ++ op :: after
  blocks : store.Blocks before op obstacle
  performs : store.Performs before

theorem FirstRefuted.not_allows {before : List Op} {op : Op} {reason : AbortReason}
    (h : store.FirstRefuted ops before op reason) : ¬store.Allows ops := by
  obtain ⟨after, rfl⟩ := h.eq_append
  intro hallows
  exact hallows op (List.mem_append_right _ List.mem_cons_self) reason h.refutes

theorem FirstBlocked.not_performs {before : List Op} {op : Op} {obstacle : Obstacle}
    (h : store.FirstBlocked ops before op obstacle) : ¬store.Performs ops := by
  obtain ⟨after, heq⟩ := h.eq_append
  intro hperforms
  exact hperforms before op after heq obstacle h.blocks

/-- All assertions hold, or the first one that does not is found. -/
theorem checkFrom_cases (index : Nat) (ops : List Op) :
    store.checkFrom index ops = .ok () ∧ store.Allows ops ∨
      ∃ before op reason, store.FirstRefuted ops before op reason ∧
        store.checkFrom index ops =
          .error (.aborted (index + before.length) op.collection op.id reason) := by
  induction ops generalizing index with
  | nil => exact .inl ⟨rfl, nofun⟩
  | cons op rest ih =>
    rw [checkFrom]
    rcases op.assertion.failure?_cases (store.get? op.collection op.id) with
      ⟨hnone, hholds⟩ | ⟨reason, hsome, hrefuted⟩
    · rw [hnone]
      rcases ih (index + 1) with ⟨hok, hrest⟩ | ⟨before, other, reason, hfirst, herror⟩
      · exact .inl ⟨hok, List.forall_mem_cons.mpr ⟨hholds, hrest⟩⟩
      · obtain ⟨after, rfl⟩ := hfirst.eq_append
        refine .inr ⟨op :: before, other, reason, ⟨⟨after, rfl⟩, hfirst.refutes, ?_⟩, ?_⟩
        · exact List.forall_mem_cons.mpr ⟨hholds, hfirst.allows⟩
        · rw [List.length_cons, Nat.add_comm before.length, ← Nat.add_assoc]
          exact herror
    · rw [hsome]
      exact .inr ⟨[], op, reason, ⟨⟨rest, rfl⟩, hrefuted, nofun⟩, rfl⟩

/-- The effect of the first operation is in the store when the others have theirs. -/
theorem documentAfter_cons (store : Store) (op : Op) (rest : List Op) :
    store.documentAfter (op :: rest) =
      (store.put op.collection op.id
        (op.effect.perform (store.get? op.collection op.id))).documentAfter rest := by
  funext collection id
  rw [documentAfter, documentAfter, get?_put]
  by_cases hnames : op.names collection id = true
  · obtain ⟨rfl, rfl⟩ := Op.names_iff.mp hnames
    rw [List.filter_cons_of_pos hnames, List.foldl_cons, if_pos ⟨rfl, rfl⟩]
  · rw [List.filter_cons_of_neg hnames,
      if_neg fun heq => hnames (Op.names_iff.mpr ⟨heq.1.symm, heq.2.symm⟩)]

theorem blocks_cons (store : Store) (op other : Op) (rest : List Op) (obstacle : Obstacle) :
    store.Blocks (op :: rest) other obstacle ↔
      (store.put op.collection op.id
        (op.effect.perform (store.get? op.collection op.id))).Blocks rest other obstacle := by
  rw [Blocks, Blocks, documentAfter_cons]

theorem performs_cons (store : Store) (op : Op) (rest : List Op) :
    store.Performs (op :: rest) ↔
      (∀ obstacle, ¬Effect.Blocked (store.get? op.collection op.id) op.effect obstacle) ∧
        (store.put op.collection op.id
          (op.effect.perform (store.get? op.collection op.id))).Performs rest := by
  constructor
  · intro h
    refine ⟨h [] op rest rfl, ?_⟩
    rintro before other after rfl obstacle hblocks
    exact h (op :: before) other after rfl obstacle ((blocks_cons ..).mpr hblocks)
  · rintro ⟨hfirst, hrest⟩ before other after heq obstacle hblocks
    cases before with
    | nil =>
      obtain ⟨rfl, rfl⟩ := List.cons.inj heq
      exact hfirst obstacle hblocks
    | cons earlier before =>
      obtain ⟨rfl, rfl⟩ := List.cons.inj heq
      exact hrest before other after rfl obstacle ((blocks_cons ..).mp hblocks)

theorem holdsObjects_empty : empty.HoldsObjects :=
  fun _ _ => nofun

theorem HoldsObjects.put (h : store.HoldsObjects) {document : Option Value}
    (hobject : ObjectOrNone document) (collection id : String) :
    (store.put collection id document).HoldsObjects := by
  intro other otherId
  rw [get?_put]
  split
  · exact hobject
  · exact h other otherId

/-- Counting leaves objects, whatever it finds under the field. -/
theorem HoldsObjects.increment (h : store.HoldsObjects) (collection id field : String) :
    (store.increment collection id field).2.HoldsObjects := by
  apply increment_closed HoldsObjects _ h
  intro middle members hmiddle
  exact hmiddle.put (by rintro _ ⟨⟩; rfl) collection id

/-- All effects take place and each document is what they make of it, or the first effect that
cannot take place is found. -/
theorem applyFrom_cases (hobjects : store.HoldsObjects) (index : Nat) (ops : List Op) :
    (store.Performs ops ∧ ∃ after, store.applyFrom index ops = .ok after ∧ after.HoldsObjects ∧
        ∀ collection id, after.get? collection id = store.documentAfter ops collection id) ∨
      ∃ before op obstacle, store.FirstBlocked ops before op obstacle ∧
        store.applyFrom index ops = .error (.ofObstacle (index + before.length) op obstacle) := by
  induction ops generalizing store index with
  | nil =>
    refine .inl ⟨?_, store, rfl, hobjects, fun _ _ => rfl⟩
    intro before op after heq
    exact absurd heq (by simp)
  | cons op rest ih =>
    have hobject := hobjects op.collection op.id
    rw [applyFrom]
    rcases op.effect.apply_cases hobject with ⟨hok, hfree⟩ | ⟨obstacle, herror, hblocked⟩
    · rw [hok]
      have hput := hobjects.put (Effect.objectOrNone_perform hobject hfree) op.collection op.id
      rcases ih hput (index + 1) with
        ⟨hperforms, after, hafter, hheld, hget⟩ | ⟨before, other, obstacle, hfirst, herror⟩
      · refine .inl ⟨(performs_cons ..).mpr ⟨hfree, hperforms⟩, after, hafter, hheld, ?_⟩
        rw [documentAfter_cons]
        exact hget
      · obtain ⟨after, rfl⟩ := hfirst.eq_append
        refine .inr ⟨op :: before, other, obstacle, ⟨⟨after, rfl⟩, ?_, ?_⟩, ?_⟩
        · exact (blocks_cons ..).mpr hfirst.blocks
        · exact (performs_cons ..).mpr ⟨hfree, hfirst.performs⟩
        · rw [List.length_cons, Nat.add_comm before.length, ← Nat.add_assoc]
          exact herror
    · rw [herror]
      refine .inr ⟨[], op, obstacle, ⟨⟨rest, rfl⟩, hblocked, ?_⟩, rfl⟩
      intro before other after heq
      exact absurd heq (by simp)

/-- A transaction that takes place leaves objects. -/
theorem HoldsObjects.transact (h : store.HoldsObjects) {after : Store}
    (hcommit : store.transact ops = .ok after) : after.HoldsObjects := by
  obtain ⟨-, happly⟩ := transact_eq_ok_iff.mp hcommit
  rcases applyFrom_cases h 0 ops with ⟨-, applied, hok, hheld, -⟩ | ⟨_, _, _, -, herror⟩
  · rw [Except.ok.inj (happly.symm.trans hok)]
    exact hheld
  · cases happly.symm.trans herror

theorem allows_of_checkFrom (index : Nat) (h : store.checkFrom index ops = .ok ()) :
    store.Allows ops := by
  rcases store.checkFrom_cases index ops with ⟨-, hallows⟩ | ⟨_, _, _, -, herror⟩
  · exact hallows
  · cases h.symm.trans herror

theorem performs_of_applyFrom (hobjects : store.HoldsObjects) (index : Nat) {after : Store}
    (h : store.applyFrom index ops = .ok after) : store.Performs ops := by
  rcases applyFrom_cases hobjects index ops with ⟨hperforms, -⟩ | ⟨_, _, _, -, herror⟩
  · exact hperforms
  · cases h.symm.trans herror

/-- What an aborted transaction names: the first operation that asserts what does not hold, or if
there is none the first insert that finds a document at its turn. -/
inductive Aborts (store : Store) (ops before : List Op) (op : Op) : AbortReason → Prop where
  | refuted {reason : AbortReason} (h : store.FirstRefuted ops before op reason) :
      Aborts store ops before op reason
  | occupied (hallows : store.Allows ops) (h : store.FirstBlocked ops before op .occupied) :
      Aborts store ops before op .documentExists

theorem Aborts.eq_append {before : List Op} {op : Op} {reason : AbortReason}
    (h : store.Aborts ops before op reason) : ∃ after, ops = before ++ op :: after := by
  cases h with
  | refuted hfirst => exact hfirst.eq_append
  | occupied _ hfirst => exact hfirst.eq_append

/-- An aborted transaction names what aborted it. -/
theorem exists_aborts (hobjects : store.HoldsObjects) {index : Nat} {collection id : String}
    {reason : AbortReason}
    (h : store.transact ops = .error (.aborted index collection id reason)) :
    ∃ before op, index = before.length ∧ collection = op.collection ∧ id = op.id ∧
      store.Aborts ops before op reason := by
  rw [transact] at h
  rcases store.checkFrom_cases 0 ops with
    ⟨hcheck, hallows⟩ | ⟨before, op, found, hfirst, herror⟩
  · rw [hcheck] at h
    change store.applyFrom 0 ops = _ at h
    rcases applyFrom_cases hobjects 0 ops with
      ⟨-, _, hok, -⟩ | ⟨before, op, obstacle, hfirst, herror⟩
    · cases hok.symm.trans h
    · have hfailure := Except.error.inj (herror.symm.trans h)
      cases obstacle with
      | occupied =>
        cases hfailure
        exact ⟨before, op, Nat.zero_add _, rfl, rfl, .occupied hallows hfirst⟩
      | misfit cause => cases hfailure
  · rw [herror] at h
    cases h
    exact ⟨before, op, Nat.zero_add _, rfl, rfl, .refuted hfirst⟩

end Store

variable {shared : SharedStore}

/-- A transaction asserts things about the store as it is.  If one of them does not hold, the first
such operation is named and nothing changes.  If they all hold, but some operation cannot have its
effect at its turn, the first such operation is named and nothing changes.  And if all can have
their effects, each document is what the effects of the operations that name it make of it, and all
documents are objects again. -/
theorem snapshot_then_fold (hobjects : shared.store.HoldsObjects) (ops : List Op) :
    (¬shared.store.Allows ops → ∃ before op reason,
      shared.store.FirstRefuted ops before op reason ∧
        shared.commitOwn ops =
          (.error (.aborted before.length op.collection op.id reason), shared)) ∧
    (shared.store.Allows ops → ¬shared.store.Performs ops → ∃ before op obstacle,
      shared.store.FirstBlocked ops before op obstacle ∧
        shared.commitOwn ops = (.error (.ofObstacle before.length op obstacle), shared)) ∧
    (shared.store.Allows ops → shared.store.Performs ops → ∃ after,
      shared.commitOwn ops = (.ok (), { shared with store := after }) ∧ after.HoldsObjects ∧
        ∀ collection id,
          after.get? collection id = shared.store.documentAfter ops collection id) := by
  rcases shared.store.checkFrom_cases 0 ops with
    ⟨hcheck, hallows⟩ | ⟨before, op, reason, hfirst, herror⟩
  · refine ⟨fun hnot => absurd hallows hnot, ?_⟩
    rcases applyFrom_cases hobjects 0 ops with
      ⟨hperforms, after, hafter, hheld, hget⟩ | ⟨before, op, obstacle, hfirst, herror⟩
    · refine ⟨fun _ hnot => absurd hperforms hnot, fun _ _ => ⟨after, ?_, hheld, hget⟩⟩
      rw [SharedStore.commitOwn, transact_eq_ok_iff.mpr ⟨hcheck, hafter⟩]
    · refine ⟨fun _ _ => ⟨before, op, obstacle, hfirst, ?_⟩,
        fun _ hperforms => absurd hperforms hfirst.not_performs⟩
      rw [SharedStore.commitOwn, transact, hcheck]
      simp only [bind, Except.bind, herror, Nat.zero_add]
  · refine ⟨fun _ => ⟨before, op, reason, hfirst, ?_⟩,
      fun hallows => absurd hallows hfirst.not_allows,
      fun hallows => absurd hallows hfirst.not_allows⟩
    rw [SharedStore.commitOwn, transact, herror]
    simp only [bind, Except.bind, Nat.zero_add]

/-- A store with one set, whose field of items is null. -/
def SharedStore.unfilled : SharedStore where
  store := Store.empty.put "sets" "s" (some (.object [("ids", .null)]))

/-- Operations that fill a set, remove it, insert another one in its place and add to that. -/
def Store.Op.refilling : List Op :=
  [ .update "sets" "s" .present [.addToSet "ids" [.string "a", .string "a"]],
    .remove "sets" "s" (.fields [.equal "ids" .null]),
    { collection := "sets", id := "s", assertion := .anything,
      effect := .insert (.object [("ids", .array [])]) },
    .update "sets" "s" .anything [.push "ids" [.string "b"]] ]

/-- The set is removed although it has items by then, because it had none at first, and what is
inserted in its place is found by the last operation.  With an update of a missing document behind
them none of this happens, nor with a check that there was no set. -/
theorem snapshot_then_fold_refilling :
    SharedStore.unfilled.store.HoldsObjects ∧
    (∃ after, SharedStore.unfilled.commitOwn Op.refilling =
        (.ok (), { SharedStore.unfilled with store := after }) ∧
      after.get? "sets" "s" = some (.object [("ids", .array [.string "b"])])) ∧
    (∃ before op obstacle, SharedStore.unfilled.commitOwn
        (Op.refilling ++ [.update "sets" "t" .anything []]) =
      (.error (.ofObstacle before op obstacle), SharedStore.unfilled)) ∧
    ∃ index collection id reason, SharedStore.unfilled.commitOwn
        (Op.refilling ++ [.check "sets" "s" .absent]) =
      (.error (.aborted index collection id reason), SharedStore.unfilled) := by
  have hobjects : SharedStore.unfilled.store.HoldsObjects :=
    holdsObjects_empty.put (by rintro _ ⟨⟩; rfl) "sets" "s"
  have hallows : SharedStore.unfilled.store.Allows
      (Op.refilling ++ [.update "sets" "t" .anything []]) :=
    allows_of_checkFrom 0 rfl
  refine ⟨hobjects, ?_, ?_, ?_⟩
  · obtain ⟨-, -, hdone⟩ := snapshot_then_fold hobjects Op.refilling
    obtain ⟨after, hcommit, -, hget⟩ := hdone
      (fun op hop => hallows op (List.mem_append_left _ hop))
      (performs_of_applyFrom hobjects 0 rfl)
    exact ⟨after, hcommit, hget "sets" "s"⟩
  · obtain ⟨-, hblocked, -⟩ := snapshot_then_fold hobjects
      (Op.refilling ++ [.update "sets" "t" .anything []])
    obtain ⟨before, op, obstacle, -, hcommit⟩ := hblocked hallows fun hperforms =>
      hperforms Op.refilling _ [] rfl _ (.missing [])
    exact ⟨before.length, op, obstacle, hcommit⟩
  · obtain ⟨hrefuted, -, -⟩ := snapshot_then_fold hobjects
      (Op.refilling ++ [.check "sets" "s" .absent])
    obtain ⟨before, op, reason, -, hcommit⟩ := hrefuted fun hall =>
      hall _ (List.mem_append_right _ List.mem_cons_self) _ (.exists _)
    exact ⟨before.length, op.collection, op.id, reason, hcommit⟩

end ControlPlane
