import ControlPlane.Store.Basic

/-!
# A shared store that can fail

Beside the documents there are transactions of other writers, each of which is committed just
before the next transaction of ours, and faults, each of which makes some calls of one kind fail.
-/

namespace ControlPlane

open ControlPlane.Json

/-- The kinds of call on the store. -/
inductive StoreMethod where
  | get
  | list
  | increment
  | transact
  deriving DecidableEq, Repr

/-- A fault of one kind of call: `skip` calls succeed, then `count` calls fail. -/
structure Fault where
  method : StoreMethod
  message : String
  skip : Nat
  count : Nat
  deriving DecidableEq, Repr

/-- A store, the pending transactions of other writers and the pending faults. -/
structure SharedStore where
  store : Store := .empty
  rivals : List (List Store.Op) := []
  faults : List Fault := []

namespace SharedStore

/-- Shows a call to the faults in turn, up to the first one that makes it fail. A fault that still
skips counts the call and leaves it to those behind it. -/
def trip (method : StoreMethod) : List Fault → Option String × List Fault
  | [] => (none, [])
  | fault :: rest =>
    if fault.method ≠ method then
      let (message, rest) := trip method rest
      (message, fault :: rest)
    else if 0 < fault.skip then
      let (message, rest) := trip method rest
      (message, { fault with skip := fault.skip - 1 } :: rest)
    else if 0 < fault.count then
      (some fault.message, { fault with count := fault.count - 1 } :: rest)
    else
      let (message, rest) := trip method rest
      (message, fault :: rest)

/-- Fetches one document. -/
def get (shared : SharedStore) (collection id : String) :
    Except StoreError (Option Value) × SharedStore :=
  let (fault, faults) := trip .get shared.faults
  let answer :=
    match fault with
    | some message => .error (.unavailable message)
    | none => .ok (shared.store.get? collection id)
  (answer, { shared with faults })

/-- Fetches a collection. -/
def list (shared : SharedStore) (collection : String) :
    Except StoreError (List Value) × SharedStore :=
  let (fault, faults) := trip .list shared.faults
  let answer :=
    match fault with
    | some message => .error (.unavailable message)
    | none => .ok (shared.store.list collection)
  (answer, { shared with faults })

/-- Adds one to a counter. -/
def increment (shared : SharedStore) (collection id field : String) :
    Except StoreError Nat × SharedStore :=
  let (fault, faults) := trip .increment shared.faults
  match fault with
  | some message => (.error (.unavailable message), { shared with faults })
  | none =>
    let (answer, store) := shared.store.increment collection id field
    (answer, { shared with store, faults })

/-- Commits operations on the store alone. -/
def commitOwn (shared : SharedStore) (ops : List Store.Op) : Except StoreError Unit × SharedStore :=
  match shared.store.transact ops with
  | .ok store => (.ok (), { shared with store })
  | .error error => (.error error, shared)

/-- Commits operations, unless another writer comes first and fails or a fault is met. -/
def transact (shared : SharedStore) (ops : List Store.Op) : Except StoreError Unit × SharedStore :=
  let (rival, shared) :=
    match shared.rivals with
    | [] => (Except.ok (), shared)
    | first :: rest => commitOwn { shared with rivals := rest } first
  match rival with
  | .error error => (.error error, shared)
  | .ok () =>
    let (fault, faults) := trip .transact shared.faults
    match fault with
    | some message => (.error (.unavailable message), { shared with faults })
    | none => commitOwn { shared with faults } ops

end SharedStore

end ControlPlane
