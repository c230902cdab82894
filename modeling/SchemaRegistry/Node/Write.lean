import SchemaRegistry.Catalog.Basic
import SchemaRegistry.Log.Store
/-!
# Writes at the leader

A write at the leader brings the node's catalog up to the log, plans what to do on that catalog,
appends the operation if the plan has one, and brings the catalog up to the log again. The second
time serves the next reader only: the entry is in the log by then, so when it fails the write has
succeeded all the same, and the catalog catches up later. `Faults` says which of the calls on the
log fail during one write, and how.

Between the two halves of a write, `planWrite` and `commitWrite`, time can pass.
-/

set_option autoImplicit false

namespace SchemaRegistry

/-- What goes wrong with the log during a write. -/
structure Faults where
  beforePlan : Option LogFailure := none
  append : Option LogFailure := none
  afterAppend : Option LogFailure := none

/-- What a plan comes to: an answer, and an operation unless all is as it should be already. -/
structure Decision (α : Type) where
  op : Option Op
  answer : α

/-- The entries behind an offset, unless reading fails. -/
def Store.read (s : Store) (fault : Option LogFailure) (offset : Nat) :
    Except LogFailure (List Entry) :=
  match fault with
  | some failure => .error failure
  | none => (s.readAfter offset).mapError .store

/-- The log with an operation appended, unless appending fails. -/
def Store.write (s : Store) (fault : Option LogFailure) (now : Instant) (op : Op) :
    Except LogFailure Nat × Store :=
  match fault with
  | some failure => (.error failure, s)
  | none =>
    let (outcome, s) := s.append now op
    (outcome.mapError .store, s)

/-- The catalog brought up to the log, and the offset it has reached. A failed reading leaves it as
it is. -/
def Catalog.sync (c : Catalog) (s : Store) (fault : Option LogFailure) :
    Except LogFailure Nat × Catalog :=
  match s.read fault c.applied with
  | .error failure => (.error failure, c)
  | .ok entries =>
    let c := c.applyAll entries
    (.ok c.applied, c)

/-- The first half of a write: the catalog is brought up to the log, and the plan is made on it. -/
def planWrite {α : Type} (plan : Catalog → Except Error (Decision α)) (faults : Faults)
    (c : Catalog) (s : Store) : Except Error (Decision α) × Catalog :=
  match c.sync s faults.beforePlan with
  | (.error failure, c) => (.error failure.error, c)
  | (.ok _, c) => (plan c, c)

/-- The second half of a write: the operation is appended, and the catalog is brought up to the log
again. -/
def commitWrite (faults : Faults) (now : Instant) (op : Op) (c : Catalog) (s : Store) :
    Except Error Unit × Catalog × Store :=
  match s.write faults.append now op with
  | (.error failure, s) => (.error failure.error, c, s)
  -- What becomes of the second reading is not told to the caller.
  | (.ok _, s) => (.ok (), (c.sync s faults.afterAppend).2, s)

/-- A write at the leader, on its catalog and the log. -/
def writeAsLeader {α : Type} (plan : Catalog → Except Error (Decision α)) (faults : Faults)
    (now : Instant) (c : Catalog) (s : Store) : Except Error α × Catalog × Store :=
  match planWrite plan faults c s with
  | (.error e, c) => (.error e, c, s)
  | (.ok { op := none, answer }, c) => (.ok answer, c, s)
  | (.ok { op := some op, answer }, c) =>
    let (outcome, c, s) := commitWrite faults now op c s
    (outcome.map fun () => answer, c, s)

end SchemaRegistry
