import SchemaRegistry.Node.Basic
/-!
# Writes that overlap

`Node.perform` does a write in one go. A node that is asked for many writes at once has a task for
each of them, and a task comes to a halt in many places: until it has the write lock, until the
catalog's one applier is free, until the log has been read or appended to, and after every entry
that it applies. Wherever one task halts, others go on, and so does the background, which brings the
same catalog up to the same log. A `Desk` is a node with its tasks, and a `Move` is what happens
between two halts.

Moves come in any order. A move that is not possible where it stands in a run changes nothing, so
every list of moves is a run. Who reads the catalog sees it as it is between two moves. A call that
another node hands on arrives like any other.
-/

set_option autoImplicit false

namespace SchemaRegistry

/-- What a caller is told when a write has succeeded. -/
inductive Receipt where
  | deleted (versions : List UInt32)
  | registered (registered : Registered)
  deriving DecidableEq

def Receipt.of {α : Type} : Call α → α → Receipt
  | .delete _, answer => .deleted answer
  | .register .., answer => .registered answer

def Decision.map {α β : Type} (f : α → β) (decision : Decision α) : Decision β :=
  { op := decision.op, answer := f decision.answer }

namespace Errand

/-- What the node checks before it asks where the write has to run. -/
def accept (n : Node) : Errand → Except Error Unit
  | .delete subject permanent => n.accept subject (.delete permanent)
  | .register subject candidate normalize => n.accept subject (.register candidate normalize)

/-- What the write would do to a catalog, at a node that serves the tenant. -/
def plan (tenant : String) (c : Catalog) : Errand → Except Error (Decision Receipt)
  | .delete subject permanent =>
    (Node.planFor tenant subject (.delete permanent) c).map (Decision.map .deleted)
  | .register subject candidate normalize =>
    (Node.planFor tenant subject (.register candidate normalize) c).map (Decision.map .registered)

end Errand

/-- Where a task has come to. From `syncing` to `settling` it has the write lock. -/
inductive Stage where
  | waiting
  /-- It brings the catalog up to the log. -/
  | syncing
  | planning
  /-- It has planned, and has not asked yet whether the node still leads. -/
  | appending (op : Op) (answer : Receipt)
  | pushing (op : Op) (answer : Receipt)
  /-- Its entry is in the log, and it brings the catalog up to the log again. -/
  | settling (offset : Nat) (answer : Receipt)
  /-- It has ended, with an entry in the log if an offset is given. -/
  | finished (offset : Option Nat) (result : Except Error Receipt)

namespace Stage

def isInside : Stage → Bool
  | waiting | finished .. => false
  | _ => true

/-- Whether the task needs the catalog's applier. -/
def isSyncing : Stage → Bool
  | syncing | settling .. => true
  | _ => false

/-- The offset of the task's entry, once it is in the log. -/
def offset? : Stage → Option Nat
  | settling offset _ => some offset
  | finished offset _ => offset
  | _ => none

end Stage

structure Task where
  errand : Errand
  stage : Stage := .waiting
  /-- Whether the caller still waits for the answer. -/
  isAttended : Bool := true

/-- The applier of a catalog. It works for a task, or for the background if no owner is given. -/
inductive Applier where
  | free
  /-- It reads the entries behind an offset. -/
  | reading (owner : Option Nat) (applied : Nat)
  | applying (owner : Option Nat) (rest : List Entry)

def Applier.owner? : Applier → Option Nat
  | free => none
  | reading owner _ | applying owner _ => owner

structure Desk where
  node : Node
  /-- The task that has the write lock. -/
  lock : Option Nat := none
  applier : Applier := .free
  tasks : List Task := []

/-- What happens between two halts. -/
inductive Move where
  /-- The node is asked for a write. -/
  | call (errand : Errand)
  /-- A task gets the write lock. -/
  | take (task : Nat)
  /-- A task, or the background, gets the applier. -/
  | enter (owner : Option Nat)
  | read (fault : Option LogFailure)
  /-- The next entry is applied. -/
  | apply
  /-- The background gives up. -/
  | drop
  | plan (task : Nat)
  | check (task : Nat)
  | push (task : Nat) (fault : Option LogFailure) (now : Instant)
  /-- A caller leaves without an answer. -/
  | leave (task : Nat)

namespace Desk

/-- A leader before it has been asked for anything. -/
def opened (settings : NodeSettings) : Desk :=
  { node := { settings, leadership := .leader } }

/-- What a task is about, and where it has come to. -/
def place? (d : Desk) (i : Nat) : Option (Errand × Stage) :=
  d.tasks[i]?.map fun task => (task.errand, task.stage)

/-- The desk with a task at another stage. -/
def put (d : Desk) (i : Nat) (stage : Stage) : Desk :=
  { d with tasks := d.tasks.modify i fun task => { task with stage } }

/-- The desk with a task at its end, where it gives the lock back. -/
def finish (d : Desk) (i : Nat) (offset : Option Nat) (result : Except Error Receipt) : Desk :=
  { d.put i (.finished offset result) with lock := none }

/-! ## Calls -/

/-- A call that the node accepts and has to run itself becomes a task. -/
def call (d : Desk) (errand : Errand) : Desk :=
  match errand.accept d.node, d.node.believes.route with
  | .ok (), .ok .here => { d with tasks := d.tasks ++ [{ errand }] }
  | _, _ => d

def take (d : Desk) (i : Nat) : Desk :=
  match d.place? i, d.lock with
  | some (_, .waiting), none => { d.put i .syncing with lock := some i }
  | _, _ => d

/-- The task goes on without its caller. -/
def leave (d : Desk) (i : Nat) : Desk :=
  { d with tasks := d.tasks.modify i fun task => { task with isAttended := false } }

/-! ## Catching up -/

def enter (d : Desk) (owner : Option Nat) : Desk :=
  match d.applier with
  | .free =>
    if owner.all fun i => (d.place? i).any fun place => place.2.isSyncing then
      { d with applier := .reading owner d.node.catalog.applied }
    else d
  | _ => d

/-- The applier becomes free. A task that it has worked for goes on to its plan, or ends. -/
def release (d : Desk) (owner : Option Nat) (outcome : Except LogFailure Unit) : Desk :=
  let d := { d with applier := .free }
  match owner with
  | none => d
  | some i =>
    match d.place? i, outcome with
    | some (_, .syncing), .ok () => d.put i .planning
    | some (_, .syncing), .error failure => d.finish i none (.error failure.error)
    -- The entry is in the log, whatever has become of the reading.
    | some (_, .settling offset answer), _ => d.finish i (some offset) (.ok answer)
    | _, _ => d

def read (d : Desk) (s : Store) (fault : Option LogFailure) : Desk :=
  match d.applier with
  | .reading owner applied =>
    match s.read fault applied with
    | .error failure => d.release owner (.error failure)
    | .ok entries => { d with applier := .applying owner entries }
  | _ => d

def apply (d : Desk) : Desk :=
  match d.applier with
  | .applying owner [] => d.release owner (.ok ())
  | .applying owner (entry :: rest) =>
    { d with
      node := { d.node with catalog := d.node.catalog.apply entry }
      applier := .applying owner rest }
  | _ => d

def drop (d : Desk) : Desk :=
  match d.applier.owner? with
  | none => { d with applier := .free }
  | some _ => d

/-! ## Writing -/

def plan (d : Desk) (i : Nat) : Desk :=
  match d.place? i with
  | some (errand, .planning) =>
    match errand.plan d.node.settings.tenant d.node.catalog with
    | .error e => d.finish i none (.error e)
    | .ok { op := none, answer } => d.finish i none (.ok answer)
    | .ok { op := some op, answer } => d.put i (.appending op answer)
  | _ => d

def check (d : Desk) (i : Nat) : Desk :=
  match d.place? i with
  | some (_, .appending op answer) =>
    if d.node.believes.isLeader then d.put i (.pushing op answer)
    else d.finish i none (.error LogFailure.notLeader.error)
  | _ => d

def push (d : Desk) (s : Store) (i : Nat) (fault : Option LogFailure) (now : Instant) :
    Desk × Store :=
  match d.place? i with
  | some (_, .pushing op answer) =>
    match s.write fault now op with
    | (.error failure, s) => (d.finish i none (.error failure.error), s)
    | (.ok offset, s) => (d.put i (.settling offset answer), s)
  | _ => (d, s)

/-! ## Runs -/

/-- The desk and the log after a move. -/
def step (d : Desk) (s : Store) : Move → Desk × Store
  | .call errand => (d.call errand, s)
  | .take i => (d.take i, s)
  | .enter owner => (d.enter owner, s)
  | .read fault => (d.read s fault, s)
  | .apply => (d.apply, s)
  | .drop => (d.drop, s)
  | .plan i => (d.plan i, s)
  | .check i => (d.check i, s)
  | .push i fault now => d.push s i fault now
  | .leave i => (d.leave i, s)

/-- The desk and the log after moves. -/
def run (d : Desk) (s : Store) : List Move → Desk × Store
  | [] => (d, s)
  | move :: moves => (d.step s move).1.run (d.step s move).2 moves

/-- What moves lead to at a new leader with an empty log. -/
def outcome (settings : NodeSettings) (moves : List Move) : Desk × Store :=
  (opened settings).run (.memory []) moves

end Desk

end SchemaRegistry
