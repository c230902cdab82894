import SchemaRegistry.Deletion.Plan
import SchemaRegistry.Http.Header
import SchemaRegistry.Node.Write
import SchemaRegistry.Registration.Plan
import SchemaRegistry.Settings.Basic
/-!
# Nodes

A node serves a tenant. It reads from its own catalog, which follows the log at its own pace, and
writes where the leader is. A `Call` is a write as it travels from node to node. The functions here
are about one node and the log: what it answers from its catalog, and what it does with a call that
runs on it. Between nodes, calls are taken by `Cluster`.

The log as a node sees it can be in trouble. `Trouble` names the kinds of it, and `Node.faults` says
what they mean for the next write.
-/

set_option autoImplicit false

namespace SchemaRegistry

/-- A lasting trouble with the log at one node. -/
inductive Trouble where
  /-- The node takes itself for the leader and is not. -/
  | deposed
  | appendsFail
  | readsFail
  /-- After every append, the next reading fails. -/
  | readsFailOnce
  /-- Appending takes long. -/
  | slow
  deriving DecidableEq

/-- How a node hands a call to the leader. -/
inductive Forwarder where
  /-- It cannot. -/
  | none
  /-- To another node of the same process, by its index. -/
  | direct (node : Nat)
  /-- Into a void from which no answer comes. -/
  | silent
  /-- By request. -/
  | http
  deriving DecidableEq

/-- What a write is about. -/
inductive Call : Type → Type where
  | delete (permanent : Bool) : Call (List UInt32)
  | register (candidate : Candidate) (normalize : Bool) : Call Registered

/-- What messages call the operation. -/
def Call.name {α : Type} : Call α → String
  | .delete _ => "Delete subject"
  | .register .. => "Register schema"

/-- A write whose caller has left, and that is done all the same when its turn comes. -/
inductive Errand where
  | delete (subject : Subject) (permanent : Bool)
  | register (subject : Subject) (candidate : Candidate) (normalize : Bool)

def Errand.of {α : Type} (subject : Subject) : Call α → Errand
  | .delete permanent => .delete subject permanent
  | .register candidate normalize => .register subject candidate normalize

structure Node where
  settings : NodeSettings := {}
  leadership : Leadership := .leader
  forwarder : Forwarder := .none
  trouble : Option Trouble := none
  catalog : Catalog := .empty
  /-- Whether the next reading of the log fails. -/
  nextReadFails : Bool := false
  /-- The operation that is being appended with no caller waiting for it, and when that ends. -/
  underWay : Option (Nat × Op) := none
  /-- What is done after that, in order. -/
  errands : List Errand := []

namespace Node

/-! ## The log as the node sees it -/

def diskFull : LogFailure := .store (.device "disk full")

def diskHiccup : LogFailure := .store (.device "disk hiccup")

/-- Whom the node takes for the leader. -/
def believes (n : Node) : Leadership :=
  if n.trouble = some .deposed then .leader else n.leadership

/-- How the next reading fails, if it does. -/
def readFault (n : Node) : Option LogFailure :=
  if n.trouble = some .readsFail ∨ n.nextReadFails then some diskHiccup else none

/-- How an append fails, if it does. -/
def appendFault (n : Node) : Option LogFailure :=
  if n.trouble = some .deposed then some .notLeader
  else if n.trouble = some .appendsFail then some diskFull
  else if n.leadership.isLeader then none
  else some .notLeader

/-- What goes wrong with the log during the next write. -/
def faults (n : Node) : Faults where
  beforePlan := n.readFault
  append := n.appendFault
  afterAppend :=
    if n.trouble = some .readsFail ∨ n.trouble = some .readsFailOnce then some diskHiccup else none

/-- The entries behind an offset. -/
def readAfter (n : Node) (s : Store) (offset : Nat) : Except LogFailure (List Entry) × Node :=
  (s.read n.readFault offset, { n with nextReadFails := false })

/-- The log with an operation appended straight to it. -/
def append (n : Node) (s : Store) (now : Instant) (op : Op) :
    Except LogFailure Nat × Node × Store :=
  let (outcome, s) := s.write n.appendFault now op
  let armed := n.trouble = some .readsFailOnce ∧ outcome.toOption.isSome
  (outcome, { n with nextReadFails := n.nextReadFails || armed }, s)

/-- The catalog brought up to the log. -/
def sync (n : Node) (s : Store) : Except Error Nat × Node :=
  let (outcome, catalog) := n.catalog.sync s n.readFault
  (outcome.mapError LogFailure.error, { n with catalog, nextReadFails := false })

/-! ## Answers from the catalog -/

/-- The subject that a name means at this node. -/
def resolve (n : Node) (raw : String) : Except Error Subject :=
  (Subject.resolve n.settings.tenant raw).mapError fun flaw => .invalidSubject flaw.message

def hasSubject (n : Node) (subject : Subject) (includeDeleted : Bool) : Bool :=
  n.catalog.hasSubject subject includeDeleted

/-- The subjects of a pattern. -/
def list (n : Node) (pattern : String) (includeDeleted : Bool) : Except Error (List Subject) :=
  match Subject.Pattern.parse n.settings.tenant pattern with
  | .error flaw => .error (.invalidSubject flaw.message)
  | .ok pattern => .ok (n.catalog.list pattern includeDeleted)

/-- The version of a subject that is equal to a candidate. -/
def lookup (n : Node) (subject : Subject) (candidate : Candidate)
    (normalize includeDeleted : Bool) : Except Error Version :=
  match n.catalog.resolveCandidate n.settings.tenant candidate with
  | .error e => .error e
  | .ok candidate =>
    match n.catalog.find subject candidate (.ofNormalize normalize) includeDeleted with
    | .error e => .error e
    | .ok found => found.result subject

/-! ## Writes -/

/-- Refuses every write at a node that only reads. -/
def checkWritable (n : Node) (subject : Subject) : Except Error Unit :=
  match n.settings.mode with
  | .readWrite => .ok ()
  | .readOnly =>
    .error (.operationNotPermitted s!"Subject {subject.rendered} is in read-only mode")

/-- What the node checks before it asks where a call has to run: that it may write at all, and for a
deletion that its own catalog does not forbid it. -/
def accept {α : Type} (n : Node) (subject : Subject) (call : Call α) : Except Error Unit :=
  match n.checkWritable subject with
  | .error e => .error e
  | .ok () =>
    match call with
    -- This only spares a hopeless deletion the way: the leader checks again on its own catalog.
    | .delete permanent =>
      Deletion.check (n.catalog.state subject) subject (.ofPermanent permanent)
    | .register .. => .ok ()

/-- What a call would do to a catalog, at a node that serves the tenant. -/
def planFor {α : Type} (tenant : String) (subject : Subject) (call : Call α) (c : Catalog) :
    Except Error (Decision α) :=
  match call with
  | .delete permanent =>
    (Deletion.plan c subject (.ofPermanent permanent)).map fun (op, record) =>
      { op := some op, answer := record.versions }
  | .register candidate normalize =>
    (Registration.plan c tenant subject candidate (.ofNormalize normalize)).map fun
      | .existing registered => { op := none, answer := registered }
      | .append op registered => { op := some op, answer := registered }

/-- The first half of a call that runs on this node: what it comes to. -/
def plan {α : Type} (n : Node) (s : Store) (subject : Subject) (call : Call α) :
    Except Error (Decision α) × Node :=
  let (decision, catalog) :=
    planWrite (planFor n.settings.tenant subject call) n.faults n.catalog s
  (decision, { n with catalog, nextReadFails := false })

/-- The second half: the operation is appended. -/
def commit (n : Node) (s : Store) (now : Instant) (op : Op) : Except Error Unit × Node × Store :=
  let (outcome, catalog, s) := commitWrite n.faults now op n.catalog s
  (outcome, { n with catalog }, s)

/-- A call that runs on this node, from beginning to end. -/
def perform {α : Type} (n : Node) (s : Store) (now : Instant) (subject : Subject) (call : Call α) :
    Except Error α × Node × Store :=
  let (outcome, catalog, s) :=
    writeAsLeader (planFor n.settings.tenant subject call) n.faults now n.catalog s
  (outcome, { n with catalog, nextReadFails := false }, s)

end Node

end SchemaRegistry
