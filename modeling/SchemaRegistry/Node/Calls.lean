import SchemaRegistry.Node.Basic
/-!
# Calls on the log

A log is used through one node in three ways: an operation is appended, the entries behind an offset
are read, and the node is told who leads. Appending is for the leader alone. The clock that says
when an entry was appended is read anew for every call.
-/

set_option autoImplicit false

namespace SchemaRegistry

/-- A call on the log at one node. -/
inductive LogCall where
  | append (op : Op)
  /-- The node learns who leads. -/
  | lead (leadership : Leadership)
  | readAfter (offset : Nat)
  deriving DecidableEq

/-- The answer to a call on the log, with entries of some form. -/
inductive LogAnswer (α : Type) where
  | appended (outcome : Except LogFailure Nat)
  | led
  | read (outcome : Except LogFailure (List α))

/-- The answer with its entries in another form. -/
def LogAnswer.map {α β : Type} (f : α → β) : LogAnswer α → LogAnswer β
  | appended outcome => appended outcome
  | led => led
  | read outcome => read (outcome.map (List.map f))

namespace Node

/-- The answer to a call, and the node and the log after it. -/
def ask (n : Node) (s : Store) (now : Instant) : LogCall → LogAnswer Entry × Node × Store
  | .append op =>
    let (outcome, n, s) := n.append s now op
    (.appended outcome, n, s)
  | .lead leadership => (.led, { n with leadership }, s)
  | .readAfter offset =>
    let (outcome, n) := n.readAfter s offset
    (.read outcome, n, s)

/-- The answers to calls one after the other, each at the instant that the clock shows for it. -/
def askAll (clock : Nat → Instant) (n : Node) (s : Store) :
    List LogCall → List (LogAnswer Entry) × Node × Store
  | [] => ([], n, s)
  | call :: calls =>
    let (answer, n, s) := n.ask s (clock 0) call
    let (answers, n, s) := askAll (fun k => clock (k + 1)) n s calls
    (answer :: answers, n, s)

end Node

end SchemaRegistry
