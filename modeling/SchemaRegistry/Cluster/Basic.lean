import SchemaRegistry.Http.Message
import SchemaRegistry.Node.Basic
/-!
# Clusters

A cluster is a number of nodes over one log. It keeps a record of the calls that were handed from
node to node, and a clock that tells how much time has passed. Time passes only where somebody waits
(`Cluster.Delay`); everything else happens at once.
-/

set_option autoImplicit false

namespace SchemaRegistry

/-- What a call that was handed on was about. -/
inductive HandedCall where
  | delete (permanent : Bool)
  | register (normalize : Bool)
  deriving DecidableEq

/-- A call that was handed from one node to another. -/
structure Handover where
  leaderUrl : String
  headers : Headers
  /-- The subject's name. -/
  subject : String
  call : HandedCall
  deriving DecidableEq

def Call.handed {α : Type} : Call α → HandedCall
  | .delete permanent => .delete permanent
  | .register _ normalize => .register normalize

structure Cluster where
  store : Store
  nodes : List Node
  /-- The instant of the next append. -/
  clock : Instant
  /-- What becomes of requests that nodes send. -/
  network : Outbound → Reply := fun _ => .unreachable
  /-- The calls handed on so far, in order. -/
  handovers : List Handover := []
  /-- The milliseconds that have passed. -/
  elapsed : Nat := 0

namespace Cluster

def node? (c : Cluster) (i : Nat) : Option Node := c.nodes[i]?

def setNode (c : Cluster) (i : Nat) (n : Node) : Cluster :=
  { c with nodes := c.nodes.set i n }

/-- The cluster with one more node. -/
def join (c : Cluster) (n : Node) : Cluster :=
  { c with store := c.store.opened, nodes := c.nodes ++ [n] }

/-- A node's catalog brought up to the log. -/
def sync (c : Cluster) (i : Nat) : Except Error Nat × Cluster :=
  match c.node? i with
  | none => (.error (.internal s!"There is no node {i}"), c)
  | some n =>
    let (outcome, n) := n.sync c.store
    (outcome, c.setNode i n)

end Cluster

end SchemaRegistry
