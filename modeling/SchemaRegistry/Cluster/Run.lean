import SchemaRegistry.Cluster.Call
/-!
# Runs

What happens to a registry from outside is a list of events: writes are asked for at one node or the
other, nodes catch up, leadership moves, and the log gets into trouble and out of it. Writes come by
name, which the node that is asked resolves under its own tenant, and each has run to its end before
the next event, even if its caller has left. A registry is founded with an empty log, whatever its
nodes are set to.
-/

set_option autoImplicit false

namespace SchemaRegistry

/-- Something that happens to a registry from outside. -/
inductive Event where
  /-- A registration, by a caller who leaves after some milliseconds if any are given. -/
  | register (node : Nat) (headers : Headers) (name : String) (candidate : Candidate)
      (normalize : Bool) (patience : Option Nat)
  /-- A deletion, by such a caller. -/
  | delete (node : Nat) (headers : Headers) (name : String) (permanent : Bool)
      (patience : Option Nat)
  | sync (node : Nat)
  /-- A node learns who leads and how the leader is reached. -/
  | lead (node : Nat) (leadership : Leadership) (forwarder : Forwarder)
  /-- The log, as a node sees it, gets into trouble or out of it. -/
  | disturb (node : Nat) (trouble : Option Trouble) (nextReadFails : Bool)
  /-- The clock moves to the instant of the next append. -/
  | tick (now : Instant)

/-- The node before it has read anything of the log. -/
def Node.fresh (n : Node) : Node :=
  { n with catalog := .empty, underWay := none, errands := [] }

namespace Cluster

/-- The registry with an empty log, before anything has happened. -/
def found (clock : Instant) (network : Outbound → Reply) (nodes : List Node) : Cluster :=
  { store := .memory [], nodes := nodes.map Node.fresh, clock, network }

/-- The cluster when all that goes on in it without callers has come to an end. -/
def settled (c : Cluster) : Cluster :=
  c.await none fun _ => false

/-- What a write by name comes to, in the end. -/
def write {α : Type} (c : Cluster) (i : Nat) (headers : Headers) (name : String) (call : Call α)
    (patience : Option Nat) : Cluster :=
  match c.node? i with
  | none => c
  | some n =>
    match n.resolve name, patience with
    | .error _, _ => c
    | .ok subject, none => (c.submit i headers subject call).2.settled
    | .ok subject, some patience => (c.abandon patience i headers subject call).2.settled

/-- The cluster after an event. -/
def step (c : Cluster) : Event → Cluster
  | .register i headers name candidate normalize patience =>
    c.write i headers name (.register candidate normalize) patience
  | .delete i headers name permanent patience =>
    c.write i headers name (.delete permanent) patience
  | .sync i => (c.sync i).2
  | .lead i leadership forwarder =>
    { c with nodes := c.nodes.modify i fun n => { n with leadership, forwarder } }
  | .disturb i trouble nextReadFails =>
    { c with nodes := c.nodes.modify i fun n => { n with trouble, nextReadFails } }
  | .tick now => { c with clock := now }

/-- The cluster after events. -/
def run (c : Cluster) (events : List Event) : Cluster :=
  events.foldl step c

end Cluster

end SchemaRegistry
