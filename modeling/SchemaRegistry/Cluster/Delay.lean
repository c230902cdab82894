import SchemaRegistry.Cluster.Basic
/-!
# Time in a cluster

Only two things take time: an append to a slow log, and waiting for an answer that does not come. A
node does one write after the other, so while an append is under way further writes wait for their
turn. A caller who has waited long enough leaves, but the write goes on without its caller: what was
planned is appended when the append ends, and a write whose turn had not come yet is planned and
appended later. So time passes in leaps, from the end of one append to the next.
-/

set_option autoImplicit false

namespace SchemaRegistry

/-- The milliseconds that an append to a slow log takes. -/
def slowAppend : Nat := 80

namespace Node

/-- The operation that an errand comes to, if it comes to one. -/
def decide (n : Node) (s : Store) : Errand → Option Op × Node
  | .delete subject permanent =>
    let (decision, n) := n.plan s subject (.delete permanent)
    (decision.toOption.bind Decision.op, n)
  | .register subject candidate normalize =>
    let (decision, n) := n.plan s subject (.register candidate normalize)
    (decision.toOption.bind Decision.op, n)

/-- The node at the next of its errands that has something to append. -/
def turnTo (n : Node) (s : Store) (now : Nat) : List Errand → Node
  | [] => { n with errands := [] }
  | errand :: rest =>
    match n.decide s errand with
    | (none, n) => turnTo n s now rest
    | (some op, n) => { n with underWay := some (now + slowAppend, op), errands := rest }

end Node

namespace Cluster

/-! ## The end of an append -/

/-- The first of two ends, each with its node. -/
def sooner : Option (Nat × Nat) → Option (Nat × Nat) → Option (Nat × Nat)
  | none, b => b
  | a, none => a
  | some a, some b => if b.1 < a.1 then some b else some a

/-- When and at which node the next append ends, of the nodes from number `i` on. -/
def nextEndFrom (i : Nat) : List Node → Option (Nat × Nat)
  | [] => none
  | n :: rest => sooner (n.underWay.map fun (time, _) => (time, i)) (nextEndFrom (i + 1) rest)

def nextEnd? (c : Cluster) : Option (Nat × Nat) := nextEndFrom 0 c.nodes

/-- The append that is under way at a node ends, and the node turns to its next errand. -/
def endAt (c : Cluster) (i : Nat) : Cluster :=
  match c.node? i with
  | none => c
  | some n =>
    match n.underWay with
    | none => c
    | some (time, op) =>
      let (_, n, store) := { n with underWay := none }.commit c.store c.clock op
      { c.setNode i (n.turnTo store time n.errands) with store, elapsed := max c.elapsed time }

/-- How many writes go on without their callers. -/
def unfinished (c : Cluster) : Nat :=
  c.nodes.foldl (fun count n => count + n.errands.length + n.underWay.toList.length) 0

/-! ## Waiting -/

/-- From the end of one append to the next, in at most as many steps as given, until the cluster is
as wanted or there is nothing more to come before `limit`. -/
def leap (limit : Option Nat) (wanted : Cluster → Bool) : Nat → Cluster → Cluster
  | 0, c => c
  | steps + 1, c =>
    if wanted c then c
    else
      match c.nextEnd? with
      | none => c
      | some (time, i) => if limit.any (· < time) then c else leap limit wanted steps (c.endAt i)

/-- Waits until the cluster is as wanted, or there is nothing more to come before `limit`. -/
def await (c : Cluster) (limit : Option Nat) (wanted : Cluster → Bool) : Cluster :=
  leap limit wanted c.unfinished c

/-- Waits until a time. -/
def waitUntil (c : Cluster) (time : Nat) : Cluster :=
  let c := c.await (some time) fun _ => false
  { c with elapsed := max c.elapsed time }

/-- Waits as long as a caller does. -/
def waitFor (c : Cluster) : Option Nat → Cluster
  | none => c
  | some time => c.waitUntil time

/-- Whether a node can do a write at once. -/
def isFree (i : Nat) (c : Cluster) : Bool :=
  ((c.node? i).bind Node.underWay).isNone

/-! ## Catching up -/

/-- A node's catalog brought up to the log in the background, where a reading that fails is tried
again. -/
def refresh (c : Cluster) (i : Nat) : Cluster :=
  (c.sync i).2.sync i |>.2

/-- Refreshes a node at the end of every append, in at most as many steps as given, until the node
is as wanted or there is nothing more to come. -/
def follow (i : Nat) (wanted : Node → Bool) : Nat → Cluster → Cluster
  | 0, c => c.refresh i
  | steps + 1, c =>
    let c := c.refresh i
    if (c.node? i).any wanted then c
    else
      match c.nextEnd? with
      | none => c
      | some (_, k) => follow i wanted steps (c.endAt k)

/-- Keeps a node's catalog up to the log until the node is as wanted or there is nothing more to
come, and then for some milliseconds more. -/
def catchUp (c : Cluster) (i : Nat) (wanted : Node → Bool) (more : Nat) : Cluster :=
  let c := follow i wanted c.unfinished c
  if more = 0 then c else (c.waitUntil (c.elapsed + more)).refresh i

end Cluster

end SchemaRegistry
