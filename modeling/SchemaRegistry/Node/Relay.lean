import SchemaRegistry.Node.Desk
/-!
# Writes that followers hand on

A follower that is asked for a write hands it to the leader, or to a node that hands it on in turn.
Of the subject only the name goes on, and the next node reads it under its own tenant. What comes of
that at the leader is a call like any other; the answer goes back the same way, and on each step it
may be lost, which is to say that the caller leaves.
-/

set_option autoImplicit false

namespace SchemaRegistry

namespace Errand

def subject : Errand → Subject
  | delete subject _ => subject
  | register subject .. => subject

/-- The same write for another subject. -/
def about (errand : Errand) (subject : Subject) : Errand :=
  match errand with
  | delete _ permanent => delete subject permanent
  | register _ candidate normalize => register subject candidate normalize

end Errand

namespace Node

/-- What the next node is asked for when this one is asked for a write and hands it on. -/
def handsOn (n next : Node) (errand : Errand) : Option Errand :=
  match errand.accept n, n.believes.route with
  | .ok (), .ok (.forward _) =>
    (next.resolve errand.subject.rendered).toOption.map errand.about
  | _, _ => none

/-- What this node is asked for when the first of some followers is asked for a write, and each of
them hands it on to the next. -/
def askedVia (n : Node) : List Node → Errand → Option Errand
  | [], errand => some errand
  | follower :: others, errand =>
    (follower.handsOn (others.headD n) errand).bind (n.askedVia others)

end Node

/-- What happens at a leader that followers hand writes to. -/
inductive Arrival where
  | own (move : Move)
  /-- A write comes by way of followers, each of which is as it is at that moment. -/
  | handed (followers : List Node) (errand : Errand)

/-- The move of the leader that an arrival comes to, unless it is lost on the way. -/
def Arrival.move? (leader : Node) : Arrival → Option Move
  | own move => some move
  | handed followers errand => (leader.askedVia followers errand).map .call

/-- The desk of a leader and the log after arrivals. -/
def Desk.receive (d : Desk) (s : Store) (arrivals : List Arrival) : Desk × Store :=
  d.run s (arrivals.filterMap (Arrival.move? d.node))

end SchemaRegistry
