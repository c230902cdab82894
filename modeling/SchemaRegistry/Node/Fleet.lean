import SchemaRegistry.Node.Desk
/-!
# Nodes that lead in turn

The nodes of a registry share a log, and each of them has a desk of its own, with its own catalog,
its own write lock and its own tasks. Leadership goes from one node to another at any moment, though
never to two at once. A node that has lost it goes on with the tasks that it has, and so does one
that has got it back: what a task asks before it appends is whether its node leads at that moment.

As at a desk, an action that is not possible where it stands in a run changes nothing.
-/

set_option autoImplicit false

namespace SchemaRegistry

namespace Desk

def leads (d : Desk) : Bool :=
  d.node.believes.isLeader

/-- The desk of a node that has learnt who leads. -/
def told (d : Desk) (leadership : Leadership) : Desk :=
  { d with node := { d.node with leadership } }

end Desk

/-- A log, and the desks of the nodes that share it. -/
structure Fleet where
  store : Store
  desks : List Desk

namespace Fleet

/-- Something that happens to the nodes. -/
inductive Action where
  /-- Something happens at one desk. -/
  | act (desk : Nat) (move : Move)
  /-- A node learns who leads. -/
  | lead (desk : Nat) (leadership : Leadership)

/-- Nodes with an empty log, none of which leads. -/
def opened (settings : List NodeSettings) : Fleet :=
  { store := .memory []
    desks := settings.map fun settings =>
      { node := { settings, leadership := .follower none } } }

def desk? (f : Fleet) (j : Nat) : Option Desk := f.desks[j]?

/-- Whether a node besides this one leads. -/
def othersLead (f : Fleet) (j : Nat) : Bool :=
  (f.desks.eraseIdx j).any Desk.leads

def act (f : Fleet) (j : Nat) (move : Move) : Fleet :=
  match f.desk? j with
  | none => f
  | some d => { store := (d.step f.store move).2, desks := f.desks.set j (d.step f.store move).1 }

def tell (f : Fleet) (j : Nat) (leadership : Leadership) : Fleet :=
  { f with desks := f.desks.modify j (·.told leadership) }

/-- No node comes to lead while another does. -/
def lead (f : Fleet) (j : Nat) (leadership : Leadership) : Fleet :=
  if leadership.isLeader && f.othersLead j then f else f.tell j leadership

/-- The fleet after an action. -/
def step (f : Fleet) : Action → Fleet
  | .act j move => f.act j move
  | .lead j leadership => f.lead j leadership

/-- The fleet after actions. -/
def run (f : Fleet) (actions : List Action) : Fleet :=
  actions.foldl step f

/-- What actions lead to at new nodes with an empty log. -/
def outcome (settings : List NodeSettings) (actions : List Action) : Fleet :=
  (opened settings).run actions

end Fleet

end SchemaRegistry
