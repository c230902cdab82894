import SchemaRegistry.Node.Fleet
/-!
# A log that others write to

The nodes of a fleet are not the only ones that write to their log. Another process may append to
it, and into a table anybody can put a row of any text, as long as its offset lies ahead of all
others. Nodes also join later, with nothing read yet. An `Event` is any of these, or an action of
the fleet.
-/

set_option autoImplicit false

namespace SchemaRegistry

/-- The log with a row at its end. A row that is not ahead of all others is none to be appended. -/
def Store.insertRow (s : Store) (row : LogRow) : Store :=
  match s with
  | table (some rows) =>
    if rows.all (·.offset < row.offset) then table (some (rows ++ [row])) else s
  | s => s

/-- Something that happens to a log and to those that read it. -/
inductive Fleet.Event where
  | action (action : Fleet.Action)
  /-- Somebody else appends. -/
  | append (now : Instant) (op : Op)
  | insert (row : LogRow)
  | join (settings : NodeSettings) (leadership : Leadership)

namespace Fleet

/-- The fleet after an event. -/
def meet (f : Fleet) : Event → Fleet
  | .action action => f.step action
  | .append now op => { f with store := (f.store.append now op).2 }
  | .insert row => { f with store := f.store.insertRow row }
  | .join settings leadership =>
    { store := f.store.opened, desks := f.desks ++ [{ node := { settings, leadership } }] }

/-- The fleet after events. -/
def meetAll (f : Fleet) (events : List Event) : Fleet :=
  events.foldl meet f

/-- A log that nobody has read yet. -/
def unread (s : Store) : Fleet :=
  { store := s, desks := [] }

end Fleet

end SchemaRegistry
