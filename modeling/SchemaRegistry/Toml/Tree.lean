import SchemaRegistry.Toml.Date
/-!
# TOML trees

`Toml` is the value that a document or a part of it gives. A table remembers how it came to be,
because that decides who may still add to it. `Table.put` and `Table.enter` are the two ways to add:
a key with a value, and the header of a table.
-/

set_option autoImplicit false

namespace SchemaRegistry

/-- How a table came to be. -/
inductive Toml.Origin where
  /-- Its own header opened it. -/
  | header
  /-- It is on the way to a table that a header opened. -/
  | implied
  /-- It is on the way to a value with a dotted key. -/
  | dotted
  /-- It was written between braces. -/
  | braces
  deriving DecidableEq

inductive Toml where
  | text (s : String)
  | integer (n : Int)
  | double (x : Toml.Double)
  | flag (b : Bool)
  | moment (m : Toml.Moment)
  | list (items : List Toml)
  | table (origin : Toml.Origin) (members : List (String × Toml))
  /-- The tables that the same header in double brackets opened, of which the last is open. -/
  | tables (earlier : List (List (String × Toml))) (last : List (String × Toml))
  deriving Inhabited

namespace Toml

/-- What a message calls a value that is no table with a header. -/
def kind : Toml → String
  | .text _ => "string"
  | .integer _ => "integer"
  | .double _ => "float"
  | .flag _ => "boolean"
  | .moment _ => "datetime"
  | .list _ => "array"
  | .table .braces _ => "inline table"
  | .table _ _ => "table"
  | .tables _ _ => "array of tables"

/-- The members of a table. -/
abbrev Table := List (String × Toml)

namespace Table

/-- The members with one of them replaced, or added at the end. -/
def set (name : String) (v : Toml) : Table → Table
  | [] => [(name, v)]
  | (n, old) :: rest => if n = name then (n, v) :: rest else (n, old) :: set name v rest

/-- Whose members are changed: those of a header's table, or those of a table between braces. -/
inductive Place where
  | below (header : List String)
  | betweenBraces

/-- The change made in the table at the end of a path. Tables that are missing on the way are made,
with the origin that is given; a path of dotted keys does not lead through a table that a header
opened. `passed` is the part of the path that lies behind. -/
def alter (made : Origin) (place : Place) (change : Origin → Table → Except Cause Table) :
    (passed path : List String) → Origin → Table → Except Cause Table
  | _, [], origin, members => change origin members
  | passed, name :: path, _, members =>
    let passed := passed ++ [name]
    match members.lookup name with
    | none =>
      (alter made place change passed path made []).map fun inner =>
        set name (.table made inner) members
    | some (.tables earlier last) =>
      (alter made place change passed path .header last).map fun last =>
        set name (.tables earlier last) members
    | some (.table .braces inner) =>
      match place with
      | .betweenBraces => .error (.duplicate name none)
      | .below _ => .error (.notTable passed (kind (.table .braces inner)))
    | some (.table origin inner) =>
      if made = .dotted ∧ origin = .header then .error (.duplicate name none)
      else
        (alter made place change passed path origin inner).map fun inner =>
          set name (.table origin inner) members
    | some v => .error (.notTable passed v.kind)

/-- A value put under the last name of a dotted key. Below a path, only tables of dotted keys take
it. -/
def put (place : Place) (path : List String) (name : String) (v : Toml) (members : Table) :
    Except Cause Table :=
  alter .dotted place add [] path .header members
where
  add (origin : Origin) (members : Table) : Except Cause Table :=
    if (origin == .dotted) == path.isEmpty then .error (.duplicate name none)
    else if (members.lookup name).isSome then
      match place with
      | .below header => .error (.duplicate name (some header))
      | .betweenBraces => .error (.duplicate name none)
    else .ok (set name v members)

/-- The table of a header opened: a table that is new or was only implied, or in double brackets
one more of its name. -/
def enter (isRepeated : Bool) (parent : List String) (name : String) (root : Table) :
    Except Cause Table :=
  alter .implied (.below parent) (fun _ members => (opened members).map (set name · members))
    [] parent .header root
where
  opened (members : Table) : Except Cause Toml :=
    match members.lookup name, isRepeated with
    | none, false => .ok (.table .header [])
    | none, true => .ok (.tables [] [])
    | some (.table .implied inner), false => .ok (.table .header inner)
    | some (.tables earlier last), true => .ok (.tables (earlier ++ [last]) [])
    | _, _ => .error (.reopened name parent)

/-- A value put under a dotted key below the header of a table that is open. -/
def putBelow (header path : List String) (name : String) (v : Toml) (root : Table) :
    Except Cause Table :=
  alter .implied (.below header) (fun _ members => put (.below header) path name v members)
    [] header .header root

end Table

end Toml

end SchemaRegistry
