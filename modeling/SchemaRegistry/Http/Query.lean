import SchemaRegistry.Http.Percent
import SchemaRegistry.Text.Line
import SchemaRegistry.Text.Lossy
/-!
# Parameters of a query

A query is a sequence of pairs between ampersands. In names and values a plus sign is a space and
triples are decoded. A request has a few parameters by name; each may be given once, a switch is
`true` or `false` and nothing else, and pairs of other names are ignored. The first pair that breaks
a rule is reported.
-/

set_option autoImplicit false

namespace SchemaRegistry

/-- Why a query is refused. -/
inductive QueryFlaw where
  | notSwitch (name : String)
  | repeated (name : String)
  deriving DecidableEq

def QueryFlaw.message : QueryFlaw → String
  | .notSwitch name =>
    s!"Failed to deserialize query string: {name}: provided string was not `true` or `false`"
  | .repeated name => s!"Failed to deserialize query string: duplicate field `{name}`"

namespace Query

/-- A name or value as text. -/
def component (bs : Octets) : String :=
  Text.ofOctetsLossy (Percent.decode (bs.map fun b => if b = 0x2b then 0x20 else b))

/-- One pair. What has no equals sign is a name with an empty value. -/
def pair (bs : Octets) : String × String :=
  (component (bs.takeWhile (· ≠ 0x3d)), component ((bs.dropWhile (· ≠ 0x3d)).drop 1))

/-- The pairs of a query. -/
def pairs (query : Octets) : List (String × String) :=
  ((Text.splitAt (· == 0x26) query).filter (!·.isEmpty)).map pair

/-- What a parameter is. -/
inductive Kind where
  | text
  | switch
  deriving DecidableEq

/-- A switch by its text. -/
def switch? (value : String) : Option Bool :=
  if value = "true" then some true
  else if value = "false" then some false
  else none

/-- The pairs with the names of parameters, which must be what the parameters are. `seen` holds the
names that have been given. -/
def check (parameters : List (String × Kind)) (seen : List String) :
    List (String × String) → Except QueryFlaw (List (String × String))
  | [] => .ok []
  | (name, value) :: rest =>
    match parameters.lookup name with
    | none => check parameters seen rest
    | some kind =>
      if seen.contains name then .error (.repeated name)
      else if kind = .switch ∧ switch? value = none then .error (.notSwitch name)
      else (check parameters (name :: seen) rest).map fun more => (name, value) :: more

/-- The parameters that a query gives. -/
def parameters (kinds : List (String × Kind)) (query : Octets) :
    Except QueryFlaw (List (String × String)) :=
  check kinds [] (pairs query)

/-- Whether a switch is on. One that is not given is off. -/
def isOn (given : List (String × String)) (name : String) : Bool :=
  given.lookup name == some "true"

end Query

end SchemaRegistry
