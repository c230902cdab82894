import SchemaRegistry.Http.Forward
import SchemaRegistry.Http.Router
/-!
# Interfaces below a path

The interface of a node may be mounted below a path, and then the address that followers are given
for the leader ends in that path. A request is for the interface if its target begins with the path,
and the interface sees what follows.
-/

set_option autoImplicit false

namespace SchemaRegistry

/-- The path that steps are added to: without an empty segment at its end, and nothing if that
leaves a slash alone. -/
def Url.mount (u : Url) : List Char :=
  let segments := dropEmptyEnd u.segments
  if segments = [[]] then [] else segments.flatMap fun segment => '/' :: segment

/-- The request as an interface below a path sees it, if it is for that. -/
def Request.below? (r : Request) (mount : List Char) : Option Request :=
  (Subject.dropPrefix? mount r.target.toList).map fun target =>
    { r with target := String.ofList target }

namespace Cluster

/-- What becomes of a request that is sent to a node whose interface is below a path. -/
def receive (c : Cluster) (i : Nat) (mount : List Char) (o : Outbound) : Reply × Cluster :=
  match o.received.below? mount with
  | none => (.answered 404 [], c)
  | some r =>
    let (answer, c) := c.serve i r
    (.answered answer.status (Text.octets answer.body), c)

end Cluster

end SchemaRegistry
