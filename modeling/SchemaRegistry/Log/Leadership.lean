import SchemaRegistry.Error
/-!
# Leadership

At any time one node may append to the log, the leader. A node knows whether it is the leader, and a
follower may know where the leader is. A write asks for its `Route`: it runs where the node is the
leader, goes to the leader where that is known, and fails otherwise.
-/

set_option autoImplicit false

namespace SchemaRegistry

/-- What a node believes about who leads. -/
inductive Leadership where
  | leader
  | follower (leaderUrl : Option String)
  deriving DecidableEq, Inhabited

/-- Where a write has to run. -/
inductive Route where
  | here
  | forward (leaderUrl : String)
  deriving DecidableEq

namespace Leadership

def isLeader : Leadership → Bool
  | leader => true
  | follower _ => false

def route : Leadership → Except Error Route
  | leader => .ok .here
  | follower (some url) => .ok (.forward url)
  | follower none =>
    .error (.forwardingFailed "Unknown leader; cannot forward the request")

/-- Leadership in a document. -/
def shape : Json.Shape :=
  .tagged "Leadership" "role" <|
    .cons "leader" "unit variant Leadership::Leader" .nil <|
    .cons "follower" "struct variant Leadership::Follower"
      (.cons "leader_url" .nullable (.optional .text) .nil) .nil

def ofWire : shape.Val → Leadership
  | .inl () => leader
  | .inr (.inl (url, ())) => follower url

def toWire : Leadership → shape.Val
  | leader => .inl ()
  | follower url => .inr (.inl (url, ()))

end Leadership

end SchemaRegistry
