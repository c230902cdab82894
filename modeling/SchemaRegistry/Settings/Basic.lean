import SchemaRegistry.Log.Leadership
import SchemaRegistry.Subject.Name
/-!
# Settings

`NodeSettings` is what a node of the registry needs to know, and `Settings` is what its operator
writes down: the node's own settings, where it listens, where its log is, and who leads. Every
setting has a default. `Settings.leadership` decides whether the node leads: it does if it is told
so, or if the leader's address is its own up to slashes at the end.
-/

set_option autoImplicit false

namespace SchemaRegistry

/-- Whether a node accepts writes. -/
inductive Mode where
  | readWrite
  | readOnly
  deriving DecidableEq, Inhabited

/-- What a node needs to know. -/
structure NodeSettings where
  /-- The tenant under which every subject is resolved. -/
  tenant : String := Subject.defaultTenant
  mode : Mode := .readWrite
  /-- How many milliseconds a forwarded write may take. -/
  forwardTimeout : Nat := 30000
  /-- The names of the headers that a forwarded write carries along. -/
  whitelist : List String := []
  deriving DecidableEq, Inhabited

/-- What an operator writes down. -/
structure Settings where
  host : String := "127.0.0.1"
  port : UInt16 := 8081
  tenant : String := Subject.defaultTenant
  storePath : String := "subreg.db"
  /-- The node's own address, as others would reach it. -/
  nodeUrl : Option String := none
  leaderUrl : Option String := none
  leader : Bool := true
  mode : Mode := .readWrite
  /-- In milliseconds, like the interval. -/
  forwardTimeout : UInt64 := 30000
  syncInterval : UInt64 := 500
  whitelist : List String := []
  deriving DecidableEq, Inhabited

namespace Settings

/-- Without the slashes at the end. -/
def dropSlashes (url : String) : List Char :=
  (url.toList.reverse.dropWhile (· = '/')).reverse

/-- Whether the leader's address is the node's own. -/
def namesItself (s : Settings) : Bool :=
  match s.nodeUrl, s.leaderUrl with
  | some node, some leader => dropSlashes node == dropSlashes leader
  | _, _ => false

def leadership (s : Settings) : Leadership :=
  if s.leader || s.namesItself then .leader else .follower s.leaderUrl

/-- Host and port, as a listener is told them. -/
def address (s : Settings) : String :=
  s!"{s.host}:{s.port}"

/-- The interval between two synchronizations, which is never zero. -/
def effectiveSyncInterval (s : Settings) : Nat :=
  max s.syncInterval.toNat 1

def node (s : Settings) : NodeSettings :=
  { tenant := s.tenant, mode := s.mode, forwardTimeout := s.forwardTimeout.toNat
    whitelist := s.whitelist }

end Settings

end SchemaRegistry
