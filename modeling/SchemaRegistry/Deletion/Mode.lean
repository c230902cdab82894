import SchemaRegistry.Json.Shape
/-!
# The two kinds of deletion

A soft deletion marks the versions of a subject, a permanent one removes them, and the second is
allowed only after the first.
-/

set_option autoImplicit false

namespace SchemaRegistry

inductive DeletionMode where
  | soft
  | permanent
  deriving DecidableEq

/-- Where a subject stands between its registrations and its deletions. -/
inductive SubjectState where
  /-- No versions of any kind. -/
  | absent
  /-- At least one live version. -/
  | live
  /-- Only versions that are soft-deleted. -/
  | softDeleted
  deriving DecidableEq

namespace DeletionMode

def ofPermanent (isPermanent : Bool) : DeletionMode :=
  if isPermanent then .permanent else .soft

def isPermanent : DeletionMode → Bool
  | .soft => false
  | .permanent => true

def name : DeletionMode → String
  | .soft => "soft"
  | .permanent => "permanent"

/-- A mode in a document. -/
def shape : Json.Shape := .choice [name .soft, name .permanent]

def ofWire : shape.Val → DeletionMode
  | ⟨0, _⟩ => .soft
  | _ => .permanent

def toWire : DeletionMode → shape.Val
  | .soft => (0 : Fin 2)
  | .permanent => (1 : Fin 2)

end DeletionMode

namespace SubjectState

def name : SubjectState → String
  | .absent => "absent"
  | .live => "live"
  | .softDeleted => "soft_deleted"

/-- A state in a document. -/
def shape : Json.Shape := .choice [name .absent, name .live, name .softDeleted]

def ofWire : shape.Val → SubjectState
  | ⟨0, _⟩ => .absent
  | ⟨1, _⟩ => .live
  | _ => .softDeleted

def toWire : SubjectState → shape.Val
  | .absent => (0 : Fin 3)
  | .live => (1 : Fin 3)
  | .softDeleted => (2 : Fin 3)

end SubjectState

end SchemaRegistry
