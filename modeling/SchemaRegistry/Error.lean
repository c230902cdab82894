import SchemaRegistry.Deletion.Mode
/-!
# Errors

The kinds of failure that the registry reports, each with a stable number. A kind that is about a
subject carries the subject's name and its message is made from that; the others carry their
message. `Error.ofCode` goes back from the number that another node has reported, and takes the
subject from the call that was made, so the message of the other node counts only where the kind has
no message of its own.
-/

set_option autoImplicit false

namespace SchemaRegistry

inductive Error where
  | subjectNotFound (subject : String)
  | schemaNotFound
  /-- A deletion that the state of the subject forbids; the mode is the one asked for. -/
  | subjectNotSoftDeleted (subject : String) (mode : DeletionMode)
  | invalidSchema (message : String)
  | invalidSubject (message : String)
  | referenceExists (message : String)
  | operationNotPermitted (message : String)
  | operationTimeout (message : String)
  | forwardingFailed (message : String)
  | store (message : String)
  | internal (message : String)
  deriving DecidableEq, Inhabited

namespace Error

/-- What a caller is told. -/
def message : Error → String
  | subjectNotFound subject => s!"Subject '{subject}' not found."
  | schemaNotFound => "Schema not found"
  | subjectNotSoftDeleted subject .soft =>
    s!"Subject '{subject}' was soft deleted. Set permanent=true to delete permanently"
  | subjectNotSoftDeleted subject .permanent =>
    s!"Subject '{subject}' was not deleted first before being permanently deleted"
  | invalidSchema message => message
  | invalidSubject message => message
  | referenceExists message => message
  | operationNotPermitted message => message
  | operationTimeout message => message
  | forwardingFailed message => message
  | store message => message
  | internal message => message

/-- The number of a kind. -/
def code : Error → UInt32
  | subjectNotFound _ => 40401
  | schemaNotFound => 40403
  | subjectNotSoftDeleted _ .soft => 40404
  | subjectNotSoftDeleted _ .permanent => 40405
  | invalidSchema _ => 42201
  | invalidSubject _ => 42208
  | referenceExists _ => 42206
  | operationNotPermitted _ => 42205
  | operationTimeout _ => 50002
  | forwardingFailed _ => 50003
  | store _ => 50001
  | internal _ => 50000

/-- The error that another node has reported by number and message, about the subject of that name.
A number that no kind has is an internal error. -/
def ofCode (code : UInt32) (message subject : String) : Error :=
  if code = 40401 then subjectNotFound subject
  else if code = 40403 then schemaNotFound
  else if code = 40404 then subjectNotSoftDeleted subject .soft
  else if code = 40405 then subjectNotSoftDeleted subject .permanent
  else if code = 42201 then invalidSchema message
  else if code = 42208 then invalidSubject message
  else if code = 42206 then referenceExists message
  else if code = 42205 then operationNotPermitted message
  else if code = 50002 then operationTimeout message
  else if code = 50003 then forwardingFailed message
  else if code = 50001 then store message
  else internal message

end Error

end SchemaRegistry
