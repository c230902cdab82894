import SchemaRegistry.Http.Body
import SchemaRegistry.Http.Header
import SchemaRegistry.Http.Status
import SchemaRegistry.Http.Url
import SchemaRegistry.Json.Shape.Read
/-!
# Requests and answers

A request as a node receives it, the answer that it gives, a request as a node sends it, and what
may become of that. Values of headers are octets, because a client may send what is no text.
-/

set_option autoImplicit false

namespace SchemaRegistry

/-- A request that is received. -/
structure Request where
  method : String
  /-- What is asked for: path and query, or a whole address. -/
  target : String
  headers : List (String × Octets) := []
  body : Octets := []

/-- An answer to a request. -/
structure Answer where
  status : Nat
  /-- The methods that would have been allowed, where the method was not. -/
  allow : Option String := none
  body : String := ""
  deriving DecidableEq

/-- A request that is sent. -/
structure Outbound where
  method : String
  url : Url
  headers : List (String × String) := []
  body : String := ""
  deriving DecidableEq

/-- What becomes of a request that is sent. -/
inductive Reply where
  | answered (status : Nat) (body : Octets)
  | unreachable
  | timedOut

/-- A request as the other side receives it. -/
def Outbound.received (o : Outbound) : Request :=
  { method := o.method, target := o.url.target
    headers := o.headers.map fun (name, value) => (name, Text.octets value)
    body := Text.octets o.body }

namespace Request

/-- The headers whose values are text of visible characters, spaces and tabs. -/
def textHeaders (r : Request) : List (String × String) :=
  r.headers.filterMap fun (name, value) =>
    if value.all fun b => (0x20 ≤ b && b < 0x7f) || b == 0x09 then
      (Text.ofOctets? value).map fun text => (name, text)
    else none

/-- The first header of a name, if it is text. -/
def textHeader? (r : Request) (name : String) : Option String :=
  match r.headers.find? fun (n, _) => Format.sameName n name with
  | none => none
  | some header => (textHeaders { r with headers := [header] }).head?.map (·.2)

/-- The headers that a forwarded call carries along. -/
def carried (r : Request) (whitelist : List String) : Headers :=
  Headers.filter whitelist r.textHeaders

end Request

namespace Answer

/-- An answer with a document. -/
def ofJson (status : Nat) (v : Json) : Answer :=
  { status, body := v.compact }

/-- The answer that reports an error. -/
def ofError (e : Error) : Answer :=
  ofJson e.status (ErrorBody.shape.tree (ErrorBody.ofError e).toWire)

/-- The answer of an outcome. -/
def ofOutcome {α : Type} (json : α → Json) : Except Error α → Answer
  | .ok v => ofJson 200 (json v)
  | .error e => ofError e

end Answer

end SchemaRegistry
