import SchemaRegistry.Http.Endpoint
import SchemaRegistry.Cluster.Call
/-!
# The interface of a node

A request is checked from left to right before anything is done: the path must name a place, the
method must do something there, the subject's segment must be text, and the parameters must be what
the action knows. Then the subject's name is resolved, and last the body is read. What is wrong with
the request itself is answered in plain words, and what is wrong with a subject or a schema with the
number and message of an error.
-/

set_option autoImplicit false

namespace SchemaRegistry

namespace Request

/-- The octets of the longest body that is read. -/
def maxBodyLength : Nat := 2097152

/-- The schema that a request submits. -/
def schemaBody (r : Request) : Except Error SchemaBody :=
  match (r.textHeader? "content-type").map MediaType.isJson with
  | some true =>
    if maxBodyLength < r.body.length then
      .error (.invalidSchema "Failed to buffer the request body: length limit exceeded")
    else
      match SchemaBody.shape.ofDocument r.body with
      | .ok v => .ok (.ofWire v)
      | .error stop =>
        let trouble := if stop.cause.isMismatch
          then "Failed to deserialize the JSON body into the target type"
          else "Failed to parse the request body as JSON"
        .error (.invalidSchema s!"{trouble}: {stop.messageWithPath r.body}")
  | _ => .error (.invalidSchema "Expected request with `Content-Type: application/json`")

/-- The candidate that a request submits. -/
def candidate (r : Request) : Except Error Candidate :=
  match r.schemaBody with
  | .error e => .error e
  | .ok body => body.candidate

end Request

/-! ## What is asked for -/

/-- A request that has been understood: what to do, and the name of the subject as it was sent. -/
structure Order where
  action : Action
  subject : String
  parameters : List (String × String)

namespace Order

def isOn (o : Order) (name : String) : Bool := Query.isOn o.parameters name

/-- The text of a segment. -/
def segmentText? (segment : List Char) : Option String :=
  Text.ofOctets? (Percent.decode (Text.octets (String.ofList segment)))

/-- An answer in plain words to a request that is not understood. -/
def refusal (text : String) : Answer :=
  { status := 400, body := text }

/-- What a request orders, or the answer to one that orders nothing. -/
def ofRequest (r : Request) : Except Answer Order :=
  let target := Target.ofText r.target
  match Endpoint.ofPath? target.path with
  | none => .error { status := 404 }
  | some endpoint =>
    match endpoint.action? r.method with
    | none => .error { status := 405, allow := some endpoint.allowed }
    | some action =>
      -- The path is settled before anything in it is decoded.
      match segmentText? (endpoint.segment?.getD []) with
      | none => .error (refusal "Invalid URL: Invalid UTF-8 in `subject`")
      | some subject =>
        let query := Text.octets (String.ofList (target.query.getD []))
        match Query.parameters action.parameters query with
        | .error flaw => .error (refusal flaw.message)
        | .ok parameters => .ok { action, subject, parameters }

end Order

/-! ## What is answered -/

namespace Node

/-- The answer to a listing. -/
def answerList (n : Node) (o : Order) : Answer :=
  let pattern := (o.parameters.lookup "subjectPrefix").getD Subject.Pattern.everyContext
  .ofOutcome (fun subjects => .array (subjects.map fun s => .text s.rendered))
    (n.list pattern (o.isOn "deleted"))

/-- The answer to a lookup. -/
def answerLookup (n : Node) (o : Order) (r : Request) : Answer :=
  .ofOutcome (fun v => SchemaAnswer.shape.tree (SchemaAnswer.ofVersion v).toWire) <|
    match n.resolve o.subject with
    | .error e => .error e
    | .ok subject =>
      match r.candidate with
      | .error e => .error e
      | .ok candidate => n.lookup subject candidate (o.isOn "normalize") (o.isOn "deleted")

end Node

namespace Cluster

/-- The answer to a deletion. -/
def answerDelete (c : Cluster) (i : Nat) (n : Node) (o : Order) (r : Request) : Answer × Cluster :=
  match n.resolve o.subject with
  | .error e => (.ofError e, c)
  | .ok subject =>
    let headers := r.carried n.settings.whitelist
    let (outcome, c) := c.delete i headers subject (o.isOn "permanent")
    (.ofOutcome (Json.Shape.list (.word .u32)).tree outcome, c)

/-- The answer to a registration. -/
def answerRegister (c : Cluster) (i : Nat) (n : Node) (o : Order) (r : Request) :
    Answer × Cluster :=
  match n.resolve o.subject with
  | .error e => (.ofError e, c)
  | .ok subject =>
    match r.candidate with
    | .error e => (.ofError e, c)
    | .ok candidate =>
      let headers := r.carried n.settings.whitelist
      let (outcome, c) := c.register i headers subject candidate (o.isOn "normalize")
      (.ofOutcome (fun registered => Registered.shape.tree registered.toWire) outcome, c)

/-- The answer of a node to an order. -/
def answer (c : Cluster) (i : Nat) (n : Node) (o : Order) (r : Request) : Answer × Cluster :=
  match o.action with
  | .list => (n.answerList o, c)
  | .lookup => (n.answerLookup o r, c)
  | .delete => c.answerDelete i n o r
  | .register => c.answerRegister i n o r

/-- What a client sees of an answer: nothing but its head, if it asked for that. -/
def shown (r : Request) (a : Answer) : Answer :=
  if r.method = "HEAD" then { a with body := "" } else a

/-- The answer of a node to a request. -/
def serve (c : Cluster) (i : Nat) (r : Request) : Answer × Cluster :=
  match c.node? i with
  | none => ({ status := 404 }, c)
  | some n =>
    match Order.ofRequest r with
    | .error a => (shown r a, c)
    | .ok o =>
      let (a, c) := c.answer i n o r
      (shown r a, c)

end Cluster

end SchemaRegistry
