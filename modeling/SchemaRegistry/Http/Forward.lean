import SchemaRegistry.Http.MediaType
import SchemaRegistry.Http.Message
import SchemaRegistry.Node.Basic
/-!
# Forwarding by request

A follower hands a call to the leader as a request to the leader's own interface, and takes the
answer for its own. `Call.outbound` is the request and `Call.outcome` what its answer means. A
deletion or registration that the leader refuses comes back as the same error, by its number; what
is no answer of a leader is a failed forwarding. Forwarding is never tried twice.
-/

set_option autoImplicit false

namespace SchemaRegistry

/-! ## The request -/

/-- The text of a switch. -/
def switchText (b : Bool) : String :=
  if b then "true" else "false"

/-- The steps from the leader's address to what a call is about. -/
def Call.steps {α : Type} (call : Call α) (subject : Subject) : List String :=
  match call with
  | .delete _ => ["subjects", subject.rendered]
  | .register .. => ["subjects", subject.rendered, "versions"]

/-- The request that carries a call about a subject to the leader at an address. -/
def Call.outbound {α : Type} (call : Call α) (base : Url) (subject : Subject) (headers : Headers) :
    Outbound :=
  let url := base.extend (call.steps subject)
  match call with
  | .delete permanent =>
    { method := "DELETE"
      url := url.addQuery "permanent" (switchText permanent)
      headers }
  | .register candidate normalize =>
    { method := "POST"
      url := url.addQuery "normalize" (switchText normalize)
      headers := ("content-type", "application/json") :: headers
      body := SchemaBody.shape.write (SchemaBody.ofCandidate candidate).toWire }

/-- Whether a header can be sent: its name is a token and its value has no control characters but
tabs. -/
def isSendable (header : String × String) : Bool :=
  !header.1.isEmpty && header.1.toList.all isTokenCharacter &&
    header.2.toList.all fun c => (0x20 ≤ c.toNat && c.toNat ≠ 0x7f) || c == '\t'

/-- The address of the leader. -/
def leaderBase (leaderUrl : String) : Except Error Url :=
  match Url.parse leaderUrl with
  | .ok url => .ok url
  | .error .notABase => .error (.forwardingFailed s!"Leader URL '{leaderUrl}' cannot be a base")
  | .error flaw => .error (.forwardingFailed s!"Invalid leader URL '{leaderUrl}': {flaw.message}")

/-! ## The answer -/

/-- The answer of a leader that has done what it was asked. -/
def Call.decode {α : Type} (call : Call α) (body : Octets) : Option α :=
  match call with
  | .delete _ => ((Json.Shape.list (.word .u32)).ofDocument body).toOption
  | .register .. => (Registered.shape.ofDocument body).toOption.map Registered.ofWire

/-- What a call comes to when it is answered. -/
def Call.answered {α : Type} (call : Call α) (subject : Subject) (status : Nat) (body : Octets) :
    Except Error α :=
  if Status.isSuccess status then
    match call.decode body with
    | some answer => .ok answer
    | none => .error (.forwardingFailed
        s!"Malformed leader response to {call.name}: error decoding response body")
  else
    match (ErrorBody.shape.ofDocument body).toOption.map ErrorBody.ofWire with
    -- The number alone decides which error it is; the subject is the one that was asked about.
    | some reported => .error (.ofCode reported.code reported.message subject.rendered)
    | none => .error (.forwardingFailed
        s!"Leader answered {call.name} with {Status.text status}")

/-- What a call comes to that cannot be sent. -/
def Call.unsent {α β : Type} (call : Call α) (why : String) : Except Error β :=
  .error (.forwardingFailed s!"Error while forwarding {call.name} to the leader: {why}")

/-- What a call comes to. -/
def Call.outcome {α : Type} (call : Call α) (subject : Subject) (url : Url) (reply : Reply) :
    Except Error α :=
  match reply with
  | .answered status body => call.answered subject status body
  | .unreachable => call.unsent s!"error sending request for url ({url.text})"
  | .timedOut => .error (.operationTimeout
      s!"{call.name} operation timed out while waiting for the leader")

/-- The call sent to the leader. `network` says what becomes of requests. A base without a host is
refused before a request is made of it. -/
def Call.send {α : Type} (call : Call α) (network : Outbound → Reply) (leaderUrl : String)
    (subject : Subject) (headers : Headers) : Except Error α :=
  match leaderBase leaderUrl with
  | .error e => .error e
  | .ok base =>
    let refused (url : Url) := call.unsent s!"builder error for url ({url.text})"
    let o := call.outbound base subject headers
    if ¬ base.hasHost then refused (base.extend (call.steps subject))
    else if ¬ headers.all isSendable then call.unsent "builder error"
    else if ¬ o.url.isReachable then refused o.url
    else call.outcome subject o.url (network o)

end SchemaRegistry
