import SchemaRegistry.Proofs.Http.Header
import SchemaRegistry.Proofs.Http.Relay
/-!
# What is not on the whitelist stays at the node

Two clients ask a follower for the same write and send different headers. If the headers that the
whitelist lets through are the same, nobody can tell from the follower's request to the leader which
of the two it was. What lies between the headers and that request is `Request.carried`, and it looks
at the listed headers alone (`Request.carried_eq`).

There is one header besides that a node reads for itself: a registration must say that its body is a
document, and is refused at once if it does not. So the other headers do not decide what is sent,
but this one decides whether anything is. `Cluster.withholds_unlisted` says both.

That a node sends a request is said by what it does: its answer is another one if something else
becomes of that request, and of that request only (`Cluster.Sends`).
-/

set_option autoImplicit false

namespace SchemaRegistry

/-! ## Requests that are read -/

namespace Request

/-- Whether the body of a request is said to be a document. -/
def isDocument (r : Request) : Bool :=
  (r.textHeader? "content-type").any MediaType.isJson

/-- Whether a request is read to its end. A deletion has no body that is read. -/
def isRead (r : Request) : Bool :=
  r.method == "DELETE" || r.isDocument

/-- A body that is not said to be a document is not read. -/
theorem candidate_of_not_isDocument {r : Request} (h : r.isDocument = false) :
    ∃ e, r.candidate = .error e := by
  rw [isDocument] at h
  rw [candidate, schemaBody]
  cases htype : r.textHeader? "content-type" with
  | none => exact ⟨_, rfl⟩
  | some type =>
    rw [htype, Option.any_some] at h
    simp only [Option.map_some, h]
    exact ⟨_, rfl⟩

/-- Of the headers of a request, nothing else is looked at for the candidate. -/
theorem candidate_congr {r : Request} {first second : List (String × Octets)}
    (h : { r with headers := first }.isDocument = { r with headers := second }.isDocument) :
    { r with headers := first }.candidate = { r with headers := second }.candidate := by
  rw [isDocument, isDocument] at h
  rw [candidate, candidate, schemaBody, schemaBody]
  cases hfirst : { r with headers := first }.textHeader? "content-type" with
  | none =>
    cases hsecond : { r with headers := second }.textHeader? "content-type" with
    | none => rfl
    | some type =>
      rw [hfirst, hsecond, Option.any_none, Option.any_some] at h
      simp only [Option.map_none, Option.map_some, ← h]
  | some type =>
    cases hsecond : { r with headers := second }.textHeader? "content-type" with
    | none =>
      rw [hfirst, hsecond, Option.any_none, Option.any_some] at h
      simp only [Option.map_none, Option.map_some, h]
    | some type' =>
      rw [hfirst, hsecond, Option.any_some, Option.any_some] at h
      simp only [Option.map_some, h]

end Request

/-- A deletion is asked for by its own method, at every place. -/
theorem Endpoint.action?_delete_iff {endpoint : Endpoint} {method : String} {action : Action}
    (h : endpoint.action? method = some action) : action = .delete ↔ method = "DELETE" := by
  rcases endpoint with _ | segment | segment
  case subjects =>
    rw [action?] at h
    split at h
    · rename_i reads
      cases h
      rcases reads with rfl | rfl <;> decide
    · cases h
  case subject =>
    rw [action?] at h
    split at h
    · rename_i posts
      cases h
      rw [posts]
      decide
    · split at h
      · rename_i deletes
        cases h
        exact iff_of_true rfl deletes
      · cases h
  case versions =>
    rw [action?] at h
    split at h
    · rename_i posts
      cases h
      rw [posts]
      decide
    · cases h

/-- What is ordered does not depend on headers. -/
theorem Order.ofRequest_withHeaders (r : Request) (headers : List (String × Octets)) :
    ofRequest { r with headers } = ofRequest r := by
  rw [ofRequest, ofRequest]

theorem Order.action_eq_delete_iff {r : Request} {o : Order} (h : ofRequest r = .ok o) :
    o.action = .delete ↔ r.method = "DELETE" := by
  obtain ⟨endpoint, acts⟩ := exists_endpoint h
  exact Endpoint.action?_delete_iff acts

theorem Request.isRead_eq_isDocument {r : Request} {o : Order} (h : Order.ofRequest r = .ok o)
    (other : o.action ≠ .delete) : r.isRead = r.isDocument := by
  have method : r.method ≠ "DELETE" := fun same => other ((Order.action_eq_delete_iff h).mpr same)
  rw [isRead, beq_false_of_ne method, Bool.false_or]

namespace Cluster

variable {c : Cluster} {i : Nat} {n : Node} {r : Request}

/-- What a node does with a request is decided by what the request carries along, by whether it is
read, and by nothing else of its headers. -/
theorem serve_congr (hn : c.node? i = some n) {first second : List (String × Octets)}
    (carried : { r with headers := first }.carried n.settings.whitelist =
      { r with headers := second }.carried n.settings.whitelist)
    (read : { r with headers := first }.isRead = { r with headers := second }.isRead) :
    c.serve i { r with headers := first } = c.serve i { r with headers := second } := by
  rw [serve, serve, hn, Order.ofRequest_withHeaders r first, Order.ofRequest_withHeaders r second]
  cases ho : Order.ofRequest r with
  | error a => rfl
  | ok o =>
    have orders : ∀ headers, Order.ofRequest { r with headers } = .ok o := by
      intro headers
      rw [Order.ofRequest_withHeaders, ho]
    -- Apart from the carried headers, an answer reads the headers only to know whether the body is
    -- a document.
    have candidate : o.action ≠ .delete → { r with headers := first }.candidate =
        { r with headers := second }.candidate := by
      intro other
      rw [Request.isRead_eq_isDocument (orders first) other,
        Request.isRead_eq_isDocument (orders second) other] at read
      exact Request.candidate_congr read
    have answers : c.answer i n o { r with headers := first } =
        c.answer i n o { r with headers := second } := by
      rw [answer, answer]
      cases does : o.action with
      | list => rfl
      | lookup =>
        have same := candidate (by rw [does]; decide)
        simp only [Node.answerLookup, same]
      | delete => simp only [answerDelete, carried]
      | register =>
        have same := candidate (by rw [does]; decide)
        simp only [answerRegister, same, carried]
    simp only [answers]
    rfl

/-! ## Requests that are sent -/

/-- Whether a node that serves a request sends another: what it answers hangs on what becomes of it.
-/
def Sends (c : Cluster) (i : Nat) (r : Request) (o : Outbound) : Prop :=
  ∃ first second : Outbound → Reply, (∀ p, p ≠ o → first p = second p) ∧
    ({ c with network := first }.serve i r).1 ≠ ({ c with network := second }.serve i r).1

/-- A registration that is not read is refused before anything is sent. -/
theorem not_sends_of_not_isDocument (hn : c.node? i = some n) {o : Order}
    (orders : Order.ofRequest r = .ok o) (registers : o.action = .register)
    (unread : r.isDocument = false) (p : Outbound) : ¬ c.Sends i r p := by
  rintro ⟨first, second, -, differ⟩
  obtain ⟨e, refused⟩ := Request.candidate_of_not_isDocument unread
  -- What it is refused for is its subject or its body, and the answer is the same on every network.
  obtain ⟨a, fixed⟩ : ∃ a, ∀ network : Outbound → Reply, ({ c with network }.serve i r).1 = a := by
    cases resolved : n.resolve o.subject with
    | error flaw =>
      refine ⟨shown r (.ofError flaw), fun network => ?_⟩
      have present : { c with network }.node? i = some n := hn
      rw [serve, present]
      simp only [orders, answer, registers, answerRegister, resolved]
    | ok subject =>
      refine ⟨shown r (.ofError e), fun network => ?_⟩
      have present : { c with network }.node? i = some n := hn
      rw [serve, present]
      simp only [orders, answer, registers, answerRegister, resolved, refused]
  exact differ ((fixed first).trans (fixed second).symm)

end Cluster

namespace Follower

variable {α : Type} {call : Call α} {subject : Subject}

/-- What a follower answers, whatever becomes of its request. -/
theorem serve_eq (f : Follower call subject) (network : Outbound → Reply) :
    ({ f.cluster with network }.serve f.index f.request).1 =
      .ofOutcome call.answerTree (call.outcome subject f.sent.url (network f.sent)) := by
  have present : { f.cluster with network }.node? f.index = some f.node := f.present
  have sends := Call.send_eq_outcome network f.parsed f.host f.sendable f.reachable
  rw [Call.serve_of_orderedBy present f.ordered.shows f.ordered,
    Cluster.submit_of_http present f.accepts f.follows f.forwards]
  exact congrArg (Answer.ofOutcome call.answerTree) sends

/-- A follower sends one request. -/
theorem sends_iff (f : Follower call subject) (o : Outbound) :
    f.cluster.Sends f.index f.request o ↔ o = f.sent := by
  constructor
  · rintro ⟨first, second, same, differ⟩
    by_contra other
    rw [f.serve_eq, f.serve_eq, same f.sent (Ne.symm other)] at differ
    exact differ rfl
  · rintro rfl
    -- Its answer is a success if the leader has done what it was asked, and an error if it is
    -- not reached.
    obtain ⟨answer⟩ : Nonempty α := by
      rcases call with permanent | ⟨candidate, normalize⟩
      · exact ⟨[]⟩
      · exact ⟨default⟩
    let done := Answer.ofOutcome call.answerTree (.ok answer)
    refine ⟨fun _ => .answered done.status (Text.octets done.body),
      fun p => if p = f.sent then .unreachable else .answered done.status (Text.octets done.body),
      fun p hp => (if_neg hp).symm, fun same => ?_⟩
    rw [f.serve_eq, f.serve_eq, if_pos rfl] at same
    have success : call.outcome subject f.sent.url (.answered done.status (Text.octets done.body)) =
        .ok answer := Call.answered_ofOutcome call subject (.ok answer)
    obtain ⟨e, failure⟩ : ∃ e, call.outcome subject f.sent.url .unreachable = .error e := ⟨_, rfl⟩
    rw [success, failure] at same
    have statuses : Status.isSuccess 200 = Status.isSuccess e.status :=
      congrArg (fun a : Answer => Status.isSuccess a.status) same
    rw [e.not_isSuccess] at statuses
    cases statuses

end Follower

/-! ## Two lists of headers -/

namespace Call.OrderedBy

variable {α : Type} {call : Call α} {tenant : String} {subject : Subject} {r : Request}

theorem isRead (h : call.OrderedBy tenant subject r) : r.isRead = true := by
  obtain ⟨o, ho, does, -, -, submitted⟩ := h
  rcases call with permanent | ⟨candidate, normalize⟩
  · have method := (Order.action_eq_delete_iff ho).mp does
    rw [Request.isRead, method, beq_self_eq_true, Bool.true_or]
  · by_contra unread
    rw [Request.isRead, Bool.or_eq_true, not_or, Bool.not_eq_true, Bool.not_eq_true] at unread
    obtain ⟨e, refused⟩ := Request.candidate_of_not_isDocument unread.2
    rw [submitted candidate rfl] at refused
    cases refused

/-- A request that is read orders the same with other headers. -/
theorem withHeaders (h : call.OrderedBy tenant subject r) {headers : List (String × Octets)}
    (read : { r with headers }.isRead = true) :
    call.OrderedBy tenant subject { r with headers } := by
  have before := h.isRead
  obtain ⟨o, ho, does, resolved, isOn, submitted⟩ := h
  have again : Order.ofRequest { r with headers } = .ok o := by
    rw [Order.ofRequest_withHeaders, ho]
  refine ⟨o, again, does, resolved, isOn, ?_⟩
  intro candidate hcandidate
  rcases call with permanent | ⟨sent, normalize⟩
  · cases hcandidate
  · have other : o.action ≠ .delete := by
      rw [does]
      exact nofun
    rw [Request.isRead_eq_isDocument ho other] at before
    rw [Request.isRead_eq_isDocument again other] at read
    have same : { r with headers := r.headers }.candidate = { r with headers }.candidate :=
      Request.candidate_congr (before.trans read.symm)
    rw [← same]
    exact submitted candidate hcandidate

/-- What is not read with other headers is a registration. -/
theorem registers_of_not_isRead (h : call.OrderedBy tenant subject r)
    {headers : List (String × Octets)} (unread : { r with headers }.isRead = false) :
    ∃ o, Order.ofRequest { r with headers } = .ok o ∧ o.action = .register := by
  obtain ⟨o, ho, does, -⟩ := h
  refine ⟨o, by rw [Order.ofRequest_withHeaders, ho], ?_⟩
  rcases call with permanent | ⟨candidate, normalize⟩
  · have method : ({ r with headers } : Request).method = "DELETE" :=
      (Order.action_eq_delete_iff ho).mp does
    rw [Request.isRead, method, beq_self_eq_true, Bool.true_or] at unread
    cases unread
  · exact does

end Call.OrderedBy

namespace Follower

variable {α : Type} {call : Call α} {subject : Subject}

/-- The follower when it is asked the same with other headers, of which it carries the same along.
-/
def askedWith (f : Follower call subject) (headers : List (String × Octets))
    (carried : { f.request with headers }.carried f.node.settings.whitelist = f.headers)
    (read : { f.request with headers }.isRead = true) : Follower call subject :=
  { f with
    request := { f.request with headers }
    ordered := f.ordered.withHeaders read
    sendable := by
      rw [carried]
      exact f.sendable
    reachable := by
      rw [carried]
      exact f.reachable }

theorem sent_askedWith (f : Follower call subject) (headers : List (String × Octets))
    (carried : { f.request with headers }.carried f.node.settings.whitelist = f.headers)
    (read : { f.request with headers }.isRead = true) :
    (f.askedWith headers carried read).sent = f.sent :=
  congrArg (call.outbound f.base subject) carried

/-- With other headers, of which it carries the same along, a follower sends the same request if it
reads what it is asked, and otherwise none. -/
theorem sends_withHeaders_iff (f : Follower call subject) {headers : List (String × Octets)}
    (carried : { f.request with headers }.carried f.node.settings.whitelist = f.headers)
    (o : Outbound) :
    f.cluster.Sends f.index { f.request with headers } o ↔
      { f.request with headers }.isRead = true ∧ o = f.sent := by
  cases read : { f.request with headers }.isRead with
  | true =>
    rw [← f.sent_askedWith headers carried read]
    exact ((f.askedWith headers carried read).sends_iff o).trans (and_iff_right rfl).symm
  | false =>
    obtain ⟨order, ho, registers⟩ := f.ordered.registers_of_not_isRead read
    have other : order.action ≠ .delete := by
      rw [registers]
      exact nofun
    rw [Request.isRead_eq_isDocument ho other] at read
    refine iff_of_false (Cluster.not_sends_of_not_isDocument f.present ho registers read o) ?_
    exact fun both => Bool.noConfusion both.1

end Follower

/-- **What is not on the whitelist stays at the node.** Whatever headers two clients send with a
request, if the whitelist lets the same through, the same is carried along: one header of each name
that is let through, by its name in lower case, with the value of the last, and no other. A node
that reads both requests, or neither, does the same with both. And where a follower sends the leader
a request for the one, it sends the same for the other, unless the other does not say that it has a
document and is refused, when nothing is sent. -/
theorem Cluster.withholds_unlisted (whitelist : List String) (first second : List (String × Octets))
    (same : Headers.listed whitelist first = Headers.listed whitelist second) (r : Request) :
    let one : Request := { r with headers := first }
    let other : Request := { r with headers := second }
    one.carried whitelist = other.carried whitelist ∧
      Headers.CarriedLaws whitelist first (one.carried whitelist) ∧
      (∀ (c : Cluster) (i : Nat) (n : Node), c.node? i = some n → n.settings.whitelist = whitelist →
        one.isRead = other.isRead → c.serve i one = c.serve i other) ∧
      ∀ (α : Type) (call : Call α) (subject : Subject) (f : Follower call subject),
        f.request = one → f.node.settings.whitelist = whitelist → ∀ o,
          (f.cluster.Sends f.index one o ↔ o = f.sent) ∧
            (f.cluster.Sends f.index other o ↔ other.isRead = true ∧ o = f.sent) := by
  intro one other
  have carried : one.carried whitelist = other.carried whitelist := by
    rw [Request.carried_eq, Request.carried_eq, same]
  refine ⟨carried, one.carriedLaws whitelist, ?_, ?_⟩
  · intro c i n hn listed read
    subst listed
    exact serve_congr hn carried read
  · intro α call subject f asked listed o
    subst listed
    have requests : other = { f.request with headers := second } := by
      rw [asked]
    constructor
    · rw [← asked]
      exact f.sends_iff o
    · rw [requests]
      refine f.sends_withHeaders_iff ?_ o
      rw [Follower.headers, asked]
      exact carried.symm

/-- The headers of a client that signs in, and sends one header three times. -/
def signedHeaders : List (String × Octets) :=
  [("Content-Type", Text.octets "application/json"), ("Authorization", Text.octets "secret"),
    ("x-request-id", Text.octets "a"), ("X-Request-ID", Text.octets "b"), ("x-request-id", [0xff])]

/-- The headers of a client that does not. -/
def plainHeaders : List (String × Octets) :=
  [("X-Request-Id", Text.octets "a"), ("x-request-id", Text.octets "b"),
    ("content-type", Text.octets "application/json; charset=utf-8"), ("cookie", [])]

/-- A node that follows and lets one header through. -/
def courierNode : Node :=
  { settings := { whitelist := ["X-Request-Id"] }, forwarder := .http
    leadership := .follower (some "http://[::1]:8081") }

/-- A request to register a schema. -/
def signedRequest : Request :=
  { method := "POST", target := "/subjects/orders/versions", headers := signedHeaders
    body := Text.octets r#"{"schema":"a","schemaType":"PROTOBUF"}"# }

/-- The node when it is asked that. -/
def courier : Follower Call.submission Call.plainOrders where
  cluster := { store := .memory [], nodes := [courierNode], clock := default }
  index := 0
  node := courierNode
  request := signedRequest
  leaderUrl := "http://[::1]:8081"
  base := Call.bareUrl
  present := rfl
  ordered := by
    have orders : Order.ofRequest signedRequest =
        .ok { action := .register, subject := "orders", parameters := [] } := rfl
    have submitted : signedRequest.candidate =
        .ok { format := .protobuf, references := [], text := "a" } := rfl
    refine ⟨_, orders, rfl, rfl, rfl, ?_⟩
    intro candidate hcandidate
    cases hcandidate
    exact submitted
  accepts := rfl
  follows := rfl
  forwards := rfl
  parsed := rfl
  host := by decide
  sendable := by decide +kernel
  reachable := by decide +kernel

/-- Of what the one client has signed in with, nothing is sent, and the other is sent for alike. -/
theorem Cluster.withholds_unlisted_authorization :
    Headers.listed ["X-Request-Id"] signedHeaders = Headers.listed ["X-Request-Id"] plainHeaders ∧
      courier.cluster.Sends 0 { courier.request with headers := plainHeaders } courier.sent ∧
      courier.sent.headers = [("content-type", "application/json"), ("x-request-id", "b")] := by
  have same : Headers.listed ["X-Request-Id"] signedHeaders =
      Headers.listed ["X-Request-Id"] plainHeaders := by
    decide +kernel
  obtain ⟨-, -, -, sends⟩ :=
    withholds_unlisted ["X-Request-Id"] signedHeaders plainHeaders same courier.request
  have read : { courier.request with headers := plainHeaders }.isRead = true := by
    decide +kernel
  exact ⟨same, ((sends _ _ _ courier rfl rfl _).2).mpr ⟨read, rfl⟩, by decide +kernel⟩

end SchemaRegistry
