import SchemaRegistry.Proofs.Http.Forward
/-!
# Relayed answers

A follower answers a write with what the leader has answered, by way of two translations: the answer
is read as an outcome, and the outcome is answered again. Success travels as a document that is read
back as it was. An error travels as a number and a message, and is made anew from the number, the
message and the name of the subject that the follower itself was asked about. So it is the leader's
error as long as the leader's error is about that name (`Error.ofCode_code_iff`), and then the
answer of the follower is the answer of the leader, octet by octet.

Since nothing of the answer is changed by one follower, nothing is changed by any number of them,
one behind the other (`Follower.foldl_answer`).
-/

set_option autoImplicit false

namespace SchemaRegistry

/-! ## Errors by number -/

/-- Whether an error that names a subject names this one. -/
def Error.IsAbout (name : String) : Error → Prop
  | subjectNotFound subject => subject = name
  | subjectNotSoftDeleted subject _ => subject = name
  | _ => True

/-- An error is made anew from its number and its message, exactly if it is about the subject that
was asked about. -/
theorem Error.ofCode_code_iff (e : Error) (name : String) :
    ofCode e.code e.message name = e ↔ e.IsAbout name := by
  -- The numbers differ, so each is that of one kind, and the two modes of a deletion have one each.
  rcases e with _ | _ | ⟨subject, mode⟩ | _ | _ | _ | _ | _ | _ | _ | _
  case subjectNotSoftDeleted => cases mode <;> simp [ofCode, code, IsAbout, eq_comm]
  all_goals simp [ofCode, code, message, IsAbout, eq_comm]

/-- What a request orders is done at some place for its method. -/
theorem Order.exists_endpoint {r : Request} {o : Order} (h : ofRequest r = .ok o) :
    ∃ endpoint : Endpoint, endpoint.action? r.method = some o.action := by
  unfold ofRequest at h
  dsimp only at h
  split at h
  · cases h
  · rename_i endpoint _
    split at h
    · cases h
    · rename_i action acts
      split at h
      · cases h
      · split at h
        · cases h
        · cases h
          exact ⟨endpoint, acts⟩

namespace Call

variable {α : Type} {call : Call α} {subject : Subject}

/-- The answer to an outcome is read back as the outcome. -/
theorem answered_eq_outcome {outcome : Except Error α}
    (about : ∀ e, outcome = .error e → e.IsAbout subject.rendered) :
    call.answered subject (Answer.ofOutcome call.answerTree outcome).status
        (Text.octets (Answer.ofOutcome call.answerTree outcome).body) = outcome := by
  rw [answered_ofOutcome]
  rcases outcome with e | answer
  · exact congrArg Except.error ((e.ofCode_code_iff _).mpr (about e rfl))
  · rfl

/-- A write is not asked for by a request that wants nothing but the head of an answer. -/
theorem OrderedBy.shows {tenant : String} {r : Request} (h : call.OrderedBy tenant subject r) :
    r.method ≠ "HEAD" := by
  obtain ⟨o, ho, does, -⟩ := h
  obtain ⟨endpoint, acts⟩ := Order.exists_endpoint ho
  intro head
  -- The head is given of a listing alone.
  have lists : o.action = .list := by
    rw [head] at acts
    rcases endpoint with _ | _ | _ <;> simp_all [Endpoint.action?]
  rw [lists] at does
  rcases call with _ | _ <;> cases does

/-- What is sent comes to what is answered. -/
theorem send_eq_outcome (network : Outbound → Reply) {leaderUrl : String} {base : Url}
    {headers : Headers} (parsed : Url.parse leaderUrl = .ok base) (host : base.hasHost = true)
    (sendable : headers.all isSendable = true)
    (reachable : (call.outbound base subject headers).url.isReachable = true) :
    call.send network leaderUrl subject headers =
      call.outcome subject (call.outbound base subject headers).url
        (network (call.outbound base subject headers)) := by
  have address : leaderBase leaderUrl = .ok base := by
    simp only [leaderBase, parsed]
  simp only [send, address, host, sendable, reachable, not_true_eq_false, if_false]

end Call

/-! ## A follower -/

/-- A node that hands a call about a subject to the leader by request, and what it was asked: the
request orders the call, the node may write and follows a leader at an address that requests can be
sent to. -/
structure Follower {α : Type} (call : Call α) (subject : Subject) where
  cluster : Cluster
  index : Nat
  node : Node
  request : Request
  leaderUrl : String
  base : Url
  present : cluster.node? index = some node
  ordered : call.OrderedBy node.settings.tenant subject request
  accepts : node.accept subject call = .ok ()
  follows : node.believes = .follower (some leaderUrl)
  forwards : node.forwarder = .http
  parsed : Url.parse leaderUrl = .ok base
  host : base.hasHost = true
  sendable : (request.carried node.settings.whitelist).all isSendable = true
  reachable : (call.outbound base subject
    (request.carried node.settings.whitelist)).url.isReachable = true

/-- A call that a node hands on by request comes to what the request comes to. -/
theorem Cluster.submit_of_http {α : Type} {c : Cluster} {i : Nat} {n : Node} {leaderUrl : String}
    {subject : Subject} {call : Call α} (hn : c.node? i = some n)
    (accepts : n.accept subject call = .ok ())
    (follows : n.believes = .follower (some leaderUrl)) (forwards : n.forwarder = .http)
    (headers : Headers) :
    c.submit i headers subject call = (call.send c.network leaderUrl subject headers, c) := by
  have route : n.believes.route = .ok (.forward leaderUrl) := by
    rw [follows]
    rfl
  rw [submit, submitSince]
  -- No node comes after this one, however many the call may go through.
  rcases c.nodes.length with _ | steps
  all_goals simp only [submitWithin, submitVia, hn, accepts, route, forwards]

namespace Follower

variable {α : Type} {call : Call α} {subject : Subject}

/-- The headers that the follower carries along. -/
def headers (f : Follower call subject) : Headers :=
  f.request.carried f.node.settings.whitelist

/-- The request that the follower sends. -/
def sent (f : Follower call subject) : Outbound :=
  call.outbound f.base subject f.headers

/-- The follower's cluster where the request that it sends is answered. -/
def hearing (f : Follower call subject) (a : Answer) : Cluster :=
  let reply := Reply.answered a.status (Text.octets a.body)
  { f.cluster with network := fun o => if o = f.sent then reply else f.cluster.network o }

/-- What the call comes to at the follower when its own request is answered. -/
def outcome (f : Follower call subject) (a : Answer) : Except Error α :=
  ((f.hearing a).submit f.index f.headers subject call).1

/-- What the follower answers when its own request is answered. -/
def answer (f : Follower call subject) (a : Answer) : Answer :=
  ((f.hearing a).serve f.index f.request).1

theorem outcome_eq_answered (f : Follower call subject) (a : Answer) :
    f.outcome a = call.answered subject a.status (Text.octets a.body) := by
  have heard : (f.hearing a).network f.sent = .answered a.status (Text.octets a.body) := by
    simp only [hearing, if_true]
  have present : (f.hearing a).node? f.index = some f.node := f.present
  have sends := Call.send_eq_outcome (f.hearing a).network f.parsed f.host f.sendable f.reachable
  rw [outcome, Cluster.submit_of_http present f.accepts f.follows f.forwards]
  change call.send (f.hearing a).network f.leaderUrl subject f.headers = _
  rw [headers, sends, ← headers, ← sent, heard]
  rfl

theorem answer_eq_ofOutcome (f : Follower call subject) (a : Answer) :
    f.answer a = .ofOutcome call.answerTree (f.outcome a) := by
  have present : (f.hearing a).node? f.index = some f.node := f.present
  rw [answer, Call.serve_of_orderedBy present f.ordered.shows f.ordered]
  rfl

variable {outcome : Except Error α}

/-- A follower takes the leader's outcome for its own, and so answers the same. -/
theorem answer_ofOutcome (f : Follower call subject)
    (about : ∀ e, outcome = .error e → e.IsAbout subject.rendered) :
    f.outcome (.ofOutcome call.answerTree outcome) = outcome ∧
      f.answer (.ofOutcome call.answerTree outcome) = .ofOutcome call.answerTree outcome := by
  have same : f.outcome (.ofOutcome call.answerTree outcome) = outcome := by
    rw [outcome_eq_answered]
    exact Call.answered_eq_outcome about
  refine ⟨same, ?_⟩
  rw [answer_eq_ofOutcome, same]

/-- Nor does a chain of followers change the answer. The induction is on the chain, and what it
keeps is the answer that goes to the next follower. -/
theorem foldl_answer (about : ∀ e, outcome = .error e → e.IsAbout subject.rendered)
    (chain : List (Follower call subject)) :
    chain.foldl (fun a f => f.answer a) (.ofOutcome call.answerTree outcome) =
      .ofOutcome call.answerTree outcome := by
  induction chain with
  | nil => rfl
  | cons f chain ih => rw [List.foldl_cons, (f.answer_ofOutcome about).2, ih]

end Follower

namespace Call

variable {α : Type}

/-- **A follower relays the leader's answer.** Whatever a call about a subject has come to at the
leader, as long as an error that names a subject names this one, the leader's interface answers with
it, and what is answered is read back as the very outcome: the same value, or the same error with
the same number and message. A follower therefore comes to that outcome and answers the same status
and the same body, and so does every follower at the end of a chain in which each has asked the one
before it. -/
theorem relayed (call : Call α) (subject : Subject) (outcome : Except Error α)
    (about : ∀ e, outcome = .error e → e.IsAbout subject.rendered) :
    (∀ (c : Cluster) (i : Nat) (n : Node) (r : Request), c.node? i = some n →
        call.OrderedBy n.settings.tenant subject r →
        (c.submit i (r.carried n.settings.whitelist) subject call).1 = outcome →
        (c.serve i r).1 = .ofOutcome call.answerTree outcome) ∧
      call.answered subject (Answer.ofOutcome call.answerTree outcome).status
          (Text.octets (Answer.ofOutcome call.answerTree outcome).body) = outcome ∧
      ∀ (chain : List (Follower call subject)) (last : Follower call subject),
        let passed := chain.foldl (fun a f => f.answer a) (.ofOutcome call.answerTree outcome)
        last.outcome passed = outcome ∧
          last.answer passed = .ofOutcome call.answerTree outcome := by
  refine ⟨?_, answered_eq_outcome about, ?_⟩
  · intro c i n r hn ordered made
    rw [serve_of_orderedBy hn ordered.shows ordered, ← made]
  · intro chain last
    dsimp only
    rw [Follower.foldl_answer about chain]
    exact last.answer_ofOutcome about

/-- A subject of the default tenant. -/
def plainOrders : Subject :=
  { tenant := "default", context := ".", localName := "orders" }

/-- A log in which the subject is registered and then deleted. -/
def deletedLog : List Entry :=
  let v : Version :=
    { subject := plainOrders, number := 1, id := 1, format := .protobuf, references := []
      text := "a", isDeleted := false }
  [{ offset := 1, op := .register v, appendedAt := default },
    { offset := 2, op := .softDelete plainOrders [1], appendedAt := default }]

/-- A follower that has not heard of the deletion yet, and is asked for it again. -/
def laggard : Follower (.delete false) plainOrders where
  cluster :=
    { store := .memory deletedLog, clock := default
      nodes := [{ leadership := .follower (some "http://[::1]:8081/registry/"), forwarder := .http
                  catalog := .ofEntries (deletedLog.take 1) }] }
  index := 0
  node :=
    { leadership := .follower (some "http://[::1]:8081/registry/"), forwarder := .http
      catalog := .ofEntries (deletedLog.take 1) }
  request := { method := "DELETE", target := "/subjects/orders" }
  leaderUrl := "http://[::1]:8081/registry/"
  base := registryUrl
  present := rfl
  ordered :=
    ⟨{ action := .delete, subject := "orders", parameters := [] }, rfl, rfl, rfl, rfl, nofun⟩
  accepts := rfl
  follows := rfl
  forwards := rfl
  parsed := rfl
  host := by decide
  sendable := by decide
  reachable := by decide +kernel

/-- The leader refuses to delete the subject twice, and two followers say the same. -/
theorem relayed_refusal :
    let refusal : Except Error (List UInt32) := .error (.subjectNotSoftDeleted "orders" .soft)
    let leader : Cluster :=
      { store := .memory deletedLog, nodes := [{ catalog := .ofEntries deletedLog }]
        clock := default }
    (leader.serve 0 laggard.request).1 = .ofOutcome (Call.delete false).answerTree refusal ∧
      laggard.outcome (laggard.answer (leader.serve 0 laggard.request).1) = refusal ∧
      (laggard.answer (laggard.answer (leader.serve 0 laggard.request).1)).status = 409 := by
  intro refusal leader
  have about : ∀ e, refusal = .error e → e.IsAbout plainOrders.rendered := by
    intro e he
    rw [← Except.error.inj he]
    rfl
  obtain ⟨served, -, chained⟩ := relayed (Call.delete false) plainOrders refusal about
  have refused : (leader.submit 0 (laggard.request.carried []) plainOrders (.delete false)).1 =
      refusal := rfl
  have answered := served leader 0 _ laggard.request rfl laggard.ordered refused
  obtain ⟨outcome, answer⟩ := chained [laggard] laggard
  refine ⟨answered, ?_, ?_⟩
  · rw [answered]
    exact outcome
  · rw [answered]
    exact congrArg Answer.status answer

end Call

end SchemaRegistry
