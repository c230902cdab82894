import SchemaRegistry.Cluster.Delay
import SchemaRegistry.Http.Forward
/-!
# Calls

A call enters at a node and goes where that node believes the leader is: it runs there, goes to
another node, or goes out by request. A call that goes from node to node is read again at each: the
subject is handed on by its name and resolved under the tenant of the next node.

Every node that hands a call on waits for the answer only so long, so of several nodes on the way
the one that gives up first tells its caller. Calls that go round in a circle never arrive anywhere,
and end in that way, after as many steps as there are nodes.
-/

set_option autoImplicit false

namespace SchemaRegistry.Cluster

/-- What a caller learns: the answer, or nothing if the caller has left before. -/
abbrev Heard (α : Type) := Option (Except Error α)

/-- A call that has no answer within the time that a node gives it. -/
def overdue {α β : Type} (n : Node) (call : Call α) : Except Error β :=
  .error (.operationTimeout
    s!"{call.name} operation timed out after {n.settings.forwardTimeout}ms waiting for the leader")

/-- What a caller who leaves at some time hears of an answer that comes now. -/
def heard {α : Type} (c : Cluster) (limit : Option Nat) (answer : Except Error α) : Heard α :=
  if limit.any (· < c.elapsed) then none else some answer

/-- A call that runs at a node with a slow log, for a caller who leaves at some time. -/
def performSlowly {α : Type} (c : Cluster) (i : Nat) (subject : Subject) (call : Call α)
    (limit : Option Nat) : Heard α × Cluster :=
  let c := c.await limit (isFree i)
  match c.node? i with
  | none => (none, c)
  | some n =>
    if n.underWay.isSome then
      let n := { n with errands := n.errands ++ [.of subject call] }
      (none, (c.setNode i n).waitFor limit)
    else
      match n.plan c.store subject call with
      | (.error e, n) => (c.heard limit (.error e), c.setNode i n)
      | (.ok { op := none, answer }, n) => (c.heard limit (.ok answer), c.setNode i n)
      | (.ok { op := some op, answer }, n) =>
        let time := c.elapsed + slowAppend
        if limit.any (· < time) then
          (none, (c.setNode i { n with underWay := some (time, op) }).waitFor limit)
        else
          let c := (c.setNode i n).waitUntil time
          let (outcome, n, store) := n.commit c.store c.clock op
          (some (outcome.map fun () => answer), { c.setNode i n with store })

/-- A call that is admitted at a node and has to run there, for a caller who leaves at some time. -/
def performAt {α : Type} (c : Cluster) (i : Nat) (n : Node) (subject : Subject) (call : Call α)
    (limit : Option Nat) : Heard α × Cluster :=
  if n.trouble = some .slow then c.performSlowly i subject call limit
  else
    let (outcome, n, store) := n.perform c.store c.clock subject call
    (some outcome, { c.setNode i n with store })

/-- What becomes of a call with another node, which `onward` tells from the leader's address, the
time when the node that hands it on stops waiting, the other node and the subject. -/
abbrev Onward (α : Type) := String → Nat → Cluster → Nat → Subject → Heard α × Cluster

/-- A call that entered at a node at some time, with the headers it carries along, for a caller who
leaves at some time. -/
def submitVia {α : Type} (onward : Onward α) (call : Call α) (headers : Headers) (entered : Nat)
    (limit : Option Nat) (c : Cluster) (i : Nat) (subject : Subject) : Heard α × Cluster :=
  match c.node? i with
  | none => (some (.error (.internal s!"There is no node {i}")), c)
  | some n =>
    match n.accept subject call with
    | .error e => (some (.error e), c)
    | .ok () =>
      match n.believes.route with
      | .error e => (some (.error e), c)
      | .ok .here => c.performAt i n subject call limit
      | .ok (.forward leaderUrl) =>
        -- The node waits as long as it is set to, or as long as its own caller does.
        let patience := entered + n.settings.forwardTimeout
        let sooner := (limit.map (min patience)).getD patience
        let (answer, c) : Heard α × Cluster :=
          match n.forwarder with
          | .none => (some (.error (.internal "unexpected forward")), c)
          | .silent => (none, c.waitUntil sooner)
          | .http => (some (call.send c.network leaderUrl subject headers), c)
          | .direct k => onward leaderUrl sooner c k subject
        match answer with
        | some answer => (some answer, c)
        | none => (if limit.any (· < patience) then none else some (overdue n call), c)

/-- A call that is handed on to a node, where it is submitted. -/
def handOn {α : Type} (submit : Option Nat → Cluster → Nat → Subject → Heard α × Cluster)
    (call : Call α) (headers : Headers) : Onward α :=
  fun leaderUrl sooner c k subject =>
    -- Only the name goes on, and the next node reads it under its own tenant.
    let name := subject.rendered
    let handover := { leaderUrl, headers, subject := name, call := call.handed }
    let c := { c with handovers := c.handovers ++ [handover] }
    match (c.node? k).map fun target => target.resolve name with
    | none => (some (.error (.internal s!"There is no node {k}")), c)
    | some (.error e) => (some (.error e), c)
    | some (.ok subject) => submit (some sooner) c k subject

/-- A call that is handed on at most so many times, and then arrives nowhere. -/
def submitWithin {α : Type} (call : Call α) (headers : Headers) (entered : Nat) :
    Nat → Option Nat → Cluster → Nat → Subject → Heard α × Cluster
  | 0 => submitVia (fun _ sooner c _ _ => (none, c.waitUntil sooner)) call headers entered
  | steps + 1 =>
    submitVia (handOn (submitWithin call headers entered steps) call headers) call headers entered

/-- A call that entered at a node at some time, for a caller who waits for the answer. -/
def submitSince {α : Type} (c : Cluster) (entered i : Nat) (headers : Headers) (subject : Subject)
    (call : Call α) : Except Error α × Cluster :=
  match submitWithin call headers entered c.nodes.length none c i subject with
  | (some answer, c) => (answer, c)
  | (none, c) => (.error (.internal s!"There is no answer from node {i}"), c)

/-- A call that enters at a node. -/
def submit {α : Type} (c : Cluster) (i : Nat) (headers : Headers) (subject : Subject)
    (call : Call α) : Except Error α × Cluster :=
  c.submitSince c.elapsed i headers subject call

/-- A call whose caller leaves after some milliseconds, and whether that was before the answer. -/
def abandon {α : Type} (c : Cluster) (patience i : Nat) (headers : Headers) (subject : Subject)
    (call : Call α) : Bool × Cluster :=
  let limit := c.elapsed + patience
  let (answer, c) := submitWithin call headers c.elapsed c.nodes.length (some limit) c i subject
  (answer.isNone, c)

def register (c : Cluster) (i : Nat) (headers : Headers) (subject : Subject)
    (candidate : Candidate) (normalize : Bool) : Except Error Registered × Cluster :=
  c.submit i headers subject (.register candidate normalize)

/-- Several registrations that enter at a node at the same time. -/
def registerTogether (c : Cluster) (i : Nat) (subject : Subject) (candidates : List Candidate) :
    List (Except Error Registered) × Cluster :=
  candidates.foldl
    (fun (answers, next) candidate =>
      let (answer, next) := next.submitSince c.elapsed i [] subject (.register candidate false)
      (answers ++ [answer], next))
    ([], c)

def delete (c : Cluster) (i : Nat) (headers : Headers) (subject : Subject) (permanent : Bool) :
    Except Error (List UInt32) × Cluster :=
  c.submit i headers subject (.delete permanent)

/-- An operation appended straight to the log of a node, which takes its time. -/
def append (c : Cluster) (i : Nat) (op : Op) : Except LogFailure Nat × Cluster :=
  let isSlow := (c.node? i).any fun n => n.trouble = some .slow
  let c := if isSlow then c.waitUntil (c.elapsed + slowAppend) else c
  match c.node? i with
  | none => (.error .notLeader, c)
  | some n =>
    let (outcome, n, store) := n.append c.store c.clock op
    (outcome, { c.setNode i n with store })

end SchemaRegistry.Cluster
