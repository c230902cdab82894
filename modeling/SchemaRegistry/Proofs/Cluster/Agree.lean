import SchemaRegistry.Proofs.Cluster.Again
import SchemaRegistry.Proofs.Cluster.Deletion
import SchemaRegistry.Proofs.Node.Agree
/-!
# Looking up before registering

Who looks a schema up at the leader and then registers it gets what the lookup said. A leader whose
log is in order carries out what it plans, at once or after the time that a slow append takes: it
answers, appends what there is to append, and has read its own entry when it answers. So what a
lookup and a plan on one catalog agree on is what a caller sees before and after a registration.
-/

set_option autoImplicit false

namespace SchemaRegistry

/-! ## Writes that nothing disturbs -/

/-- What a decision on a log comes to where nothing fails: the answer, and the log that is left. -/
def Decision.carriedOut {α : Type} (log : List Entry) (now : Instant) :
    Except Error (Decision α) → Except Error α × List Entry
  | .error e => (.error e, log)
  | .ok { op := none, answer } => (.ok answer, log)
  | .ok { op := some op, answer } => (.ok answer, log ++ [Entry.next log op now])

/-- Whether the node leads, may write, has read the whole log and finds it in order. -/
structure Node.Ready (n : Node) (log : List Entry) : Prop where
  leads : n.leadership = .leader
  mode : n.settings.mode = .readWrite
  caughtUp : n.catalog = .ofEntries log
  inOrder : n.faults = {}

namespace Node

variable {α : Type} {n : Node} {log : List Entry} {subject : Subject} {call : Call α}

theorem Ready.believes_eq (h : n.Ready log) : n.believes = .leader := by
  rw [believes, h.leads, ite_self]

/-- The node after a write that nothing has disturbed. -/
def afterWrite (n : Node) (log : List Entry) : Node :=
  { n with catalog := .ofEntries log, nextReadFails := false }

/-- Where nothing goes wrong a leader plans on the catalog of the whole log, also if its own has
lagged. -/
theorem plan_of_noFaults (follows : n.catalog.Follows log) (inOrder : n.faults = {})
    (subject : Subject) (call : Call α) :
    n.plan (.memory log) subject call =
      (planFor n.settings.tenant subject call (.ofEntries log), n.afterWrite log) := by
  have reads : n.faults.beforePlan = none := by rw [inOrder]
  rw [plan, follows.planWrite_eq reads]
  rfl

/-- A node that has planned appends, and reads what it has appended. -/
theorem commit_afterWrite (past : History log) (inOrder : n.faults = {}) (now : Instant) (op : Op) :
    (n.afterWrite log).commit (.memory log) now op =
      (.ok (), n.afterWrite (log ++ [Entry.next log op now]),
        .memory (log ++ [Entry.next log op now])) := by
  have writes : (n.afterWrite log).faults.append = none := congrArg Faults.append inOrder
  have rereads : (n.afterWrite log).faults.afterAppend = none :=
    congrArg Faults.afterAppend inOrder
  have grown := past.follows_ofEntries.mono (List.prefix_append log [Entry.next log op now])
  have caught : (n.afterWrite log).catalog = .ofEntries log := rfl
  rw [commit, past.commitWrite_eq writes, rereads, caught, grown.sync_none]
  rfl

/-- The write that follows appends what was planned, and the catalog has read it afterwards. -/
theorem perform_of_noFaults (past : History log) (follows : n.catalog.Follows log)
    (inOrder : n.faults = {}) (now : Instant) (subject : Subject) (call : Call α) :
    n.perform (.memory log) now subject call =
      let done := Decision.carriedOut log now
        (planFor n.settings.tenant subject call (.ofEntries log))
      (done.1, n.afterWrite done.2, .memory done.2) := by
  have reads : n.faults.beforePlan = none := by rw [inOrder]
  have writes : n.faults.append = none := by rw [inOrder]
  have rereads : n.faults.afterAppend = none := by rw [inOrder]
  rw [perform, writeAsLeader, follows.planWrite_eq reads]
  rcases planFor n.settings.tenant subject call (.ofEntries log) with e | ⟨_ | op, answer⟩
  · rfl
  · rfl
  · have grown := past.follows_ofEntries.mono (List.prefix_append log [Entry.next log op now])
    dsimp only
    rw [past.commitWrite_eq writes, rereads, grown.sync_none]
    rfl

end Node

namespace Cluster

variable {α : Type} {c : Cluster} {log : List Entry} {i : Nat} {n : Node} {subject : Subject}
  {call : Call α}

/-- Whether a log is left, and a node that has read it, with other settings as they were. -/
structure Leaves (c : Cluster) (i : Nat) (n : Node) (log : List Entry) : Prop where
  store : c.store = .memory log
  node : ∃ n', c.node? i = some n' ∧ n'.catalog = .ofEntries log ∧ n'.settings = n.settings

theorem leaves_set {c c' : Cluster} {m n' : Node} (hi : c.node? i = some m)
    (nodes : c'.nodes = c.nodes.set i n') (catalog : n'.catalog = .ofEntries log)
    (settings : n'.settings = n.settings) (store : c'.store = .memory log) : c'.Leaves i n log where
  store := store
  node := ⟨n', by rw [node?_of_set hi nodes, if_pos rfl], catalog, settings⟩

/-- A slow append takes its time, and nothing else is different. -/
theorem Sound.performSlowly_of_noFaults (h : c.Sound log) (hi : c.node? i = some n)
    (inOrder : n.faults = {}) (subject : Subject) (call : Call α) :
    let done := Decision.carriedOut log c.clock
      (Node.planFor n.settings.tenant subject call (.ofEntries log))
    ∃ c', c.performSlowly i subject call none = (some done.1, c') ∧ c'.Leaves i n done.2 := by
  have told : ∀ (c : Cluster) (answer : Except Error α), c.heard none answer = some answer :=
    fun _ _ => rfl
  have planned := Node.plan_of_noFaults (h.follows hi) inOrder subject call
  simp only [Cluster.performSlowly, await_eq_of_idle h.idle_of_mem, hi, h.idle hi,
    Option.isSome_none, Bool.false_eq_true, if_false, h.store, planned, told]
  rcases Node.planFor n.settings.tenant subject call (.ofEntries log) with e | ⟨_ | op, answer⟩
  · exact ⟨_, rfl, leaves_set hi rfl rfl rfl h.store⟩
  · exact ⟨_, rfl, leaves_set hi rfl rfl rfl h.store⟩
  · -- The node has only read on, so nothing is under way and the append ends at once.
    have idle : ∀ m ∈ (c.setNode i (n.afterWrite log)).nodes, m.underWay = none := by
      intro m hm
      rcases List.mem_or_eq_of_mem_set hm with hm | rfl
      · exact h.idle_of_mem m hm
      · exact h.idle (n := n) hi
    have store : (c.setNode i (n.afterWrite log)).store = .memory log := h.store
    have clock : (c.setNode i (n.afterWrite log)).clock = c.clock := rfl
    have committed := Node.commit_afterWrite h.history inOrder c.clock op
    simp only [Option.any_none, Bool.false_eq_true, if_false, waitUntil_eq_of_idle idle, store,
      clock, committed]
    have here : (c.setNode i (n.afterWrite log)).node? i = some (n.afterWrite log) := by
      rw [node?_of_set hi rfl, if_pos rfl]
    exact ⟨_, rfl, leaves_set (n := n) here rfl rfl rfl rfl⟩

theorem Sound.performAt_of_noFaults (h : c.Sound log) (hi : c.node? i = some n)
    (inOrder : n.faults = {}) (subject : Subject) (call : Call α) :
    let done := Decision.carriedOut log c.clock
      (Node.planFor n.settings.tenant subject call (.ofEntries log))
    ∃ c', c.performAt i n subject call none = (some done.1, c') ∧ c'.Leaves i n done.2 := by
  rw [Cluster.performAt]
  by_cases slow : n.trouble = some .slow
  · rw [if_pos slow]
    exact h.performSlowly_of_noFaults hi inOrder subject call
  · rw [if_neg slow, h.store,
      Node.perform_of_noFaults h.history (h.follows hi) inOrder c.clock subject call]
    exact ⟨_, rfl, leaves_set hi rfl rfl rfl rfl⟩

/-- A call that enters where it is to run. -/
theorem Sound.submit_of_ready (h : c.Sound log) (hi : c.node? i = some n) (ready : n.Ready log)
    {call : Call α} (accepted : n.accept subject call = .ok ()) (headers : Headers) :
    let done := Decision.carriedOut log c.clock
      (Node.planFor n.settings.tenant subject call (.ofEntries log))
    ∃ c', c.submit i headers subject call = (done.1, c') ∧ c'.Leaves i n done.2 := by
  obtain ⟨onward, hsubmit⟩ := exists_submitVia call headers c.elapsed c.nodes.length
  obtain ⟨c', performed, leaves⟩ := h.performAt_of_noFaults hi ready.inOrder subject call
  refine ⟨c', ?_, leaves⟩
  rw [submit, submitSince, hsubmit, submitVia_of_leader hi ready.believes_eq, accepted]
  dsimp only
  rw [performed]

/-! ## Registrations -/

/-- How a registration follows the lookup that was made before it, at one node. -/
structure RegistersAsLookedUp (c : Cluster) (log : List Entry) (i : Nat) (n : Node)
    (headers : Headers) (subject : Subject) (candidate : Candidate) (normalize : Bool) : Prop where
  existing : ∀ v, n.lookup subject candidate normalize false = .ok v →
    (c.register i headers subject candidate normalize).1 =
        .ok { id := v.id, number := v.number } ∧
      (c.register i headers subject candidate normalize).2.store = .memory log
  invalid : ∀ message,
    n.lookup subject candidate normalize false = .error (.invalidSchema message) →
      (c.register i headers subject candidate normalize).1 = .error (.invalidSchema message) ∧
        (c.register i headers subject candidate normalize).2.store = .memory log
  /-- One live version is appended, and the lookup then finds it. Only where the log has more
  entries than there are numbers, no number may be left. -/
  missing : ∀ e, e = .subjectNotFound subject.rendered ∨ e = .schemaNotFound →
    n.lookup subject candidate normalize false = .error e →
      (∃ v n', (c.register i headers subject candidate normalize).1 =
            .ok { id := v.id, number := v.number } ∧
          (c.register i headers subject candidate normalize).2.store =
            .memory (log ++ [Entry.next log (.register v) c.clock]) ∧
          v.subject = subject ∧ v.isLive = true ∧
          v.number.toNat = ((Catalog.ofEntries log).highestVersion subject).toNat + 1 ∧
          (c.register i headers subject candidate normalize).2.node? i = some n' ∧
          n'.lookup subject candidate normalize false = .ok v) ∨
        ((c.register i headers subject candidate normalize).1 = .error Registration.exhausted ∧
          (c.register i headers subject candidate normalize).2.store = .memory log ∧
          4294967295 ≤ log.length)
  others : ∀ e, n.lookup subject candidate normalize false = .error e →
    (∃ message, e = .invalidSchema message) ∨ e = .subjectNotFound subject.rendered ∨
      e = .schemaNotFound

/-- **A registration comes to what the lookup just before it has said.** Both go through the same
versions, the lookup on the catalog as it is and the registration on the log. A leader that is ready
has the two alike. -/
theorem Sound.registersAsLookedUp (h : c.Sound log) (hi : c.node? i = some n) (ready : n.Ready log)
    (headers : Headers) (named : Subject.Named n.settings.tenant subject) (candidate : Candidate)
    (normalize : Bool) :
    c.RegistersAsLookedUp log i n headers subject candidate normalize := by
  have accepted : n.accept subject (.register candidate normalize) = .ok () := by
    rw [Node.accept, Node.checkWritable, ready.mode]
  obtain ⟨c', submitted, leaves⟩ := h.submit_of_ready hi ready accepted headers
  have searches := (Catalog.faithful_ofEntries log).searches (Catalog.sorted_ofEntries log)
  have others := (Node.lookupLaws h.history (h.follows hi) subject candidate normalize false).others
  have agree := n.agree (ready.caughtUp ▸ h.history.readable) (ready.caughtUp ▸ searches) subject
    candidate normalize
  rw [ready.caughtUp] at agree
  -- Both outcomes are made variables, so that the cases of their agreement are all that remains.
  generalize hlookup : n.lookup subject candidate normalize false = looked at agree
  generalize hplan : Registration.plan (.ofEntries log) n.settings.tenant subject candidate
    (.ofNormalize normalize) = planned at agree
  simp only [Node.planFor, hplan] at submitted leaves
  rw [← register] at submitted
  cases agree with
  | refused message =>
    refine ⟨?_, ?_, ?_, others⟩
    all_goals rw [hlookup, submitted]
    · rintro _ ⟨⟩
    · rintro message ⟨⟩
      exact ⟨rfl, leaves.store⟩
    · rintro _ (rfl | rfl) ⟨⟩
  | existing v =>
    refine ⟨?_, ?_, ?_, others⟩
    all_goals rw [hlookup, submitted]
    · rintro v ⟨⟩
      exact ⟨rfl, leaves.store⟩
    · rintro _ ⟨⟩
    · rintro _ _ ⟨⟩
  | append missing v =>
    obtain ⟨w, hw, -, appends⟩ := Registration.appends_of_plan hplan
    obtain rfl : v = w := Op.register.inj hw
    -- The leader has read its own entry, so it finds by a second lookup what it has appended.
    obtain ⟨n', hn', caughtUp, settings⟩ := leaves.node
    have found := Node.lookup_appended (n := n') h.history (settings ▸ named)
      (settings.symm ▸ hplan) caughtUp
    have live : v.isLive = true := by
      rw [Version.isLive, appends.isDeleted]
      rfl
    refine ⟨?_, ?_, ?_, others⟩
    all_goals rw [hlookup, submitted]
    · rintro _ ⟨⟩
    · rintro message ⟨⟩
      rcases missing with missing | missing <;> cases missing
    · intro e _ h
      exact Or.inl ⟨v, n', rfl, leaves.store, appends.subject, live, appends.number, hn', found⟩
  | exhausted missing usedUp =>
    rw [ready.caughtUp] at usedUp
    refine ⟨?_, ?_, ?_, others⟩
    all_goals rw [hlookup, submitted]
    · rintro _ ⟨⟩
    · rintro message ⟨⟩
      rcases missing with missing | missing <;> cases missing
    · exact fun _ _ _ => Or.inr ⟨rfl, leaves.store, usedUp.le_length h.history⟩

/-- **A registration does what a lookup has announced.** After any run of a registry, at a leader
that may write, has read the whole log and finds it in order, and for every subject that a name can
mean there: a registration of what a lookup finds among the live versions answers with that version,
and one of what a lookup refuses is refused in the same words, and neither touches the log. A
registration of what a lookup does not find appends one live version with the next number, and then
the lookup finds just that version. And no schema is ever live twice under a subject, at any node
and in any catalog that the log has led to, whether its versions were registered raw or normalized.
-/
theorem registers_as_looked_up (clock : Instant) (network : Outbound → Reply) (nodes : List Node)
    (events : List Event) :
    ∃ log, ((found clock network nodes).run events).store = .memory log ∧
      (∀ k, (Catalog.ofEntries (log.take k)).Single) ∧
      ∀ {i n}, ((found clock network nodes).run events).node? i = some n →
        n.catalog.Follows log ∧ n.catalog.Single ∧
        (n.Ready log → ∀ headers subject, Subject.Named n.settings.tenant subject →
          ∀ candidate normalize,
            ((found clock network nodes).run events).RegistersAsLookedUp log i n headers subject
              candidate normalize) := by
  obtain ⟨log, sound⟩ := exists_history clock network nodes events
  have single : ∀ k, (Catalog.ofEntries (log.take k)).Single :=
    fun k => (sound.history.take k).single
  refine ⟨log, sound.store, single, fun {i n} hn => ⟨sound.follows hn, ?_, ?_⟩⟩
  · rw [(sound.follows hn).eq_ofEntries]
    exact single _
  · exact fun ready headers subject named candidate normalize =>
      sound.registersAsLookedUp hn ready headers named candidate normalize

/-- A schema with documentation, which counts only if schemas are compared raw. -/
def documented (text : String) : Candidate :=
  { format := .avro, references := []
    text := r#"{"type":"string","doc":""# ++ text ++ r#""}"# }

/-- A registry in which `orders` has been registered with documentation that does not count. -/
def documentedOrders : Cluster :=
  loneLeader.run [.register 0 [] "orders" (documented "one") true none]

/-- With other documentation the schema is the same normalized, and another one raw. -/
theorem registers_as_looked_up_documentedOrders :
    ∃ log n, documentedOrders.node? 0 = some n ∧ n.Ready log ∧
      (documentedOrders.register 0 [] orders (documented "two") true).1 =
        .ok { id := 1, number := 1 } ∧
      (documentedOrders.register 0 [] orders (documented "two") true).2.store =
        .memory log ∧
      ∃ v n', (documentedOrders.register 0 [] orders (documented "two") false).1 =
          .ok { id := v.id, number := v.number } ∧ v.number.toNat = 2 ∧
        (documentedOrders.register 0 [] orders (documented "two") false).2.node? 0 =
          some n' ∧
        n'.lookup orders (documented "two") false false = .ok v := by
  have state : (documentedOrders.node? 0).map (fun n =>
      (n.settings, n.leadership, n.trouble, n.nextReadFails)) =
      some ({}, .leader, none, false) := by
    decide +kernel
  have reading : (documentedOrders.node? 0).map (fun n =>
      (documentedOrders.store.readAfter n.catalog.applied,
        n.catalog.applied, n.catalog.highestVersion orders)) = some (.ok [], 1, 1) := by
    decide +kernel
  have lookups : (documentedOrders.node? 0).map (fun n =>
      (n.lookup orders (documented "two") true false,
        n.lookup orders (documented "two") false false)) =
      some (.ok { subject := orders, number := 1, id := 1, format := .avro, references := []
                  text := (documented "one").text, isDeleted := false },
        .error .schemaNotFound) := by
    decide +kernel
  obtain ⟨n, hn, facts⟩ := Option.map_eq_some_iff.mp state
  rw [hn, Option.map_some, Option.some.injEq, Prod.mk.injEq] at reading lookups
  simp only [Prod.mk.injEq] at facts reading
  obtain ⟨settings, leads, untroubled, reads⟩ := facts
  obtain ⟨behind, applied, highest⟩ := reading
  have inOrder : n.faults = {} := by
    simp [Node.faults, Node.readFault, Node.appendFault, leads, untroubled, reads,
      Leadership.isLeader]
  have named : Subject.Named n.settings.tenant orders := by
    rw [settings]
    exact ⟨"orders", by decide +kernel⟩
  unfold documentedOrders loneLeader at hn behind ⊢
  obtain ⟨log, store, -, registers⟩ :=
    registers_as_looked_up default (fun _ => .unreachable) [{}] _
  obtain ⟨follows, -, agree⟩ := registers hn
  rw [store] at behind
  have ready : n.Ready log :=
    ⟨leads, by rw [settings], follows.eq_of_readAfter behind, inOrder⟩
  have again := (agree ready [] orders named (documented "two") true).existing _ lookups.1
  obtain ⟨v, n', answer, -, -, -, number, node, found⟩ | ⟨-, -, long⟩ :=
    (agree ready [] orders named (documented "two") false).missing _ (Or.inr rfl) lookups.2
  · refine ⟨log, n, hn, ready, again.1, again.2, v, n', answer, ?_, node, found⟩
    rw [number, ← ready.caughtUp, highest]
    rfl
  · -- The log has one entry.
    have short := List.drop_eq_nil_iff.mp (Except.ok.inj behind : log.drop n.catalog.applied = [])
    omega

end Cluster

end SchemaRegistry
