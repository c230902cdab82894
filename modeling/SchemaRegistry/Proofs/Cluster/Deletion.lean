import SchemaRegistry.Cluster.Call
import SchemaRegistry.Proofs.Cluster.Delay
import SchemaRegistry.Proofs.Log.Store
/-!
# Where a deletion is decided

A deletion that arrives is decided at the end of the log, however far the leader's catalog lags. But
every node on its way, the leader among them, first asks its own catalog whether the deletion is
allowed at all, and a catalog that lags may say no where the log says yes. So a deletion gets the
answer of the log exactly if the first catalog on the way that forbids it has its subject in the
state in which the log has it. A leader that has not read its own acknowledged write yet is one that
does not: it answers that the subject is not there.
-/

set_option autoImplicit false

namespace SchemaRegistry

/-! ## Refusals -/

namespace Deletion

/-- Two states in which a deletion is refused alike are the same. -/
theorem state_eq_of_check {a b : SubjectState} {subject : Subject} {mode : DeletionMode} {e : Error}
    (ha : check a subject mode = .error e) (hb : check b subject mode = .error e) : a = b := by
  cases a <;> cases b <;> cases mode <;> cases ha <;> first | rfl | cases hb

/-- A subject that is in the wrong state for a deletion is not found, or not soft deleted yet. -/
theorem check_error_cases {state : SubjectState} {subject : Subject} {mode : DeletionMode}
    {e : Error} (h : check state subject mode = .error e) :
    e = .subjectNotFound subject.rendered ∨ e = .subjectNotSoftDeleted subject.rendered mode := by
  cases state <;> cases mode <;> cases h <;> first | exact Or.inl rfl | exact Or.inr rfl

/-- A plan fails as its check does, or for references, of which no check speaks. -/
theorem plan_error_cases {c : Catalog} {subject : Subject} {mode : DeletionMode} {e : Error}
    (h : plan c subject mode = .error e) :
    check (c.state subject) subject mode = .error e ∨ ∃ message, e = .referenceExists message := by
  rw [plan] at h
  cases hcheck : check (c.state subject) subject mode with
  | error d =>
    rw [hcheck] at h
    cases h
    exact Or.inl rfl
  | ok u =>
    rw [hcheck] at h
    cases mode with
    | soft => cases h
    | permanent =>
      dsimp only at h
      rw [checkReferences] at h
      split at h
      · cases h
      · cases h
        exact Or.inr ⟨_, rfl⟩

/-- What a caller is told of a deletion that is decided on a catalog. -/
def answer (c : Catalog) (subject : Subject) (permanent : Bool) : Except Error (List UInt32) :=
  (plan c subject (.ofPermanent permanent)).map fun (_, record) => record.versions

end Deletion

namespace Node

variable {α : Type} {n : Node} {subject : Subject}

/-- A deletion is refused by a node that only reads, or else as its catalog says. -/
theorem accept_delete (n : Node) (subject : Subject) (permanent : Bool) :
    n.accept subject (.delete permanent) =
      match n.checkWritable subject with
      | .error e => .error e
      | .ok () =>
        Deletion.check (n.catalog.state subject) subject (.ofPermanent permanent) := rfl

/-- What the plan answers is what the deletion would answer, with the operation left out. -/
theorem answer_planFor_delete (tenant : String) (subject : Subject) (permanent : Bool)
    (c : Catalog) :
    (planFor tenant subject (.delete permanent) c).map Decision.answer =
      Deletion.answer c subject permanent := by
  rw [planFor, Deletion.answer]
  cases Deletion.plan c subject (.ofPermanent permanent) <;> rfl

/-- When the answer that is decided on a catalog is the refusal of a node. -/
theorem answer_eq_error_iff {c : Catalog} {permanent : Bool} {e : Error}
    (he : n.accept subject (.delete permanent) = .error e) :
    Deletion.answer c subject permanent = .error e ↔
      n.settings.mode = .readWrite ∧ n.catalog.state subject = c.state subject := by
  have hplan : Deletion.answer c subject permanent = .error e ↔
      Deletion.plan c subject (.ofPermanent permanent) = .error e := by
    rw [Deletion.answer]
    cases Deletion.plan c subject (.ofPermanent permanent) with
    | error d => exact ⟨fun h => by cases h; rfl, fun h => by cases h; rfl⟩
    | ok planned =>
      constructor
      · intro h
        cases h
      · intro h
        cases h
  rw [hplan]
  rw [accept_delete, checkWritable] at he
  cases hmode : n.settings.mode with
  | readWrite =>
    rw [hmode] at he
    dsimp only at he
    refine ⟨fun h => ⟨rfl, ?_⟩, fun h => ?_⟩
    · -- A node that can write refuses by the check alone, so the same error must be that of the
      -- check and not that of a reference.
      rcases Deletion.plan_error_cases h with hcheck | ⟨message, rfl⟩
      · exact Deletion.state_eq_of_check he hcheck
      · rcases Deletion.check_error_cases he with h | h <;> cases h
    · rw [Deletion.plan, ← h.2, he]
  -- No plan fails because a node may not write, so this refusal is never the answer.
  | readOnly =>
    rw [hmode] at he
    cases he
    refine ⟨fun h => ?_, fun h => by cases h.1⟩
    rcases Deletion.plan_error_cases h with hcheck | ⟨message, h⟩
    · rcases Deletion.check_error_cases hcheck with h | h <;> cases h
    · cases h

/-! ## Where a write runs -/

/-- Whether the log does what a write of the node asks of it: the reading before the plan and the
append. The reading after the append does not matter. -/
structure Serves (n : Node) (s : Store) (now : Instant) : Prop where
  reads : n.faults.beforePlan = none
  writes : n.faults.append = none
  appends : ∀ op, ∃ offset, (s.append now op).1 = .ok offset

variable {s : Store} {now : Instant} {call : Call α} {c : Catalog} {applied : Nat}

theorem Serves.planWrite_eq (h : n.Serves s now) (hsync : n.catalog.sync s none = (.ok applied, c))
    (plan : Catalog → Except Error (Decision α)) :
    planWrite plan n.faults n.catalog s = (plan c, c) := by
  rw [planWrite, h.reads, hsync]

/-- An append that does not fail succeeds, whatever becomes of the reading after it. -/
theorem commitWrite_eq_ok {faults : Faults} (writes : faults.append = none) {op : Op}
    (appends : ∃ offset, (s.append now op).1 = .ok offset) (c : Catalog) :
    (commitWrite faults now op c s).1 = .ok () := by
  obtain ⟨offset, hoffset⟩ := appends
  rw [commitWrite, writes, Store.write]
  generalize s.append now op = appended at hoffset
  obtain ⟨outcome, s'⟩ := appended
  cases hoffset
  rfl

/-- A write that the log serves gets the answer of its plan on the whole log. -/
theorem Serves.perform_eq (h : n.Serves s now) (hsync : n.catalog.sync s none = (.ok applied, c)) :
    (n.perform s now subject call).1 =
      (planFor n.settings.tenant subject call c).map Decision.answer := by
  rw [perform, writeAsLeader, h.planWrite_eq hsync]
  cases planFor n.settings.tenant subject call c with
  | error e => rfl
  | ok decision =>
    obtain ⟨op?, answer⟩ := decision
    cases op? with
    | none => rfl
    | some op =>
      have hcommit := commitWrite_eq_ok h.writes (h.appends op) c
      dsimp only
      generalize commitWrite n.faults now op c s = committed at hcommit
      obtain ⟨outcome, c', s'⟩ := committed
      cases hcommit
      rfl

end Node

namespace Cluster

variable {α : Type} {c : Cluster} {i : Nat} {n l : Node} {subject : Subject} {call : Call α}
  {log : List Entry} {view : Catalog} {applied : Nat}

/-- Whether nothing keeps a write at the node waiting longer than until some time: a slow append
takes its time, and no other write is under way anywhere. -/
def Prompt (c : Cluster) (n : Node) (limit : Option Nat) : Prop :=
  n.trouble = some .slow → (∀ m ∈ c.nodes, m.underWay = none) ∧
    ∀ time, limit = some time → c.elapsed + slowAppend ≤ time

/-- A caller who stays long enough hears the answer. -/
theorem heard_eq {limit : Option Nat} {time : Nat} (hle : c.elapsed ≤ time)
    (inTime : ∀ t, limit = some t → time ≤ t) (answer : Except Error α) :
    c.heard limit answer = some answer := by
  rw [heard, if_neg]
  cases limit with
  | none => exact Bool.false_ne_true
  | some t =>
    have := inTime t rfl
    rw [Option.any_some, decide_eq_true_eq]
    omega

/-- A slow log takes its time, and that is all. -/
theorem performSlowly_eq (hi : c.node? i = some n) (serves : n.Serves c.store c.clock)
    (hsync : n.catalog.sync c.store none = (.ok applied, view)) {limit : Option Nat}
    (idle : ∀ m ∈ c.nodes, m.underWay = none)
    (inTime : ∀ time, limit = some time → c.elapsed + slowAppend ≤ time) :
    (c.performSlowly i subject call limit).1 =
      some ((Node.planFor n.settings.tenant subject call view).map Decision.answer) := by
  rw [performSlowly, await_eq_of_idle idle]
  dsimp only
  rw [hi]
  dsimp only
  rw [idle n (List.mem_of_getElem? hi), Option.isSome_none, if_neg Bool.false_ne_true, Node.plan,
    serves.planWrite_eq hsync]
  have hheard := heard_eq (α := α) (Nat.le_add_right c.elapsed slowAppend) inTime
  cases Node.planFor n.settings.tenant subject call view with
  | error e => exact hheard (.error e)
  | ok decision =>
    obtain ⟨op?, answer⟩ := decision
    cases op? with
    | none => exact hheard (.ok answer)
    | some op =>
      dsimp only
      -- The caller is still there when the append ends.
      rw [if_neg]
      · generalize hn' : ({ n with catalog := view, nextReadFails := false } : Node) = n'
        have idle' : ∀ m ∈ (c.setNode i n').nodes, m.underWay = none := by
          intro m hm
          rcases List.mem_or_eq_of_mem_set hm with hm | rfl
          · exact idle m hm
          · rw [← hn']
            exact idle n (List.mem_of_getElem? hi)
        have writes : n'.faults.append = none := by
          rw [← hn']
          exact serves.writes
        have hcommit := Node.commitWrite_eq_ok writes (serves.appends op) n'.catalog
        rw [waitUntil_eq_of_idle idle', Node.commit]
        dsimp only [setNode]
        rw [hcommit]
        rfl
      · cases limit with
        | none => exact Bool.false_ne_true
        | some time =>
          have := inTime time rfl
          rw [Option.any_some, decide_eq_true_eq]
          omega

/-- A node that serves in time answers with what it plans on the catalog that it has read up to. -/
theorem performAt_eq (hi : c.node? i = some n) (serves : n.Serves c.store c.clock)
    (hsync : n.catalog.sync c.store none = (.ok applied, view)) {limit : Option Nat}
    (prompt : c.Prompt n limit) :
    (c.performAt i n subject call limit).1 =
      some ((Node.planFor n.settings.tenant subject call view).map Decision.answer) := by
  rw [performAt]
  split
  · rename_i slow
    obtain ⟨idle, inTime⟩ := prompt slow
    exact performSlowly_eq hi serves hsync idle inTime
  · exact congrArg some (serves.perform_eq hsync)

/-! ## The way of a call -/

/-- The nodes that a call goes through, and the last of them, which leads. A follower's forwarder
brings the call to the leader, where the subject's name means the same subject, and the answer back
before the follower stops waiting. -/
inductive Way (c : Cluster) (subject : Subject) : Nat → List Node → Node → Prop where
  | leader {i : Nat} {n : Node} (here : c.node? i = some n) (leads : n.believes = .leader)
      (prompt : c.Prompt n none) : Way c subject i [n] n
  | follower {i k : Nat} {n l : Node} {leaderUrl : String} (here : c.node? i = some n)
      (follows : n.believes = .follower (some leaderUrl)) (reaches : n.forwarder = .direct k)
      (there : c.node? k = some l) (leads : l.believes = .leader)
      (same : l.resolve subject.rendered = .ok subject)
      (prompt : c.Prompt l (some (c.elapsed + n.settings.forwardTimeout))) :
      Way c subject i [n, l] l

theorem exists_submitVia (call : Call α) (headers : Headers) (entered steps : Nat) :
    ∃ onward, submitWithin call headers entered steps = submitVia onward call headers entered := by
  cases steps <;> exact ⟨_, rfl⟩

/-- A leader refuses on its own catalog too, before it reads on. This is where a catalog that lags
comes in. -/
theorem submitVia_of_leader {onward : Onward α} (here : c.node? i = some n)
    (leads : n.believes = .leader) (headers : Headers) (entered : Nat) (limit : Option Nat) :
    submitVia onward call headers entered limit c i subject =
      match n.accept subject call with
      | .error e => (some (.error e), c)
      | .ok () => c.performAt i n subject call limit := by
  rw [submitVia, here]
  dsimp only
  rw [leads]
  rfl

/-- A follower refuses on its own catalog first, and what it does not refuse it hands on and answers
as it was answered. -/
theorem submitVia_of_follower {onward : Onward α} {k : Nat} {leaderUrl : String}
    (here : c.node? i = some n) (follows : n.believes = .follower (some leaderUrl))
    (reaches : n.forwarder = .direct k) {headers : Headers} {entered : Nat}
    {answer : Except Error α}
    (onwards : (onward leaderUrl (entered + n.settings.forwardTimeout) c k subject).1 =
      some answer) :
    (submitVia onward call headers entered none c i subject).1 =
      some (match n.accept subject call with
        | .error e => .error e
        | .ok () => answer) := by
  rw [submitVia, here]
  dsimp only
  cases n.accept subject call with
  | error e => rfl
  | ok u =>
    rw [follows, Leadership.route, reaches]
    dsimp only [Option.map_none, Option.getD_none]
    generalize onward leaderUrl (entered + n.settings.forwardTimeout) c k subject = heard at onwards
    obtain ⟨answer', c'⟩ := heard
    cases onwards
    rfl

/-- A call that arrives at the leader, after a follower or at once. -/
theorem submitVia_eq_of_leader {onward : Onward α} (here : c.node? i = some l)
    (leads : l.believes = .leader) (serves : l.Serves c.store c.clock)
    (hsync : l.catalog.sync c.store none = (.ok applied, view)) {limit : Option Nat}
    (prompt : c.Prompt l limit) (headers : Headers) (entered : Nat) :
    (submitVia onward call headers entered limit c i subject).1 = some (do
      l.accept subject call
      (Node.planFor l.settings.tenant subject call view).map Decision.answer) := by
  rw [submitVia_of_leader here leads]
  cases l.accept subject call with
  | error e => rfl
  | ok u => exact performAt_eq here serves hsync prompt

/-- A write gets the first refusal on its way, and without one the answer of its plan on the catalog
that the leader's is brought to. -/
theorem Way.submit_eq {nodes : List Node} (way : c.Way subject i nodes l)
    (serves : l.Serves c.store c.clock)
    (hsync : l.catalog.sync c.store none = (.ok applied, view)) (call : Call α)
    (headers : Headers) :
    (c.submit i headers subject call).1 = (do
      nodes.forM fun m => m.accept subject call
      (Node.planFor l.settings.tenant subject call view).map Decision.answer) := by
  have hanswer : ∀ {answer}, (submitWithin call headers c.elapsed c.nodes.length none c i
      subject).1 = some answer → (c.submit i headers subject call).1 = answer := by
    intro answer h
    rw [submit, submitSince]
    generalize submitWithin call headers c.elapsed c.nodes.length none c i subject = heard at h
    obtain ⟨answer', c'⟩ := heard
    cases h
    rfl
  refine hanswer ?_
  cases way with
  | leader here leads prompt =>
    obtain ⟨onward, honward⟩ := exists_submitVia call headers c.elapsed c.nodes.length
    rw [honward, submitVia_eq_of_leader here leads serves hsync prompt]
    change _ = some ((l.accept subject call >>= fun _ => pure ()) >>= fun _ => _)
    cases l.accept subject call <;> rfl
  | follower here follows reaches there leads same prompt =>
    rename_i k n leaderUrl
    -- There is a node, so the call may be handed on once.
    obtain ⟨steps, hsteps⟩ := Nat.exists_eq_succ_of_ne_zero
      (List.length_pos_of_mem (List.mem_of_getElem? here)).ne'
    obtain ⟨onward, honward⟩ := exists_submitVia call headers c.elapsed steps
    have onwards : (handOn (submitWithin call headers c.elapsed steps) call headers leaderUrl
        (c.elapsed + n.settings.forwardTimeout) c k subject).1 = some (do
          l.accept subject call
          (Node.planFor l.settings.tenant subject call view).map Decision.answer) := by
      rw [handOn]
      generalize hc' : ({ c with handovers := _ } : Cluster) = c'
      have there' : c'.node? k = some l := hc' ▸ there
      rw [there', Option.map_some, same, honward]
      subst hc'
      exact submitVia_eq_of_leader there' leads serves hsync prompt headers c.elapsed
    rw [hsteps, submitWithin, submitVia_of_follower here follows reaches onwards]
    change _ = some ((n.accept subject call >>= fun _ =>
      (l.accept subject call >>= fun _ => pure ())) >>= fun _ => _)
    cases n.accept subject call with
    | error e => rfl
    | ok u => cases l.accept subject call <;> rfl

/-! ## Deletions -/

/-- A check of all nodes comes to the refusal of the first that refuses. -/
theorem forM_cases (nodes : List Node) (f : Node → Except Error Unit) :
    (nodes.find? (fun m => !(f m).isOk) = none ∧ nodes.forM f = .ok ()) ∨
      ∃ m e, nodes.find? (fun m => !(f m).isOk) = some m ∧ f m = .error e ∧
        nodes.forM f = .error e := by
  induction nodes with
  | nil => exact Or.inl ⟨rfl, rfl⟩
  | cons first rest ih =>
    have hforM : (first :: rest).forM f = f first >>= fun _ => rest.forM f := rfl
    rw [hforM]
    cases hfirst : f first with
    | error e =>
      refine Or.inr ⟨first, e, List.find?_cons_of_pos ?_, hfirst, rfl⟩
      rw [hfirst]
      rfl
    | ok u =>
      rw [List.find?_cons_of_neg (by rw [hfirst]; exact Bool.false_ne_true)]
      exact ih

/-- A deletion is answered with the first refusal on its way, and otherwise as it is decided at the
end of the log, by however much the leader's catalog lags. So it is answered as it is decided there
exactly if the first node that refuses it, where there is one, accepts writes and has its subject in
the state in which the log has it. -/
theorem delete_eq_answer_iff {nodes : List Node} {k : Nat} {permanent : Bool}
    (way : c.Way subject i nodes l) (serves : l.Serves c.store c.clock)
    (held : c.store.Holds log) (lag : l.catalog = .ofEntries (log.take k)) (headers : Headers) :
    (c.delete i headers subject permanent).1 = (do
        nodes.forM fun m => m.accept subject (.delete permanent)
        Deletion.answer (.ofEntries log) subject permanent) ∧
      ((c.delete i headers subject permanent).1 =
          Deletion.answer (.ofEntries log) subject permanent ↔
        ∀ m, nodes.find? (fun m => !(m.accept subject (.delete permanent)).isOk) = some m →
          m.settings.mode = .readWrite ∧
            m.catalog.state subject = (Catalog.ofEntries log).state subject) := by
  -- The leader catches up before it plans, so its answer is that of the whole log.
  have hsync := held.sync k
  rw [← lag] at hsync
  have hsubmit := way.submit_eq serves hsync (.delete permanent) headers
  rw [Node.answer_planFor_delete] at hsubmit
  rw [delete, hsubmit]
  refine ⟨rfl, ?_⟩
  rcases forM_cases nodes fun m => m.accept subject (.delete permanent) with
    ⟨hnone, hforM⟩ | ⟨m, e, hsome, hrefused, hforM⟩
  · rw [hforM, hnone]
    exact ⟨fun _ m hm => (nomatch hm), fun _ => rfl⟩
  · rw [hforM, hsome]
    -- The first node on the way that refuses gives the answer. It agrees with the leader if that
    -- node sees the state the leader sees.
    have hrefusal := Node.answer_eq_error_iff hrefused (c := .ofEntries log)
    refine ⟨fun h m' hm' => ?_, fun h => ?_⟩
    · cases hm'
      exact hrefusal.mp h.symm
    · exact (hrefusal.mpr (h m rfl)).symm

/-- The subject `orders` of the default tenant. -/
def orders : Subject :=
  { tenant := "default", context := ".", localName := "orders" }

/-- The log of a registry in which one version of `orders` was registered. -/
def ordersLog : List Entry :=
  [{ offset := 1
     op := .register
      { subject := orders, number := 1, id := 1, format := .avro, references := [],
        text := "\"string\"", isDeleted := false }
     appendedAt := default }]

/-- A leader that has not read its log, behind a follower that has. -/
def unreadLeader : Cluster :=
  { store := .memory ordersLog
    nodes :=
      [{ leadership := .leader },
        { leadership := .follower (some "http://leader"), forwarder := .direct 0
          catalog := .ofEntries ordersLog }]
    clock := default }

theorem contiguous_ordersLog : Contiguous ordersLog := by
  intro k e he
  cases k with
  | zero =>
    cases he
    rfl
  | succ k => cases he

theorem delete_eq_answer_iff_unreadLeader :
    (unreadLeader.delete 1 [] orders false).1 = (do
        unreadLeader.nodes.reverse.forM fun m => m.accept orders (.delete false)
        Deletion.answer (.ofEntries ordersLog) orders false) ∧
      ((unreadLeader.delete 1 [] orders false).1 =
          Deletion.answer (.ofEntries ordersLog) orders false ↔
        ∀ m, unreadLeader.nodes.reverse.find?
            (fun m => !(m.accept orders (.delete false)).isOk) = some m →
          m.settings.mode = .readWrite ∧
            m.catalog.state orders = (Catalog.ofEntries ordersLog).state orders) :=
  delete_eq_answer_iff (k := 0)
    (.follower rfl rfl rfl rfl rfl rfl fun slow => absurd slow (by decide))
    ⟨rfl, rfl, fun _ => ⟨_, rfl⟩⟩ contiguous_ordersLog.holds_memory rfl []

/-- A leader that has not read its log refuses a deletion that the log allows. -/
theorem delete_refused_by_unreadLeader :
    (unreadLeader.delete 0 [] orders false).1 = .error (.subjectNotFound "orders") ∧
      Deletion.answer (.ofEntries ordersLog) orders false = .ok [1] :=
  ⟨by decide +kernel, by decide +kernel⟩

end Cluster

end SchemaRegistry
