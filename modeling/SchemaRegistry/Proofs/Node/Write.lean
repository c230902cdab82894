import SchemaRegistry.Node.Basic
import SchemaRegistry.Proofs.Log.History
/-!
# Writes of one node

A write at the leader goes through a log that may fail it at three points, and starts from a catalog
that may lag. Neither shows in its plan: what is planned is planned on the catalog of the whole log.
The outcomes of a write are listed once, in `Written`, together with the catalog and the log that
each leaves behind, so that later arguments go through five cases instead of through the code.
-/

set_option autoImplicit false

namespace SchemaRegistry

variable {α : Type} {log : List Entry} {c : Catalog}

/-! ## Catching up -/

namespace Catalog

/-- A reading that does not fail brings a catalog to the end of the log. -/
theorem Follows.sync_none (h : c.Follows log) :
    c.sync (.memory log) none = (.ok (ofEntries log).applied, ofEntries log) := by
  rw [sync]
  change ((Except.ok (c.applyAll (log.drop c.applied)).applied : Except LogFailure Nat),
    c.applyAll (log.drop c.applied)) = _
  rw [h.applyAll_drop]

/-- Where a reading leaves a catalog, whether or not it fails. -/
theorem Follows.sync_cases (h : c.Follows log) (fault : Option LogFailure) :
    (c.sync (.memory log) fault).2 = c ∨ (c.sync (.memory log) fault).2 = ofEntries log := by
  cases fault with
  | some failure => exact Or.inl rfl
  | none =>
    rw [h.sync_none]
    exact Or.inr rfl

end Catalog

/-! ## Moving on -/

/-- A catalog and a log move on: the log grows into a longer history, and the catalog follows it and
loses no ground. -/
structure Advance (c : Catalog) (log : List Entry) (c' : Catalog) (log' : List Entry) : Prop where
  grown : log <+: log'
  history : History log'
  follows : c'.Follows log'
  applied_le : c.applied ≤ c'.applied

namespace Advance

theorem refl (h : History log) (hc : c.Follows log) : Advance c log c log where
  grown := List.prefix_rfl
  history := h
  follows := hc
  applied_le := Nat.le_refl _

/-- A catalog may stay behind while the log grows. -/
theorem stay {log' : List Entry} (h : History log') (hc : c.Follows log) (grown : log <+: log') :
    Advance c log c log' where
  grown
  history := h
  follows := hc.mono grown
  applied_le := Nat.le_refl _

/-- A catalog may be brought to the end of a log that has grown. -/
theorem toEnd {log' : List Entry} (h : History log') (hc : c.Follows log) (grown : log <+: log') :
    Advance c log (.ofEntries log') log' where
  grown
  history := h
  follows := h.follows_ofEntries
  applied_le := by
    rw [h.applied]
    exact (hc.mono grown).applied_le

/-- Two writes one after the other take the catalog and the log as far as both do. -/
theorem trans {c' c'' : Catalog} {log' log'' : List Entry} (h : Advance c log c' log')
    (h' : Advance c' log' c'' log'') : Advance c log c'' log'' where
  grown := h.grown.trans h'.grown
  history := h'.history
  follows := h'.follows
  applied_le := h.applied_le.trans h'.applied_le

end Advance

/-! ## Writing -/

/-- An append that does not fail puts the operation behind all others. -/
theorem Contiguous.write_none (h : Contiguous log) (now : Instant) (op : Op) :
    (Store.memory log).write none now op =
      (.ok (log.length + 1), .memory (log ++ [Entry.next log op now])) := by
  rw [Store.write, Store.append]
  dsimp only
  rw [h.nextOffset]
  rfl

/-- A reading that does not fail takes in all that is behind the entries applied already. -/
theorem Store.eq_drop_of_read {fault : Option LogFailure} {applied : Nat} {entries : List Entry}
    (h : (memory log).read fault applied = .ok entries) : entries = log.drop applied := by
  cases fault with
  | some failure => cases h
  | none =>
    cases h
    rfl

theorem planWrite_of_fault {plan : Catalog → Except Error (Decision α)} {faults : Faults}
    {failure : LogFailure} (h : faults.beforePlan = some failure) (s : Store) :
    planWrite plan faults c s = (.error failure.error, c) := by
  rw [planWrite, h]
  rfl

/-- The plan of a write is made on the catalog of the whole log. -/
theorem Catalog.Follows.planWrite_eq (hc : c.Follows log)
    {plan : Catalog → Except Error (Decision α)} {faults : Faults}
    (h : faults.beforePlan = none) :
    planWrite plan faults c (.memory log) = (plan (ofEntries log), ofEntries log) := by
  rw [planWrite, h, hc.sync_none]

theorem commitWrite_of_fault {faults : Faults} {failure : LogFailure}
    (h : faults.append = some failure) (now : Instant) (op : Op) (s : Store) :
    commitWrite faults now op c s = (.error failure.error, c, s) := by
  rw [commitWrite, h]
  rfl

/-- Once the append has succeeded the answer is a success, also if the reading behind it fails: only
the catalog of the node shows it. -/
theorem History.commitWrite_eq (hlog : History log) {faults : Faults} (h : faults.append = none)
    (now : Instant) (op : Op) :
    commitWrite faults now op c (.memory log) =
      (.ok (), (c.sync (.memory (log ++ [Entry.next log op now])) faults.afterAppend).2,
        .memory (log ++ [Entry.next log op now])) := by
  rw [commitWrite, h, hlog.contiguous.write_none]

/-- The outcomes of a write: the answer, and the catalog and the log that it leaves behind. -/
inductive Written (plan : Catalog → Except Error (Decision α)) (faults : Faults) (now : Instant)
    (c : Catalog) (log : List Entry) : Except Error α × Catalog × Store → Prop where
  | unread {failure : LogFailure} (fault : faults.beforePlan = some failure) :
      Written plan faults now c log (.error failure.error, c, .memory log)
  | refused {e : Error} (read : faults.beforePlan = none)
      (planned : plan (.ofEntries log) = .error e) :
      Written plan faults now c log (.error e, .ofEntries log, .memory log)
  /-- All was as it should be already. -/
  | idle {answer : α} (read : faults.beforePlan = none)
      (planned : plan (.ofEntries log) = .ok { op := none, answer }) :
      Written plan faults now c log (.ok answer, .ofEntries log, .memory log)
  | unwritten {op : Op} {answer : α} {failure : LogFailure} (read : faults.beforePlan = none)
      (planned : plan (.ofEntries log) = .ok { op := some op, answer })
      (fault : faults.append = some failure) :
      Written plan faults now c log (.error failure.error, .ofEntries log, .memory log)
  /-- The entry is in the log, and the catalog may have missed it. -/
  | appended {op : Op} {answer : α} {c' : Catalog} (read : faults.beforePlan = none)
      (planned : plan (.ofEntries log) = .ok { op := some op, answer })
      (written : faults.append = none)
      (caught : c' = .ofEntries log ∨ c' = .ofEntries (log ++ [Entry.next log op now])) :
      Written plan faults now c log
        (.ok answer, c', .memory (log ++ [Entry.next log op now]))

/-- Every write at the leader comes to one of the outcomes. -/
theorem History.written (hlog : History log) (hc : c.Follows log)
    (plan : Catalog → Except Error (Decision α)) (faults : Faults) (now : Instant) :
    Written plan faults now c log (writeAsLeader plan faults now c (.memory log)) := by
  cases hread : faults.beforePlan with
  | some failure =>
    rw [writeAsLeader, planWrite_of_fault hread]
    exact .unread hread
  | none =>
    rw [writeAsLeader, hc.planWrite_eq hread]
    cases hplan : plan (.ofEntries log) with
    | error e => exact .refused hread hplan
    | ok decision =>
      obtain ⟨op?, answer⟩ := decision
      cases op? with
      | none => exact .idle hread hplan
      | some op =>
        dsimp only
        cases hwrite : faults.append with
        | some failure =>
          rw [commitWrite_of_fault hwrite]
          exact .unwritten hread hplan hwrite
        | none =>
          rw [hlog.commitWrite_eq hwrite]
          refine .appended hread hplan hwrite ?_
          -- The catalog that planned shows the log up to the new entry, and so reads on from there.
          exact (hlog.follows_ofEntries.mono (List.prefix_append _ _)).sync_cases faults.afterAppend

/-- Whatever comes of a write, the catalog and the log move on. -/
theorem Written.advance {plan : Catalog → Except Error (Decision α)} {faults : Faults}
    {now : Instant} {answer : Except Error α} {c' : Catalog} {s' : Store} (hlog : History log)
    (hc : c.Follows log)
    (decided : ∀ {op answer}, plan (.ofEntries log) = .ok { op := some op, answer } →
      (Catalog.ofEntries log).Decides op)
    (h : Written plan faults now c log (answer, c', s')) :
    ∃ log', s' = .memory log' ∧ Advance c log c' log' := by
  cases h with
  | unread fault => exact ⟨log, rfl, .refl hlog hc⟩
  | refused read planned => exact ⟨log, rfl, .toEnd hlog hc List.prefix_rfl⟩
  | idle read planned => exact ⟨log, rfl, .toEnd hlog hc List.prefix_rfl⟩
  | unwritten read planned fault => exact ⟨log, rfl, .toEnd hlog hc List.prefix_rfl⟩
  | appended read planned written caught =>
    rename_i op answer
    have hlog' := hlog.append (decided planned) now
    have grown := List.prefix_append log [Entry.next log op now]
    refine ⟨_, rfl, ?_⟩
    rcases caught with rfl | rfl
    · have hend := Advance.toEnd hlog hc List.prefix_rfl
      exact ⟨grown, hlog', hend.follows.mono grown, hend.applied_le⟩
    · exact .toEnd hlog' hc grown

/-! ## Nodes -/

namespace Node

variable {n : Node} {subject : Subject} {call : Call α}

/-- A node and the log move on, and the node keeps its settings and its work. -/
structure Moves (n : Node) (log : List Entry) (n' : Node) (log' : List Entry) : Prop where
  advance : Advance n.catalog log n'.catalog log'
  settings : n'.settings = n.settings
  underWay : n'.underWay = n.underWay
  errands : n'.errands = n.errands

theorem Moves.trans {n' n'' : Node} {log' log'' : List Entry} (h : n.Moves log n' log')
    (h' : n'.Moves log' n'' log'') : n.Moves log n'' log'' where
  advance := h.advance.trans h'.advance
  settings := h'.settings.trans h.settings
  underWay := h'.underWay.trans h.underWay
  errands := h'.errands.trans h.errands

/-- A reading moves the catalog forward along the log, or leaves it where it is if the log cannot be
read. -/
theorem sync_moves (hlog : History log) (hc : n.catalog.Follows log) :
    n.Moves log (n.sync (.memory log)).2 log := by
  refine ⟨?_, rfl, rfl, rfl⟩
  change Advance n.catalog log (n.catalog.sync (.memory log) n.readFault).2 log
  rcases hc.sync_cases n.readFault with h | h
  · rw [h]
    exact .refl hlog hc
  · rw [h]
    exact .toEnd hlog hc List.prefix_rfl

/-- The first half of a write: what it comes to is decided on the whole log. -/
theorem plan_eq (hlog : History log) (hc : n.catalog.Follows log)
    (admitted : call.Admits n.settings.tenant subject) :
    ∃ decision n', n.plan (.memory log) subject call = (decision, n') ∧ n.Moves log n' log ∧
      ∀ op answer, decision = .ok { op := some op, answer } →
        (Catalog.ofEntries log).Decides op := by
  cases hread : n.faults.beforePlan with
  | some failure =>
    refine ⟨.error failure.error, { n with nextReadFails := false }, ?_,
      ⟨.refl hlog hc, rfl, rfl, rfl⟩, nofun⟩
    rw [plan, planWrite_of_fault hread]
  | none =>
    refine ⟨planFor n.settings.tenant subject call (.ofEntries log),
      { n with catalog := .ofEntries log, nextReadFails := false }, ?_,
      ⟨.toEnd hlog hc List.prefix_rfl, rfl, rfl, rfl⟩,
      fun op answer h => decides_of_planFor admitted h⟩
    rw [plan, hc.planWrite_eq hread]

/-- The second half of a write whose operation was decided on the log as it still is. -/
theorem commit_eq (hlog : History log) (hc : n.catalog.Follows log) {op : Op}
    (decided : (Catalog.ofEntries log).Decides op) (now : Instant) :
    ∃ outcome n' log', n.commit (.memory log) now op = (outcome, n', .memory log') ∧
      n.Moves log n' log' := by
  cases hwrite : n.faults.append with
  | some failure =>
    refine ⟨.error failure.error, n, log, ?_, .refl hlog hc, rfl, rfl, rfl⟩
    rw [commit, commitWrite_of_fault hwrite]
  | none =>
    have hlog' := hlog.append decided now
    have grown := List.prefix_append log [Entry.next log op now]
    rcases (hc.mono grown).sync_cases n.faults.afterAppend with h | h
    · refine ⟨.ok (), n, _, ?_, .stay hlog' hc grown, rfl, rfl, rfl⟩
      rw [commit, hlog.commitWrite_eq hwrite, h]
    · refine ⟨.ok (), { n with catalog := .ofEntries (log ++ [Entry.next log op now]) }, _, ?_,
        .toEnd hlog' hc grown, rfl, rfl, rfl⟩
      rw [commit, hlog.commitWrite_eq hwrite, h]

/-- A call that runs on a node from beginning to end. -/
theorem perform_eq (hlog : History log) (hc : n.catalog.Follows log)
    (admitted : call.Admits n.settings.tenant subject) (now : Instant) :
    ∃ outcome n' log', n.perform (.memory log) now subject call = (outcome, n', .memory log') ∧
      n.Moves log n' log' := by
  have hwritten := hlog.written hc (planFor n.settings.tenant subject call) n.faults now
  generalize hw : writeAsLeader (planFor n.settings.tenant subject call) n.faults now n.catalog
    (.memory log) = outcome at hwritten
  obtain ⟨answer, c', s'⟩ := outcome
  obtain ⟨log', rfl, moved⟩ :=
    hwritten.advance hlog hc fun planned => decides_of_planFor admitted planned
  refine ⟨answer, { n with catalog := c', nextReadFails := false }, log', ?_, moved, rfl, rfl, rfl⟩
  rw [perform, hw]

end Node

end SchemaRegistry
