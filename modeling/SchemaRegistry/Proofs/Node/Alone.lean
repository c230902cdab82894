import SchemaRegistry.Proofs.Node.Desk
/-!
# A task that is left alone

A desk takes a write apart into moves. Here they are put together again: when nothing comes in
between, a task answers what `Node.perform` answers, and leaves the same catalog and the same log
behind. So whatever is known of writes in one go is known of those runs of a desk, and a desk adds
nothing to a write but the halts in it.
-/

set_option autoImplicit false

namespace SchemaRegistry

variable {α β : Type}

theorem Errand.plan_of (tenant : String) (subject : Subject) (call : Call α) (c : Catalog) :
    (Errand.of subject call).plan tenant c =
      (Node.planFor tenant subject call c).map (Decision.map (Receipt.of call)) := by
  cases call <;> rfl

theorem Errand.accept_of (n : Node) (subject : Subject) (call : Call α) :
    (Errand.of subject call).accept n = n.accept subject call := by
  cases call <;> rfl

/-- A write whose plan is told in other words is told in those words. -/
theorem writeAsLeader_map (f : α → β) (plan : Catalog → Except Error (Decision α))
    (faults : Faults) (now : Instant) (c : Catalog) (s : Store) :
    writeAsLeader (fun c => (plan c).map (Decision.map f)) faults now c s =
      ((writeAsLeader plan faults now c s).1.map f, (writeAsLeader plan faults now c s).2) := by
  rw [writeAsLeader, writeAsLeader, planWrite, planWrite]
  generalize c.sync s faults.beforePlan = synced
  obtain ⟨outcome, c⟩ := synced
  cases outcome with
  | error failure => rfl
  | ok offset =>
    dsimp only
    cases plan c with
    | error e => rfl
    | ok decision =>
      obtain ⟨op?, answer⟩ := decision
      cases op? with
      | none => rfl
      | some op =>
        change ((commitWrite faults now op c s).1.map fun () => f answer, _) =
          (((commitWrite faults now op c s).1.map fun () => answer).map f, _)
        cases (commitWrite faults now op c s).1 <;> rfl

namespace Desk

variable {n : Node} {errand : Errand} {stage : Stage} {s : Store}

/-- A desk with one task, which has the lock. -/
def solo (n : Node) (errand : Errand) (stage : Stage) : Desk :=
  { node := n, lock := some 0, tasks := [{ errand, stage }] }

/-- A desk with one task, which has ended. -/
def ended (n : Node) (errand : Errand) (offset : Option Nat) (result : Except Error Receipt) :
    Desk :=
  { node := n, tasks := [{ errand, stage := .finished offset result }] }

/-- The applier applies what it has read and becomes free. -/
theorem run_apply (d : Desk) (owner : Option Nat) (entries : List Entry) :
    ({ d with applier := .applying owner entries } : Desk).run s
        (List.replicate (entries.length + 1) .apply) =
      (({ d with
          node := { d.node with catalog := d.node.catalog.applyAll entries } } : Desk).release
        owner (.ok ()), s) := by
  induction entries generalizing d with
  | nil => rfl
  | cons entry rest ih =>
    rw [List.length_cons, List.replicate_succ, run]
    exact ih { d with node := { d.node with catalog := d.node.catalog.apply entry } }

/-- A task catches up as `Catalog.sync` does. -/
theorem exists_run_sync (n : Node) (errand : Errand) (s : Store) (syncing : stage.isSyncing)
    (fault : Option LogFailure) :
    ∃ moves, (solo n errand stage).run s moves =
      ((solo { n with catalog := (n.catalog.sync s fault).2 } errand stage).release (some 0)
        ((n.catalog.sync s fault).1.map fun _ => ()), s) := by
  have entered : (solo n errand stage).enter (some 0) =
      { solo n errand stage with applier := .reading (some 0) n.catalog.applied } := by
    have stands : (some 0).all (fun i => ((solo n errand stage).place? i).any
      fun place => place.2.isSyncing) = true := syncing
    rw [enter]
    exact if_pos stands
  rw [Catalog.sync]
  cases hread : s.read fault n.catalog.applied with
  | error failure =>
    refine ⟨[.enter (some 0), .read fault], ?_⟩
    rw [run, step, entered, run, step, Desk.read]
    dsimp only
    rw [hread]
    rfl
  | ok entries =>
    -- One move for each entry, and one to find that there are no more.
    refine ⟨.enter (some 0) :: .read fault :: List.replicate (entries.length + 1) .apply, ?_⟩
    rw [run, step, entered, run, step, Desk.read]
    dsimp only
    rw [hread]
    exact run_apply (solo n errand stage) (some 0) entries

/-- The second half of a write that has planned. -/
theorem exists_run_commit (errand : Errand) (s : Store) (leads : n.believes.isLeader) (op : Op)
    (answer : Receipt) (faults : Faults) (now : Instant) :
    ∃ moves offset, (solo n errand (.appending op answer)).run s moves =
      (ended { n with catalog := (commitWrite faults now op n.catalog s).2.1 } errand offset
        ((commitWrite faults now op n.catalog s).1.map fun () => answer),
        (commitWrite faults now op n.catalog s).2.2) := by
  have checked : (solo n errand (.appending op answer)).check 0 =
      solo n errand (.pushing op answer) := if_pos leads
  have stands : (solo n errand (.pushing op answer)).place? 0 =
      some (errand, .pushing op answer) := rfl
  rw [commitWrite]
  -- The moves are the check of leadership and the push. Only after an append that succeeded is
  -- there something to catch up with.
  cases hwrite : s.write faults.append now op with
  | mk outcome s' =>
  cases outcome with
  | error failure =>
    have pushed : (solo n errand (.pushing op answer)).push s 0 faults.append now =
        (ended n errand none (.error failure.error), s') := by
      rw [push, stands]
      dsimp only
      rw [hwrite]
      rfl
    refine ⟨[.check 0, .push 0 faults.append now], none, ?_⟩
    rw [run, step, checked, run, step, pushed]
    rfl
  | ok offset =>
    have pushed : (solo n errand (.pushing op answer)).push s 0 faults.append now =
        (solo n errand (.settling offset answer), s') := by
      rw [push, stands]
      dsimp only
      rw [hwrite]
      rfl
    have syncing : (Stage.settling offset answer).isSyncing := rfl
    obtain ⟨moves, hmoves⟩ := exists_run_sync n errand s' syncing faults.afterAppend
    refine ⟨.check 0 :: .push 0 faults.append now :: moves, some offset, ?_⟩
    rw [run, step, checked, run, step, pushed]
    exact hmoves

/-- A write that has caught up. -/
theorem exists_run_plan (errand : Errand) (s : Store) (leads : n.believes.isLeader)
    (faults : Faults) (now : Instant) :
    ∃ moves offset, (solo n errand .planning).run s moves =
      match errand.plan n.settings.tenant n.catalog with
      | .error e => (ended n errand offset (.error e), s)
      | .ok { op := none, answer } => (ended n errand offset (.ok answer), s)
      | .ok { op := some op, answer } =>
        (ended { n with catalog := (commitWrite faults now op n.catalog s).2.1 } errand offset
          ((commitWrite faults now op n.catalog s).1.map fun () => answer),
          (commitWrite faults now op n.catalog s).2.2) := by
  -- A plan without an operation ends the task at once; all that follows an operation is a commit.
  have planned : (solo n errand .planning).plan 0 =
      match errand.plan n.settings.tenant n.catalog with
      | .error e => ended n errand none (.error e)
      | .ok { op := none, answer } => ended n errand none (.ok answer)
      | .ok { op := some op, answer } => solo n errand (.appending op answer) := rfl
  generalize errand.plan n.settings.tenant n.catalog = decision at planned
  match decision with
  | .error e | .ok { op := none, answer } =>
    refine ⟨[.plan 0], none, ?_⟩
    rw [run, step, planned]
    rfl
  | .ok { op := some op, answer } =>
    obtain ⟨moves, offset, hmoves⟩ := exists_run_commit errand s leads op answer faults now
    refine ⟨.plan 0 :: moves, offset, ?_⟩
    rw [run, step, planned]
    exact hmoves

/-- A task that is left alone does what a write in one go does. -/
theorem exists_run_alone (leads : n.believes = .leader) (accepted : errand.accept n = .ok ())
    (faults : Faults) (now : Instant) (s : Store) {result : Except Error Receipt} {c : Catalog}
    {s' : Store}
    (written : writeAsLeader (fun c => errand.plan n.settings.tenant c) faults now n.catalog s =
      (result, c, s')) :
    ∃ moves offset, ({ node := n } : Desk).run s (.call errand :: moves) =
      (ended { n with catalog := c } errand offset result, s') := by
  have called : ({ node := n } : Desk).call errand = { node := n, tasks := [{ errand }] } := by
    rw [call]
    dsimp only
    rw [accepted, leads]
    rfl
  have taken : ({ node := n, tasks := [{ errand }] } : Desk).take 0 = solo n errand .syncing := rfl
  have syncing : Stage.syncing.isSyncing := rfl
  -- A write is put together of the moves by which it catches up and of those by which it plans and
  -- appends. The first part ends the task if the reading fails.
  obtain ⟨moves₁, hmoves₁⟩ := exists_run_sync n errand s syncing faults.beforePlan
  rw [writeAsLeader, planWrite] at written
  generalize n.catalog.sync s faults.beforePlan = synced at written hmoves₁
  obtain ⟨outcome, c₁⟩ := synced
  cases outcome with
  | error failure =>
    cases written
    refine ⟨.take 0 :: moves₁, none, ?_⟩
    rw [run, step, called, run, step, taken]
    exact hmoves₁
  | ok applied =>
    have leads' : ({ n with catalog := c₁ } : Node).believes.isLeader :=
      congrArg Leadership.isLeader leads
    -- Reading on does not change what the node believes.
    obtain ⟨moves₂, offset, hmoves₂⟩ := exists_run_plan errand s leads' faults now
    refine ⟨.take 0 :: (moves₁ ++ moves₂), offset, ?_⟩
    rw [run, step, called, run, step, taken, run_append, hmoves₁]
    refine Eq.trans hmoves₂ ?_
    dsimp only at written ⊢
    cases hplan : errand.plan n.settings.tenant c₁ with
    | error e =>
      rw [hplan] at written
      cases written
      rfl
    | ok decision =>
      rw [hplan] at written
      obtain ⟨op?, answer⟩ := decision
      cases op? with
      | none =>
        cases written
        rfl
      | some op =>
        cases written
        rfl

/-- A call that a node accepts as the leader is performed in a run of a desk. -/
theorem exists_run_perform {α : Type} {subject : Subject} {call : Call α}
    (leads : n.believes = .leader) (accepted : n.accept subject call = .ok ()) (now : Instant)
    (s : Store) :
    ∃ moves offset, ({ node := n } : Desk).run s (.call (.of subject call) :: moves) =
      (ended { n with catalog := (n.perform s now subject call).2.1.catalog } (.of subject call)
        offset ((n.perform s now subject call).1.map (Receipt.of call)),
        (n.perform s now subject call).2.2) := by
  rw [← Errand.accept_of] at accepted
  refine exists_run_alone leads accepted n.faults now s ?_
  have hplan : (fun c => (Errand.of subject call).plan n.settings.tenant c) =
      fun c => (Node.planFor n.settings.tenant subject call c).map
        (Decision.map (Receipt.of call)) :=
    funext fun c => Errand.plan_of n.settings.tenant subject call c
  rw [hplan, writeAsLeader_map]
  rfl

end Desk

end SchemaRegistry
